/-
Purpose: the fields that the protobuf codec writes: their sizes, that they can be
told apart, and that its reader reads them back.
-/
import Heyaki.Core.ProtoCodec
import Heyaki.Proofs.Varint

namespace Heyaki.ProtoCodec

open Foundation Varint List

variable {field : UInt32} {value w : UInt64} {index n : Nat} (v : UInt64) {wireType byte : UInt8}

theorem toNat_shiftRight_seven : (v >>> 7).toNat = v.toNat / 128 := by
  rw [UInt64.toNat_shiftRight, show (7 : UInt64).toNat % 64 = 7 from rfl,
    Nat.shiftRight_eq_div_pow]

theorem toNat_low_group : ((v &&& 0x7f).toUInt8).toNat = v.toNat % 128 := by
  rw [UInt64.toNat_toUInt8, UInt64.toNat_and, show (0x7f : UInt64).toNat = 2 ^ 7 - 1 from rfl,
    Nat.and_two_pow_sub_one_eq_mod]
  omega

theorem appendVarint_eq_encode : appendVarint v = encode v.toNat := by
  refine eq_encode_of_rounds toNat_low_group toNat_shiftRight_seven (fun rounds v => ?_) 9 v
    (lt_of_lt_of_le v.toNat_lt (by decide))
  simp only [appendVarintRounds, ne_eq, ← UInt64.toNat_inj, UInt64.toNat_zero]

/-! ### Telling fields apart -/

theorem appendVarint_append_inj {v : UInt64} {rest other : List UInt8}
    (same : appendVarint v ++ rest = appendVarint w ++ other) : v = w ∧ rest = other := by
  rw [appendVarint_eq_encode, appendVarint_eq_encode] at same
  obtain ⟨values, rests⟩ := encode_append_inj same
  exact ⟨UInt64.toNat_inj.mp values, rests⟩

theorem appendUint_inj {v : UInt64} (same : appendUint field v = appendUint field w) : v = w := by
  have values : appendVarint v = appendVarint w := append_cancel_left same
  exact (appendVarint_append_inj (congrArg (· ++ []) values)).1

theorem appendBytes_inj {one two : List UInt8}
    (same : appendBytes field one = appendBytes field two) : one = two :=
  (appendVarint_append_inj (append_cancel_left same)).2

/-! ### Sizes of fields -/

def numberSize (value : Nat) : Nat := 1 + (encode value).length

/-- A field of bytes: the tag, the length and the bytes.  Lengths are 64-bit. -/
def bytesSize (length : Nat) : Nat := 1 + (encode (length % 2 ^ 64)).length + length

theorem length_appendTag (small : ((field.toUInt64 <<< 3) ||| wireType.toUInt64).toNat < 128) :
    (appendTag field wireType).length = 1 := by
  rw [appendTag, appendVarint_eq_encode, encode_of_lt small]
  rfl

theorem length_appendUint (small : ((field.toUInt64 <<< 3) ||| (0 : UInt8).toUInt64).toNat < 128) :
    (appendUint field value).length = numberSize value.toNat := by
  rw [appendUint, length_append, length_appendTag small, appendVarint_eq_encode, numberSize]

theorem length_appendBytes {value : List UInt8}
    (small : ((field.toUInt64 <<< 3) ||| (2 : UInt8).toUInt64).toNat < 128) :
    (appendBytes field value).length = bytesSize value.length := by
  rw [appendBytes, length_append, length_append, length_appendTag small,
    appendVarint_eq_encode, UInt64.toNat_ofNat', bytesSize, Nat.add_assoc]

/-! ### Reading numbers -/

theorem and_last_eq_zero_iff : ∀ b : UInt8, b &&& 0xfe = 0 ↔ b.toNat < 2 :=
  forall_byte (by decide +kernel)

/-- One round of the reading loop adds the next group above the accumulator. -/
theorem accumulate_toNat (byte : UInt8) (inside : index ≤ 9) (fits : index = 9 → byte.toNat < 2 ^ 1)
    (below : value.toNat < 2 ^ (7 * index)) :
    (value ||| ((byte &&& 0x7f).toUInt64 <<< UInt64.ofNat (7 * index))).toNat =
      value.toNat + 2 ^ (7 * index) * (byte.toNat % 128) := by
  have shift : (UInt64.ofNat (7 * index)).toNat % 64 = 7 * index := by
    rw [UInt64.toNat_ofNat']
    omega
  have group : (byte.toNat % 128) <<< (7 * index) < 2 ^ 64 := by
    rw [Nat.shiftLeft_eq]
    interval_cases index <;> omega
  rw [UInt64.toNat_or, UInt64.toNat_shiftLeft, shift, UInt8.toNat_toUInt64, toNat_and_low,
    Nat.mod_eq_of_lt group, or_shiftLeft_eq_add below]

variable (component : String) {σ : Type} {fields : List WireField} {input rest : List UInt8}

/-- The reading loop, byte by byte: the accumulator holds the groups read so far. -/
theorem readVarintFrom_eq_ok_iff (inside : index ≤ 9) (below : value.toNat < 2 ^ (7 * index)) :
    readVarintFrom component index value input = .ok (w, rest) ↔
      Reads 9 1 index value.toNat input w.toNat rest := by
  induction input generalizing index value with
  | nil =>
    rw [readVarintFrom, if_neg (by omega)]
    simp [Reads, encode_ne_nil]
  | cons b input ih =>
    rw [readVarintFrom, if_neg (by omega)]
    simp only [ne_eq, and_last_eq_zero_iff, not_lt, and_high_eq_zero_iff, and_low_eq_zero_iff]
    by_cases overflow : index = 9 ∧ 2 ≤ b.toNat
    · rw [if_pos overflow, overflow.1]
      simp [not_reads_of_overflow (show 1 ≤ 7 by decide) overflow.2]
    have fits : index = 9 → b.toNat < 2 ^ 1 := by omega
    have sum := accumulate_toNat b inside fits below
    rw [if_neg overflow]
    generalize value ||| ((b &&& 0x7f).toUInt64 <<< UInt64.ofNat (7 * index)) = next at sum ⊢
    by_cases low : b.toNat < 128
    · rw [Nat.mod_eq_of_lt low] at sum ⊢
      rw [if_pos low, reads_final_iff inside fits low, ← sum, UInt64.toNat_inj]
      split_ifs with zero
      · exact iff_of_false not_false fun read => read.1 zero.1 zero.2
      · rw [Except.ok.injEq, Prod.mk.injEq, eq_comm, eq_comm (a := input)]
        exact (and_iff_right fun later null => zero ⟨later, null⟩).symm
    · rw [if_neg low, ih (by omega) (sum ▸ accumulate_below below (Nat.mod_lt _ (by decide))),
        reads_continue_iff (by omega) (Nat.not_lt.mp low), sum]

/-- A number is read exactly when the input begins with its canonical code. -/
theorem readVarint_eq_ok_iff :
    readVarint component input = .ok (w, rest) ↔ input = appendVarint w ++ rest := by
  rw [readVarint, readVarintFrom_eq_ok_iff component (by decide) (by decide), appendVarint_eq_encode]
  constructor
  · rintro ⟨n, rfl, -, -, total⟩
    have value : w.toNat = n := by simpa using total
    rw [value]
  · rintro rfl
    exact ⟨_, rfl, w.toNat_lt, nofun, by simp⟩

theorem readVarint_appendVarint (value : UInt64) (rest : List UInt8) :
    readVarint component (appendVarint value ++ rest) = .ok (value, rest) :=
  (readVarint_eq_ok_iff component).mpr rfl

/-! ### Reading fields -/

inductive WireField where
  | uint (field : UInt32) (value : UInt64)
  | bytes (field : UInt32) (value : List UInt8)

namespace WireField

def write : WireField → List UInt8
  | .uint field value => appendUint field value
  | .bytes field value => appendBytes field value

def read : WireField → ProtoField
  | .uint field value => { number := field, wireType := 0, integer := value }
  | .bytes field value => { number := field, wireType := 2, bytes := value }

/-- The numbers that a tag can carry, and the lengths that 64 bits can. -/
def Writable : WireField → Prop
  | .uint field _ => 0 < field.toNat ∧ field.toNat < 2 ^ 29
  | .bytes field value => 0 < field.toNat ∧ field.toNat < 2 ^ 29 ∧ value.length < 2 ^ 64

end WireField

open WireField

theorem tag_toNat (small : field.toNat < 2 ^ 29) (kind : wireType.toNat < 8) :
    ((field.toUInt64 <<< 3) ||| wireType.toUInt64).toNat = 8 * field.toNat + wireType.toNat := by
  have shifted : (field.toUInt64 <<< 3).toNat = field.toNat <<< 3 := by
    rw [UInt64.toNat_shiftLeft, UInt32.toNat_toUInt64, show (3 : UInt64).toNat % 64 = 3 from rfl,
      Nat.shiftLeft_eq]
    omega
  rw [UInt64.toNat_or, shifted, UInt8.toNat_toUInt64, Nat.or_comm,
    or_shiftLeft_eq_add (show wireType.toNat < 2 ^ 3 from kind)]
  omega

theorem toNat_tag_number : (v >>> 3).toNat = v.toNat / 8 := by
  rw [UInt64.toNat_shiftRight, show (3 : UInt64).toNat % 64 = 3 from rfl,
    Nat.shiftRight_eq_div_pow]

theorem toNat_tag_kind : ((v &&& 0x07).toUInt8).toNat = v.toNat % 8 := by
  rw [UInt64.toNat_toUInt8, UInt64.toNat_and, show (0x07 : UInt64).toNat = 2 ^ 3 - 1 from rfl,
    Nat.and_two_pow_sub_one_eq_mod]
  omega

theorem tag_valid_iff : ¬ (v = 0 ∨ v >>> 3 > 536870911) ↔ v.toNat ≠ 0 ∧ v.toNat / 8 < 2 ^ 29 := by
  rw [not_or, ← UInt64.toNat_inj, UInt64.not_lt, UInt64.le_iff_toNat_le, toNat_tag_number]
  exact and_congr_right fun _ => Nat.lt_succ_iff.symm

/-- A tag gives its field number and its wire type back. -/
theorem tag_parts (small : field.toNat < 2 ^ 29) (positive : 0 < field.toNat)
    (kind : wireType.toNat < 8) :
    let tag := (field.toUInt64 <<< 3) ||| wireType.toUInt64
    ¬ (tag = 0 ∨ tag >>> 3 > 536870911) ∧ (tag >>> 3).toUInt32 = field ∧
      (tag &&& 0x07).toUInt8 = wireType := by
  intro tag
  have number : tag.toNat = 8 * field.toNat + wireType.toNat := tag_toNat small kind
  refine ⟨(tag_valid_iff tag).mpr (by omega), ?_, ?_⟩
  · rw [← UInt32.toNat_inj, UInt64.toNat_toUInt32, toNat_tag_number]
    omega
  · rw [← UInt8.toNat_inj, toNat_tag_kind]
    omega

theorem next_write {field : WireField} (writable : field.Writable) (rest : List UInt8) :
    next component (field.write ++ rest) = .ok (field.read, rest) := by
  cases field with
  | uint number value =>
    obtain ⟨valid, numberBack, kindBack⟩ := @tag_parts number 0 writable.2 writable.1 (by decide)
    rw [write, appendUint, appendTag, append_assoc, next, readVarint_appendVarint]
    simp only [bind, Except.bind]
    rw [if_neg valid, kindBack, if_pos rfl, readVarint_appendVarint, numberBack]
    rfl
  | bytes number value =>
    obtain ⟨positive, small, short⟩ := writable
    obtain ⟨valid, numberBack, kindBack⟩ := @tag_parts number 2 small positive (by decide)
    have length : (UInt64.ofNat value.length).toNat = value.length :=
      UInt64.toNat_ofNat_of_lt' short
    rw [write, appendBytes, appendTag, append_assoc, append_assoc, next,
      readVarint_appendVarint]
    simp only [bind, Except.bind]
    rw [if_neg valid, kindBack, if_neg (by decide), if_pos rfl, readVarint_appendVarint, numberBack]
    dsimp only
    rw [length, if_neg (by simp), take_left, drop_left]
    rfl

theorem write_length_pos {field : WireField} : 0 < field.write.length := by
  have tag : ∀ (number : UInt32) (kind : UInt8), 0 < (appendTag number kind).length := by
    intro number kind
    rw [appendTag, appendVarint_eq_encode]
    exact encode_length_pos _
  cases field with
  | uint number value =>
    rw [write, appendUint, length_append]
    exact Nat.add_pos_left (tag _ _) _
  | bytes number value =>
    rw [write, appendBytes, length_append]
    exact Nat.add_pos_left (tag _ _) _

section

variable (handle : σ → ProtoField → Except Error σ) (writable : ∀ field ∈ fields, field.Writable) (state : σ)

include handle writable state

/-- The reading loop over written fields hands each to the handler in turn. -/
theorem readFieldsRounds_write {rounds : Nat} (enough : (fields.flatMap write).length ≤ rounds) :
    readFieldsRounds component handle rounds (fields.flatMap write) state =
      (fields.map read).foldlM handle state := by
  induction fields generalizing rounds state with
  | nil =>
    cases rounds <;> rfl
  | cons field rest ih =>
    have positive := @write_length_pos field
    rw [flatMap_cons, length_append] at enough
    obtain ⟨byte, others, starts⟩ : ∃ byte others, field.write ++ rest.flatMap write =
        byte :: others := by
      cases written : field.write with
      | nil => simp [written] at positive
      | cons byte others => exact ⟨byte, _, rfl⟩
    cases rounds with
    | zero => omega
    | succ rounds =>
      rw [flatMap_cons, starts, readFieldsRounds, ← starts,
        next_write component (writable field (mem_cons_self ..)), map_cons,
        foldlM_cons]
      simp only [bind, Except.bind]
      cases handle state field.read with
      | error error => rfl
      | ok state =>
        exact ih (fun other member => writable other (mem_cons_of_mem _ member)) state (by omega)

theorem readFields_write :
    readFields component handle (fields.flatMap write) state =
      (fields.map read).foldlM handle state :=
  readFieldsRounds_write component handle writable state (le_refl _)

end

end Heyaki.ProtoCodec
