/-
Purpose: the 32-bit varint reader and writer of the frame layout are the
canonical base-128 code.
-/
import Heyaki.Core.Wire
import Heyaki.Foundation.Varint

namespace Heyaki

open Foundation Varint

variable {value maximum v next : UInt32} {index k : Nat} {b : UInt8} {input : List UInt8}

/-! ### Reading -/

/-- One round of the reading loop adds the next group above the accumulator. -/
theorem accumulate_toNat (b : UInt8) (early : index ≤ 4) (fits : index = 4 → b.toNat < 16)
    (below : value.toNat < 2 ^ (7 * index)) :
    (value ||| ((b &&& 0x7f).toUInt32 <<< UInt32.ofNat (7 * index))).toNat =
      value.toNat + 2 ^ (7 * index) * (b.toNat % 128) := by
  have shift : (UInt32.ofNat (7 * index)).toNat % 32 = 7 * index := by
    rw [UInt32.toNat_ofNat']
    omega
  have group : (b.toNat % 128) <<< (7 * index) < 2 ^ 32 := by
    rw [Nat.shiftLeft_eq]
    interval_cases index <;> omega
  rw [UInt32.toNat_or, UInt32.toNat_shiftLeft, shift, UInt8.toNat_toUInt32, toNat_and_low,
    Nat.mod_eq_of_lt group, or_shiftLeft_eq_add below]

/-- The reading loop, byte by byte: the accumulator holds the groups read so far. -/
theorem decodeVarintFrom_eq_parsed_iff (inside : index ≤ 4) (below : value.toNat < 2 ^ (7 * index)) :
    decodeVarintFrom maximum index value input = .parsed v k ↔
      ∃ rest, Reads 4 4 index value.toNat input v.toNat rest ∧ v ≤ maximum ∧
        k + rest.length = index + input.length := by
  induction input generalizing index value with
  | nil =>
    rw [decodeVarintFrom, if_neg (by omega)]
    simp [Reads, encode_ne_nil]
  | cons b input ih =>
    rw [decodeVarintFrom, if_neg (by omega)]
    simp only [ne_eq, and_nibble_eq_zero_iff, not_lt, and_high_eq_zero_iff, and_low_eq_zero_iff]
    by_cases overflow : index = 4 ∧ 16 ≤ b.toNat
    · rw [if_pos overflow, overflow.1]
      simp [not_reads_of_overflow (show 4 ≤ 7 by decide) overflow.2]
    have fits : index = 4 → b.toNat < 2 ^ 4 := by omega
    have sum := accumulate_toNat b inside fits below
    rw [if_neg overflow]
    generalize value ||| ((b &&& 0x7f).toUInt32 <<< UInt32.ofNat (7 * index)) = next at sum ⊢
    by_cases low : b.toNat < 128
    · rw [Nat.mod_eq_of_lt low] at sum ⊢
      rw [if_pos low]
      simp only [reads_final_iff inside fits low, ← sum, UInt32.toNat_inj]
      split_ifs with zero above
      · refine iff_of_false not_false ?_
        rintro ⟨_, ⟨nonzero, -⟩, -⟩
        exact nonzero zero.1 zero.2
      · refine iff_of_false not_false ?_
        rintro ⟨_, ⟨-, rfl, -⟩, within, -⟩
        exact UInt32.not_le.mpr above within
      · rw [VarintResult.parsed.injEq, List.length_cons]
        constructor
        · rintro ⟨rfl, rfl⟩
          exact ⟨input, ⟨fun later null => zero ⟨later, null⟩, rfl, rfl⟩, UInt32.not_lt.mp above,
            by omega⟩
        · rintro ⟨_, ⟨-, rfl, rfl⟩, -, length⟩
          exact ⟨rfl, by omega⟩
    · rw [if_neg low, ih (by omega) (sum ▸ accumulate_below below (Nat.mod_lt _ (by decide)))]
      simp only [reads_continue_iff (show index < 4 by omega) (Nat.not_lt.mp low), sum,
        List.length_cons, Nat.add_assoc, Nat.add_comm 1]

/-- A varint is accepted exactly when the input begins with the canonical code
of a value within the limit. -/
theorem decodeVarint_eq_parsed_iff :
    decodeVarint input maximum = .parsed v k ↔
      ∃ rest, input = encode v.toNat ++ rest ∧ v ≤ maximum ∧
        k = (encode v.toNat).length := by
  rw [decodeVarint, decodeVarintFrom_eq_parsed_iff (by decide) (by decide)]
  constructor
  · rintro ⟨rest, ⟨n, rfl, -, -, total⟩, within, length⟩
    have value : v.toNat = n := by simpa using total
    rw [List.length_append] at length
    exact ⟨rest, by rw [value], within, by rw [value]; omega⟩
  · rintro ⟨rest, rfl, within, rfl⟩
    exact ⟨rest, ⟨_, rfl, v.toNat_lt, nofun, by simp⟩, within, by simp⟩

/-- Bytes that decide the verdict decide it whatever follows. -/
theorem decodeVarintFrom_append (maximum : UInt32) (more : List UInt8) :
    ∀ (input : List UInt8) (index : Nat) (value : UInt32),
      decodeVarintFrom maximum index value input ≠ .needMore →
      decodeVarintFrom maximum index value (input ++ more) =
        decodeVarintFrom maximum index value input
  | [], index, value, decided => by
    rw [decodeVarintFrom] at decided ⊢
    split at decided
    · rename_i late
      rw [if_pos late]
      cases more with
      | nil | cons byte more => rw [List.nil_append, decodeVarintFrom, if_pos late]
    · exact absurd rfl decided
  | byte :: input, index, value, decided => by
    rw [List.cons_append, decodeVarintFrom]
    rw [decodeVarintFrom] at decided ⊢
    by_cases late : index ≥ 5
    · rw [if_pos late, if_pos late]
    rw [if_neg late] at decided ⊢
    rw [if_neg late]
    by_cases overflow : index = 4 ∧ byte &&& 0xf0 ≠ 0
    · rw [if_pos overflow, if_pos overflow]
    rw [if_neg overflow] at decided ⊢
    rw [if_neg overflow]
    by_cases final : byte &&& 0x80 = 0
    · rw [if_pos final, if_pos final]
    · rw [if_neg final] at decided ⊢
      rw [if_neg final]
      exact decodeVarintFrom_append maximum more input (index + 1) _ decided

theorem decodeVarint_append (more : List UInt8) (decided : decodeVarint input maximum ≠ .needMore) :
    decodeVarint (input ++ more) maximum = decodeVarint input maximum :=
  decodeVarintFrom_append maximum more input 0 0 decided

/-! ### Writing -/

theorem toNat_shiftRight_seven (v : UInt32) : (v >>> 7).toNat = v.toNat / 128 := by
  rw [UInt32.toNat_shiftRight, show (7 : UInt32).toNat % 32 = 7 from rfl,
    Nat.shiftRight_eq_div_pow]

theorem toNat_low_group (v : UInt32) : ((v &&& 0x7f).toUInt8).toNat = v.toNat % 128 := by
  rw [UInt32.toNat_toUInt8, UInt32.toNat_and, show (0x7f : UInt32).toNat = 2 ^ 7 - 1 from rfl,
    Nat.and_two_pow_sub_one_eq_mod]
  omega

theorem appendVarint_eq_encode (v : UInt32) : appendVarint v = encode v.toNat := by
  refine eq_encode_of_rounds toNat_low_group toNat_shiftRight_seven (fun rounds v => ?_) 4 v
    (by have := v.toNat_lt; omega)
  simp only [appendVarintRounds, ne_eq, ← UInt32.toNat_inj, UInt32.toNat_zero]

theorem varintSizeRounds_eq_length :
    ∀ (rounds : Nat) (v : UInt32), v.toNat < 128 ^ (rounds + 1) →
      varintSizeRounds rounds v = (encode v.toNat).length
  | 0, v, bound => by
    rw [varintSizeRounds, encode_of_lt (by simpa using bound)]
    rfl
  | rounds + 1, v, bound => by
    rw [varintSizeRounds]
    by_cases large : v ≥ 0x80
    · have groups : 128 ≤ v.toNat := UInt32.le_iff_toNat_le.mp large
      have smaller : (v >>> 7).toNat < 128 ^ (rounds + 1) := by
        rw [toNat_shiftRight_seven, Nat.div_lt_iff_lt_mul (by decide), ← pow_succ]
        exact bound
      rw [if_pos large, varintSizeRounds_eq_length rounds _ smaller, toNat_shiftRight_seven,
        encode_of_le groups, List.length_cons]
    · have small : v.toNat < 128 := Nat.lt_of_not_le fun le => large (UInt32.le_iff_toNat_le.mpr le)
      rw [if_neg large, encode_of_lt small]
      rfl

/-- The size the encoder reserves for a varint is the size it writes. -/
theorem varintSize_eq_length (v : UInt32) : varintSize v = (appendVarint v).length := by
  rw [appendVarint_eq_encode]
  exact varintSizeRounds_eq_length 5 v (by have := v.toNat_lt; omega)

end Heyaki
