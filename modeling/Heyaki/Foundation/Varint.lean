/-
Purpose: canonical base-128 variable-length integers over `Nat`.

`encode` is the abstract code: seven payload bits per byte, least significant
group first, continuation bit on every byte but the last.  A reader is proved
correct against it one byte at a time, as a loop with the relation `Reads`:
`reads_final_iff` for a final byte and `reads_continue_iff` for a continuation byte.
-/
import Mathlib

namespace Foundation.Varint

open List

variable {n m : Nat} {suffix rest : List UInt8} {b : UInt8}

/-- The canonical base-128 code of a natural number. -/
def encode (n : Nat) : List UInt8 :=
  if n < 128 then [UInt8.ofNat n]
  else UInt8.ofNat (n % 128 + 128) :: encode (n / 128)

theorem encode_of_lt (small : n < 128) : encode n = [UInt8.ofNat n] := by
  rw [encode, if_pos small]

theorem encode_of_le (large : 128 ≤ n) :
    encode n = UInt8.ofNat (n % 128 + 128) :: encode (n / 128) := by
  rw [encode, if_neg (by omega)]

/-- One round of a writing loop: the low group, and the rest if there is any. -/
theorem encode_step {byte : UInt8} (low : byte.toNat = n % 128) :
    encode n = if n / 128 ≠ 0 then (byte ||| 0x80) :: encode (n / 128) else [byte] := by
  have below : byte.toNat < 128 := low ▸ Nat.mod_lt n (by decide)
  have high : (byte ||| 0x80).toNat = byte.toNat + 128 := by
    rw [UInt8.toNat_or, show (0x80 : UInt8).toNat = 2 ^ 7 * 1 from rfl, Nat.or_comm,
      ← Nat.two_pow_add_eq_or_of_lt below]
    omega
  by_cases last : n / 128 = 0
  · rw [if_neg (not_not.mpr last), encode_of_lt (by omega), cons.injEq]
    refine ⟨UInt8.toNat_inj.mp ?_, rfl⟩
    rw [low, UInt8.toNat_ofNat']
    omega
  · rw [if_pos last, encode_of_le (by omega), cons.injEq]
    refine ⟨UInt8.toNat_inj.mp ?_, rfl⟩
    rw [high, low, UInt8.toNat_ofNat']
    omega

/-- A loop that writes a word group by group emits the code of its number, when it has a
round for every group. -/
theorem eq_encode_of_rounds {Word : Type*} {toNat : Word → Nat} {shift : Word → Word}
    {low : Word → UInt8} {loop : Nat → Word → List UInt8}
    (isLow : ∀ word, (low word).toNat = toNat word % 128)
    (isShift : ∀ word, toNat (shift word) = toNat word / 128)
    (round : ∀ rounds word, loop (rounds + 1) word =
      if toNat (shift word) ≠ 0 then (low word ||| 0x80) :: loop rounds (shift word)
      else [low word]) (rounds : Nat) (word : Word) (bound : toNat word < 128 ^ (rounds + 1)) :
    loop (rounds + 1) word = encode (toNat word) := by
  induction rounds generalizing word with
  | zero =>
    have last : toNat word / 128 = 0 := Nat.div_eq_of_lt (by simpa using bound)
    rw [round, encode_step (isLow word), isShift, if_neg (not_not.mpr last),
      if_neg (not_not.mpr last)]
  | succ rounds ih =>
    have smaller : toNat (shift word) < 128 ^ (rounds + 1) := by
      rw [isShift, Nat.div_lt_iff_lt_mul (by decide), ← pow_succ]
      exact bound
    rw [round, encode_step (isLow word), ih _ smaller, isShift]

theorem encode_ne_nil (n : Nat) : encode n ≠ [] := by
  rw [encode]
  split <;> simp

theorem encode_length_pos (n : Nat) : 0 < (encode n).length := length_pos_iff.mpr (encode_ne_nil n)

/-- A number of at most `k + 1` groups takes at most `k + 1` bytes. -/
theorem encode_length_le : ∀ (k n : Nat), n < 128 ^ (k + 1) → (encode n).length ≤ k + 1
  | 0, n, bound => by
    rw [encode_of_lt (by simpa using bound)]
    simp
  | k + 1, n, bound => by
    by_cases small : n < 128
    · rw [encode_of_lt small]
      simp
    · have smaller : n / 128 < 128 ^ (k + 1) := by
        rw [Nat.div_lt_iff_lt_mul (by decide), ← pow_succ]
        exact bound
      have shorter := encode_length_le k (n / 128) smaller
      rw [encode_of_le (by omega), length_cons]
      omega

/-! ### Reading one byte -/

/-- A byte without the continuation bit ends the code: it is the whole number. -/
theorem cons_eq_encode_append_of_low (low : b.toNat < 128) :
    b :: rest = encode n ++ suffix ↔ n = b.toNat ∧ rest = suffix := by
  constructor
  · intro same
    by_cases small : n < 128
    · rw [encode_of_lt small, singleton_append, cons.injEq] at same
      refine ⟨?_, same.2⟩
      rw [same.1, UInt8.toNat_ofNat']
      omega
    · rw [encode_of_le (by omega), cons_append, cons.injEq] at same
      have high := congrArg UInt8.toNat same.1
      rw [UInt8.toNat_ofNat'] at high
      omega
  · rintro ⟨rfl, rfl⟩
    rw [encode_of_lt low, UInt8.ofNat_toNat]
    rfl

/-- A byte with the continuation bit is the low group of a number whose higher
groups, not all zero, are coded by the bytes after it. -/
theorem cons_eq_encode_append_of_high (high : 128 ≤ b.toNat) :
    b :: rest = encode n ++ suffix ↔
      ∃ m, m ≠ 0 ∧ n = b.toNat % 128 + 128 * m ∧ rest = encode m ++ suffix := by
  have byteBound := b.toNat_lt
  constructor
  · intro same
    by_cases small : n < 128
    · rw [encode_of_lt small, singleton_append, cons.injEq] at same
      have low := congrArg UInt8.toNat same.1
      rw [UInt8.toNat_ofNat'] at low
      omega
    · rw [encode_of_le (by omega), cons_append, cons.injEq] at same
      have group := congrArg UInt8.toNat same.1
      rw [UInt8.toNat_ofNat'] at group
      exact ⟨n / 128, by omega, by omega, same.2⟩
  · rintro ⟨m, nonzero, rfl, rfl⟩
    have large : 128 ≤ b.toNat % 128 + 128 * m := by omega
    rw [encode_of_le large, cons_append, cons.injEq]
    constructor
    · apply UInt8.toNat_inj.mp
      rw [UInt8.toNat_ofNat']
      omega
    · rw [show (b.toNat % 128 + 128 * m) / 128 = m by omega]

/-- No code is a proper beginning of another, so a code and what follows it
determine each other. -/
theorem encode_append_inj {suffix' : List UInt8}
    (same : encode n ++ suffix = encode m ++ suffix') : n = m ∧ suffix = suffix' := by
  induction n using Nat.strongRecOn generalizing m with
  | ind n ih =>
    by_cases small : n < 128
    · rw [encode_of_lt small, singleton_append,
        cons_eq_encode_append_of_low (by rw [UInt8.toNat_ofNat']; omega)] at same
      rw [UInt8.toNat_ofNat'] at same
      exact ⟨by omega, same.2⟩
    · rw [encode_of_le (by omega), cons_append,
        cons_eq_encode_append_of_high (by rw [UInt8.toNat_ofNat']; omega)] at same
      obtain ⟨m', -, value, rest⟩ := same
      obtain ⟨groups, tails⟩ := ih (n / 128) (by omega) rest
      rw [UInt8.toNat_ofNat'] at value
      exact ⟨by omega, tails⟩

/-! ### Reading a code -/

/-- What a loop reads that has the sum `acc` of the groups before `index`: the code of the rest,
when group `last` has room for `bits` bits. -/
def Reads (last bits index acc : Nat) (input : List UInt8) (total : Nat) (rest : List UInt8) : Prop :=
  ∃ n, input = encode n ++ rest ∧ n < 2 ^ (7 * (last - index) + bits) ∧ (0 < index → n ≠ 0) ∧
    total = acc + 2 ^ (7 * index) * n

section

variable {last bits index acc total : Nat} {input : List UInt8}

/-- Bits for which there is no room make a loop stop. -/
theorem not_reads_of_overflow (room : bits ≤ 7) (above : 2 ^ bits ≤ b.toNat) :
    ¬ Reads last bits last acc (b :: input) total rest := by
  rintro ⟨n, code, small, -⟩
  have most : 2 ^ bits ≤ 128 := Nat.pow_le_pow_right (by decide) room
  rw [Nat.sub_self, Nat.mul_zero, Nat.zero_add] at small
  by_cases low : b.toNat < 128
  · rw [cons_eq_encode_append_of_low low] at code
    omega
  · obtain ⟨m, nonzero, value, -⟩ := (cons_eq_encode_append_of_high (Nat.not_lt.mp low)).mp code
    omega

/-- A byte without continuation bit ends the loop. -/
theorem reads_final_iff (inside : index ≤ last) (fits : index = last → b.toNat < 2 ^ bits)
    (low : b.toNat < 128) :
    Reads last bits index acc (b :: input) total rest ↔
      (0 < index → b.toNat ≠ 0) ∧ total = acc + 2 ^ (7 * index) * b.toNat ∧ rest = input := by
  have small : b.toNat < 2 ^ (7 * (last - index) + bits) := by
    rcases Nat.eq_or_lt_of_le inside with same | early
    · simpa [same] using fits same
    · have groups : 2 ^ 7 ≤ 2 ^ (7 * (last - index) + bits) :=
        Nat.pow_le_pow_right (by decide) (by omega)
      omega
  simp only [Reads, cons_eq_encode_append_of_low low]
  constructor
  · rintro ⟨n, ⟨rfl, rfl⟩, -, nonzero, total⟩
    exact ⟨nonzero, total, rfl⟩
  · rintro ⟨nonzero, total, rfl⟩
    exact ⟨_, ⟨rfl, rfl⟩, small, nonzero, total⟩

/-- A continuation byte hands the loop on to the next group. -/
theorem reads_continue_iff (early : index < last) (high : 128 ≤ b.toNat) :
    Reads last bits index acc (b :: input) total rest ↔
      Reads last bits (index + 1) (acc + 2 ^ (7 * index) * (b.toNat % 128)) input total rest := by
  have room : 2 ^ (7 * (last - index) + bits) = 128 * 2 ^ (7 * (last - (index + 1)) + bits) := by
    rw [show last - index = last - (index + 1) + 1 by omega]
    ring
  have sum : ∀ m, acc + 2 ^ (7 * index) * (b.toNat % 128 + 128 * m) =
      acc + 2 ^ (7 * index) * (b.toNat % 128) + 2 ^ (7 * (index + 1)) * m := by
    intro m
    ring
  simp only [Reads, cons_eq_encode_append_of_high high, room]
  constructor
  · rintro ⟨_, ⟨m, nonzero, rfl, rfl⟩, small, -, rfl⟩
    exact ⟨m, rfl, by omega, fun _ => nonzero, sum m⟩
  · rintro ⟨m, rfl, small, nonzero, rfl⟩
    have positive := nonzero (Nat.succ_pos _)
    exact ⟨_, ⟨m, positive, rfl, rfl⟩, by omega, by omega, (sum m).symm⟩

/-- The groups read so far stay below those still to come. -/
theorem accumulate_below {group : Nat} (below : acc < 2 ^ (7 * index)) (low : group < 128) :
    acc + 2 ^ (7 * index) * group < 2 ^ (7 * (index + 1)) := by
  rw [show 7 * (index + 1) = 7 * index + 7 by ring, pow_add]
  have step : 2 ^ (7 * index) * group ≤ 2 ^ (7 * index) * 127 := Nat.mul_le_mul_left _ (by omega)
  omega

end

/-! ### Groups and machine operations -/

/-- The payload bits of a byte. -/
theorem toNat_and_low (b : UInt8) : (b &&& 0x7f).toNat = b.toNat % 128 := by
  rw [UInt8.toNat_and, show (0x7f : UInt8).toNat = 2 ^ 7 - 1 from rfl,
    Nat.and_two_pow_sub_one_eq_mod]

theorem and_low_eq_zero_iff (b : UInt8) : b &&& 0x7f = 0 ↔ b.toNat % 128 = 0 := by
  rw [← UInt8.toNat_inj, toNat_and_low]
  rfl

/-- A fact about bytes checked at each of them. -/
theorem forall_byte {fact : UInt8 → Prop} (table : ∀ i : Fin 256, fact (UInt8.ofNat i)) :
    ∀ b, fact b := by
  intro b
  have here := table ⟨b.toNat, b.toNat_lt⟩
  rwa [UInt8.ofNat_toNat] at here

/-- The continuation bit of a byte. -/
theorem and_high_eq_zero_iff : ∀ b : UInt8, b &&& 0x80 = 0 ↔ b.toNat < 128 :=
  forall_byte (by decide +kernel)

theorem and_nibble_eq_zero_iff : ∀ b : UInt8, b &&& 0xf0 = 0 ↔ b.toNat < 16 :=
  forall_byte (by decide +kernel)

/-- Setting bits above an accumulator adds them. -/
theorem or_shiftLeft_eq_add {acc group shift : Nat} (below : acc < 2 ^ shift) :
    acc ||| (group <<< shift) = acc + 2 ^ shift * group := by
  rw [Nat.or_comm, ← Nat.shiftLeft_add_eq_or_of_lt below, Nat.shiftLeft_eq]
  ring

end Foundation.Varint
