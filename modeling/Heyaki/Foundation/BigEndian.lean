/-
Purpose: byte strings as numbers, most significant byte first, and their bits from
the top.
-/
import Mathlib

namespace Foundation.BigEndian

/-- The number that bytes spell. -/
def number : List UInt8 → Nat
  | [] => 0
  | byte :: rest => 2 ^ (8 * rest.length) * byte.toNat + number rest

theorem number_lt (bytes : List UInt8) : number bytes < 2 ^ (8 * bytes.length) := by
  induction bytes with
  | nil => exact Nat.one_pos
  | cons byte rest ih =>
    have small := byte.toNat_lt
    have split : 2 ^ (8 * (byte :: rest).length) = 2 ^ (8 * rest.length) * 256 := by
      rw [List.length_cons, Nat.mul_succ, Nat.pow_add]
    calc number (byte :: rest)
        < 2 ^ (8 * rest.length) * byte.toNat + 2 ^ (8 * rest.length) := Nat.add_lt_add_left ih _
      _ = 2 ^ (8 * rest.length) * (byte.toNat + 1) := by rw [Nat.mul_succ]
      _ ≤ 2 ^ (8 * rest.length) * 256 := Nat.mul_le_mul_left _ small
      _ = 2 ^ (8 * (byte :: rest).length) := split.symm

/-- A bit of the number, counted from the top, is a bit of one of the bytes. -/
theorem testBit_number {bytes : List UInt8} {bit : Nat} (inside : bit < 8 * bytes.length) :
    (number bytes).testBit (8 * bytes.length - 1 - bit) =
      (bytes.getD (bit / 8) 0).toNat.testBit (7 - bit % 8) := by
  induction bytes generalizing bit with
  | nil => exact absurd inside (Nat.not_lt_zero _)
  | cons byte rest ih =>
    rw [number, Nat.testBit_two_pow_mul_add _ (number_lt rest)]
    simp only [List.length_cons] at inside ⊢
    by_cases first : bit < 8
    · -- the bit is one of the first byte
      rw [if_neg (by omega), Nat.div_eq_of_lt first, Nat.mod_eq_of_lt first]
      congr 1
      omega
    · have shifted := @ih (bit - 8) (by omega)
      have next : bit / 8 = (bit - 8) / 8 + 1 := by omega
      rw [if_pos (by omega), next, List.getD_cons_succ]
      rw [show 8 * (rest.length + 1) - 1 - bit = 8 * rest.length - 1 - (bit - 8) by omega, shifted]
      congr 1
      omega

/-- The first `count` of `width` bits agree exactly if nothing is left between the
two numbers once the other bits are dropped. -/
theorem leading_eq_iff {width one two : Nat} (oneFits : one < 2 ^ width)
    (twoFits : two < 2 ^ width) (count : Nat) :
    (∀ bit < count, bit < width → one.testBit (width - 1 - bit) = two.testBit (width - 1 - bit)) ↔
      one / 2 ^ (width - count) = two / 2 ^ (width - count) := by
  constructor
  · intro agree
    apply Nat.eq_of_testBit_eq
    intro index
    rw [Nat.testBit_div_two_pow, Nat.testBit_div_two_pow]
    by_cases inside : index + (width - count) < width
    · have position : width - 1 - (width - 1 - (index + (width - count))) =
          index + (width - count) := by omega
      have same := agree (width - 1 - (index + (width - count))) (by omega) (by omega)
      rwa [position] at same
    · have high : 2 ^ width ≤ 2 ^ (index + (width - count)) :=
        Nat.pow_le_pow_right (by decide) (Nat.not_lt.mp inside)
      rw [Nat.testBit_lt_two_pow (lt_of_lt_of_le oneFits high),
        Nat.testBit_lt_two_pow (lt_of_lt_of_le twoFits high)]
  · intro same bit before inside
    have position : width - 1 - bit = (count - 1 - bit) + (width - count) ∨
        width < count := by omega
    rcases position with position | wide
    · rw [position, ← Nat.testBit_div_two_pow, ← Nat.testBit_div_two_pow, same]
    · rw [Nat.sub_eq_zero_of_le (le_of_lt wide), Nat.pow_zero, Nat.div_one, Nat.div_one] at same
      rw [same]

end Foundation.BigEndian
