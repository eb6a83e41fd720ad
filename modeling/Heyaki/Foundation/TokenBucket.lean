/-
Purpose: what a bucket that fills with time has to pay for.

A bucket holds at most `full` and fills once in `window` units of time.  Draws of `cost`
are paid by what it held at first and by the units of time that were credited since.
-/
import Mathlib

namespace Foundation.TokenBucket

/-- After `draws` draws the bucket holds `level`, and `units` units of time were credited. -/
def Paid (full window cost draws level units : Nat) : Prop :=
  (draws * cost + level) * window ≤ full * (window + units)

namespace Paid

variable {full window cost draws level units : Nat}

theorem start (fits : level ≤ full) : Paid full window cost 0 level 0 := by
  unfold Paid
  rw [Nat.zero_mul, Nat.zero_add, Nat.add_zero]
  exact Nat.mul_le_mul_right window fits

section

variable (paid : Paid full window cost draws level units)

include paid

theorem draw (covers : cost ≤ level) : Paid full window cost (draws + 1) (level - cost) units := by
  have same : (draws + 1) * cost + (level - cost) = draws * cost + level := by
    rw [Nat.add_one_mul]
    omega
  unfold Paid
  rw [same]
  exact paid

/-- A credit for some units of time is at most what fills the bucket in that time. -/
theorem refill {after credit more : Nat} (added : after ≤ level + credit)
    (rate : credit * window ≤ full * more) : Paid full window cost draws after (units + more) := by
  have grows : (draws * cost + after) * window ≤
      (draws * cost + level) * window + credit * window := by
    rw [← Nat.add_mul]
    apply Nat.mul_le_mul_right
    omega
  have credited : full * (window + (units + more)) = full * (window + units) + full * more := by
    rw [← Nat.mul_add, Nat.add_assoc]
  unfold Paid at *
  rw [credited]
  exact grows.trans (Nat.add_le_add paid rate)

end

/-- Draws from a bucket of `capacity` draws, when at most `length` units were credited. -/
theorem bound {capacity length : Nat} (paid : Paid (capacity * cost) window cost draws level units)
    (positive : 0 < cost) (le : units ≤ length) :
    draws * window ≤ capacity * window + capacity * length := by
  have drawn : draws * cost * window ≤ capacity * cost * (window + length) := by
    refine Nat.le_trans ?_ (Nat.le_trans paid (Nat.mul_le_mul_left _ (Nat.add_le_add_left le window)))
    exact Nat.mul_le_mul_right window (Nat.le_add_right _ _)
  have scaled : cost * (draws * window) ≤ cost * (capacity * (window + length)) := by
    calc cost * (draws * window) = draws * cost * window := by ring
      _ ≤ capacity * cost * (window + length) := drawn
      _ = cost * (capacity * (window + length)) := by ring
  rw [← Nat.mul_add]
  exact Nat.le_of_mul_le_mul_left scaled positive

end Paid

end Foundation.TokenBucket
