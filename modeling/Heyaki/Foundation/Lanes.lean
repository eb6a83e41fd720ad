/-
Purpose: items that wait in several lanes, each first in, first out.

Lanes overtake one another.  Selected items still leave in the order in which they
entered as long as each of them finds all selected ones that wait in its own lane.
-/
import Mathlib

namespace Foundation.Lanes

open Function List

variable {κ α : Type*} {select : α → Bool} {lanes after : κ → List α} {entered left : List α}

/-- All selected items wait in one lane, behind those that have left. -/
def InLine (select : α → Bool) (lanes : κ → List α) (entered left : List α) : Prop :=
  ∃ lane, (∀ other, other ≠ lane → (lanes other).filter select = []) ∧
    (left.filter select ++ (lanes lane).filter select).Sublist (entered.filter select)

theorem inLine_empty (lane : κ) : InLine select (fun _ : κ => []) [] [] :=
  ⟨lane, fun _ _ => rfl, .slnil⟩

namespace InLine

variable {lane : κ} {item : α}

theorem order (line : InLine select lanes entered left) :
    (left.filter select).Sublist (entered.filter select) := by
  obtain ⟨lane, -, sublist⟩ := line
  exact (sublist_append_left _ _).trans sublist

/-- Items may be taken away. -/
theorem fewer (line : InLine select lanes entered left)
    (fewer : ∀ lane, (after lane).Sublist (lanes lane)) : InLine select after entered left := by
  obtain ⟨lane, alone, sublist⟩ := line
  refine ⟨lane, fun other different => ?_, ?_⟩
  · have none := (fewer other).filter select
    rw [alone other different] at none
    exact sublist_nil.mp none
  · exact ((List.Sublist.refl _).append ((fewer lane).filter select)).trans sublist

variable [DecidableEq κ]

section

variable (line : InLine select lanes entered left)

include line

theorem leave {rest : List α} (front : lanes lane = item :: rest) :
    InLine select (update lanes lane rest) entered (left ++ [item]) := by
  obtain ⟨first, alone, sublist⟩ := line
  refine ⟨first, fun other different => ?_, ?_⟩
  · by_cases same : other = lane
    · subst same
      have none := alone other different
      rw [front, filter_cons] at none
      rw [update_self]
      split_ifs at none
      exact none
    · rw [update_of_ne same]
      exact alone other different
  · rw [filter_append, append_assoc]
    by_cases same : first = lane
    · subst same
      rw [update_self, ← filter_append, singleton_append, ← front]
      exact sublist
    · -- the item is of another lane, and so not selected
      have none := alone lane (Ne.symm same)
      rw [front, filter_cons] at none
      split_ifs at none with selected
      rw [update_of_ne same, filter_cons_of_neg selected]
      exact sublist

/-- An item that is not selected enters without a note. -/
theorem pass (unselected : select item = false) :
    InLine select (update lanes lane (lanes lane ++ [item])) entered left := by
  have same : ∀ other, (update lanes lane (lanes lane ++ [item]) other).filter select =
      (lanes other).filter select := by
    intro other
    by_cases equal : other = lane
    · subst equal
      simp [unselected]
    · rw [update_of_ne equal]
  obtain ⟨first, alone, sublist⟩ := line
  refine ⟨first, fun other different => ?_, ?_⟩
  · rw [same]
    exact alone other different
  · rw [same]
    exact sublist

/-- A selected item finds no selected one in another lane. -/
theorem enter
    (finds : select item = true → ∀ other, other ≠ lane → (lanes other).filter select = []) :
    InLine select (update lanes lane (lanes lane ++ [item])) (entered ++ [item]) left := by
  cases selected : select item with
  | false =>
    have passed : InLine select (update lanes lane (lanes lane ++ [item])) entered left :=
      line.pass selected
    obtain ⟨first, alone, sublist⟩ := passed
    refine ⟨first, alone, ?_⟩
    simpa [selected] using sublist
  | true =>
    have none := finds selected
    obtain ⟨first, alone, sublist⟩ := line
    have waiting : (left.filter select ++ (lanes lane).filter select).Sublist
        (entered.filter select) := by
      by_cases same : first = lane
      · exact same ▸ sublist
      · rw [alone lane (Ne.symm same), append_nil]
        exact (sublist_append_left _ _).trans sublist
    refine ⟨lane, fun other different => ?_, ?_⟩
    · rw [update_of_ne different]
      exact none other different
    · rw [update_self, filter_append, filter_append, ← append_assoc]
      exact waiting.append (.refl _)

end

end InLine

end Foundation.Lanes
