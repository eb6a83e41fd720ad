/-
Purpose: a map from keys to sets, in which no set is empty.

A set that loses its last member is taken out of the map.
-/
import Heyaki.Foundation.SortedMap

namespace Foundation

open SortedMap

/-- A finite set, in increasing order. -/
abbrev SortedSet (ν : Type*) [LinearOrder ν] := SortedMap ν Unit

abbrev SetIndex (κ : Type*) (ν : Type*) [LinearOrder κ] [LinearOrder ν] := SortedMap κ (SortedSet ν)

namespace SetIndex

variable {κ ν : Type*} [LinearOrder κ] [LinearOrder ν] {index : SetIndex κ ν} {key other : κ}
  {member item : ν} {set : SortedSet ν} {test : SortedSet ν → Bool}

/-- The set of a key; a key that is not in the map has none. -/
def members (index : SetIndex κ ν) (key : κ) : SortedSet ν := (find? index key).getD {}

def add (index : SetIndex κ ν) (key : κ) (member : ν) : SetIndex κ ν :=
  insert index key ((members index key).insert member ())

def discard (index : SetIndex κ ν) (key : κ) (member : ν) : SetIndex κ ν :=
  match find? index key with
  | none => index
  | some set =>
    let left := set.erase member
    if left.size = 0 then erase index key else insert index key left

theorem members_of_find? (found : find? index key = some set) : members index key = set := by
  rw [members, found, Option.getD_some]

/-- A test of the set of a key, which a key without a set does not meet. -/
theorem test_members (met : (find? index key).any test = true) :
    test (members index key) = true := by
  cases found : find? index key with
  | none =>
    rw [found] at met
    cases met
  | some set =>
    rw [found] at met
    rw [members_of_find? found]
    exact met

theorem test_members_false (unmet : ¬ (find? index key).any test = true) (empty : test {} = false) :
    test (members index key) = false := by
  cases found : find? index key with
  | none =>
    rw [members, found]
    exact empty
  | some set =>
    rw [found] at unmet
    rw [members_of_find? found]
    exact eq_false_of_ne_true unmet

theorem members_add (key other : κ) (member : ν) :
    members (add index key member) other =
      if other = key then (members index key).insert member () else members index other := by
  unfold add
  rw [members, find?_insert]
  split_ifs
  · rfl
  · rfl

theorem mem_members_add :
    item ∈ (members (add index key member) other).keys ↔
      other = key ∧ item = member ∨ item ∈ (members index other).keys := by
  rw [members_add]
  split_ifs with same
  · subst same
    rw [mem_keys_insert]
    simp
  · simp [same]

theorem eq_empty_of_size (none : set.size = 0) : set = {} := by
  obtain ⟨entries, sorted⟩ := set
  cases List.length_eq_zero_iff.mp none
  rfl

theorem members_discard (key other : κ) (member : ν) :
    members (discard index key member) other =
      if other = key then (members index key).erase member else members index other := by
  unfold discard
  cases found : find? index key with
  | none =>
    split_ifs with same
    · subst same
      simp only [members, found, Option.getD_none]
      exact (erase_of_find?_none rfl).symm
    · rfl
  | some set =>
    have own := members_of_find? found
    dsimp only
    rw [own]
    by_cases last : (set.erase member).size = 0
    · rw [if_pos last, members, find?_erase]
      split_ifs
      · exact (eq_empty_of_size last).symm
      · rfl
    · rw [if_neg last, members, find?_insert]
      split_ifs
      · rfl
      · rfl

theorem mem_members_discard :
    item ∈ (members (discard index key member) other).keys ↔
      item ∈ (members index other).keys ∧ ¬ (other = key ∧ item = member) := by
  rw [members_discard]
  split_ifs with same
  · subst same
    rw [mem_keys_erase]
    simp [and_comm]
  · simp [same]

theorem size_discard_le (key other : κ) (member : ν) :
    (members (discard index key member) other).size ≤ (members index other).size := by
  rw [members_discard]
  split_ifs with same
  · subst same
    exact size_filter_le _ _
  · exact Nat.le_refl _

/-- A member that is taken out leaves room for another one. -/
theorem size_discard_lt (present : member ∈ (members index key).keys) :
    (members (discard index key member) key).size < (members index key).size := by
  rw [members_discard, if_pos rfl]
  obtain ⟨value, found⟩ := mem_keys_iff.mp present
  have size := size_erase_of_found found
  omega

/-- A bound on all sets stays one if a new member finds room. -/
theorem size_add_le {bound : Nat} (fits : ∀ other, (members index other).size ≤ bound)
    (room : member ∉ (members index key).keys → (members index key).size < bound) (other : κ) :
    (members (add index key member) other).size ≤ bound := by
  rw [members_add]
  split_ifs with same
  · cases found : (members index key).find? member with
    | some value => exact (size_insert_le found).trans (fits key)
    | none =>
      rw [size_insert_of_absent found]
      exact room fun present => mem_keys_iff_ne_none.mp present found
  · exact fits other

end SetIndex

end Foundation
