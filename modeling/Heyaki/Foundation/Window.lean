/-
Purpose: how many keys a bounded table has seen since its oldest entry.

A table remembers for each key the position of its last insertion in a history
of inserted keys.  When the oldest entry is about to be given up, the others
witness that many distinct keys came after it.
-/
import Heyaki.Foundation.SortedMap

namespace Foundation.Window

open SortedMap List

variable {κ υ : Type*} [LinearOrder κ] {key : κ} {value : υ}

/-- Every entry of the table stands in the history, under its own key. -/
def Indexed (order : υ → Nat) (history : List κ) (table : SortedMap κ υ) : Prop :=
  ∀ key value, table.find? key = some value → history[order value]? = some key

/-- The number of distinct keys of a history other than the given one. -/
def others (key : κ) (history : List κ) : Nat := (history.toFinset.erase key).card

theorem others_le_append (key : κ) (history later : List κ) :
    others key history ≤ others key (history ++ later) := by
  refine Finset.card_le_card (Finset.erase_subset_erase key fun other member => ?_)
  rw [mem_toFinset] at member ⊢
  exact mem_append_left later member

variable {order : υ → Nat} {history : List κ} {table : SortedMap κ υ}

section

variable (indexed : Indexed order history table) {other : κ} {otherValue : υ}

include indexed

/-- Two entries at one position have the same key. -/
theorem Indexed.key_eq (found : table.find? key = some value)
    (otherFound : table.find? other = some otherValue) (same : order value = order otherValue) :
    key = other := by
  have one := indexed key value found
  rw [same, indexed other otherValue otherFound] at one
  exact (Option.some.inj one).symm

/-- The entries other than the oldest one were all inserted after it. -/
theorem Indexed.mem_drop (found : table.find? key = some value)
    (otherFound : table.find? other = some otherValue) (apart : other ≠ key)
    (older : order value ≤ order otherValue) : other ∈ history.drop (order value + 1) := by
  have different : order value ≠ order otherValue := fun same =>
    apart (indexed.key_eq found otherFound same).symm
  have position := indexed other otherValue otherFound
  refine mem_iff_getElem?.mpr ⟨order otherValue - (order value + 1), ?_⟩
  rw [getElem?_drop, ← position]
  congr 1
  omega

/-- When a new key is inserted, the table is no larger than the number of keys
that came after its oldest entry, the new one included. -/
theorem Indexed.size_le_others {new : κ} (found : table.find? key = some value)
    (oldest : ∀ other otherValue, table.find? other = some otherValue →
      order value ≤ order otherValue)
    (absent : table.find? new = none) :
    table.size ≤ others key (history.drop (order value + 1) ++ [new]) := by
  have apart : new ≠ key := by
    rintro rfl
    rw [absent] at found
    cases found
  have sub : insert new (table.keys.toFinset.erase key) ⊆
      (history.drop (order value + 1) ++ [new]).toFinset.erase key := by
    intro other member
    rcases Finset.mem_insert.mp member with same | old
    · exact Finset.mem_erase.mpr ⟨same ▸ apart, by simp [same]⟩
    · obtain ⟨different, inKeys⟩ := Finset.mem_erase.mp old
      obtain ⟨otherValue, otherFound⟩ := mem_keys_iff.mp (mem_toFinset.mp inKeys)
      refine Finset.mem_erase.mpr ⟨different, mem_toFinset.mpr (mem_append_left _ ?_)⟩
      exact indexed.mem_drop found otherFound different (oldest other otherValue otherFound)
  have inKeys : key ∈ table.keys.toFinset := mem_toFinset.mpr (mem_keys_iff.mpr ⟨value, found⟩)
  have outside : new ∉ table.keys.toFinset.erase key := by
    intro member
    obtain ⟨otherValue, otherFound⟩ :=
      mem_keys_iff.mp (mem_toFinset.mp (Finset.mem_of_mem_erase member))
    rw [absent] at otherFound
    cases otherFound
  have bound := Finset.card_le_card sub
  rw [Finset.card_insert_of_notMem outside, Finset.card_erase_of_mem inKeys,
    toFinset_card_of_nodup table.keys_nodup, length_keys] at bound
  unfold others
  omega

/-! ### How operations keep the index -/

theorem Indexed.append (later : List κ) : Indexed order (history ++ later) table := by
  intro key value found
  have position := indexed key value found
  rw [List.getElem?_append_left (List.getElem?_eq_some_iff.mp position).1]
  exact position

/-- A table with fewer entries stays indexed. -/
theorem Indexed.of_find? {smaller : SortedMap κ υ}
    (sub : ∀ key value, smaller.find? key = some value → table.find? key = some value) :
    Indexed order history smaller := fun key value found =>
  indexed key value (sub key value found)

/-! ### Weights -/

end

/-- The weight of all entries of a table. -/
def weight (weigh : υ → Nat) (table : SortedMap κ υ) : Nat :=
  (table.entries.map fun entry => weigh entry.2).sum

/-- The entries that were inserted behind a position of the history. -/
def younger (order : υ → Nat) (position : Nat) (table : SortedMap κ υ) : SortedMap κ υ :=
  table.filter fun _ value => decide (position < order value)

variable {weigh : υ → Nat} {position : Nat}

theorem weight_insert (value : υ) (absent : table.find? key = none) :
    weight weigh (table.insert key value) = weigh value + weight weigh table := by
  have perm := (entries_insert_perm value absent).map fun entry => weigh entry.2
  exact perm.sum_eq

theorem weight_erase (found : table.find? key = some value) :
    weight weigh table = weigh value + weight weigh (table.erase key) := by
  have perm := (entries_erase_perm found).map fun entry => weigh entry.2
  exact perm.sum_eq

theorem weight_first (first : table.first? = some (key, value)) :
    weight weigh table = weigh value + weight weigh table.dropFirst := by
  obtain ⟨entries, sorted⟩ := table
  cases entries with
  | nil => cases first
  | cons head tail =>
    cases first
    rfl

theorem weight_of_size_zero (empty : table.size = 0) : weight weigh table = 0 := by
  unfold weight
  rw [length_eq_zero_iff.mp empty]
  rfl

/-- Giving up the beginning of a table does not add younger entries. -/
theorem weight_younger_dropFirst (position : Nat) (table : SortedMap κ υ) :
    weight weigh (younger order position table.dropFirst) ≤
      weight weigh (younger order position table) := by
  have sub : (table.entries.tail.filter fun entry => decide (position < order entry.2)).Sublist
      (table.entries.filter fun entry => decide (position < order entry.2)) :=
    (tail_sublist table.entries).filter _
  exact (sub.map fun entry => weigh entry.2).sum_le_sum fun _ _ => Nat.zero_le _

theorem weight_younger_insert (absent : table.find? key = none) (later : position < order value) :
    weight weigh (younger order position (table.insert key value)) =
      weigh value + weight weigh (younger order position table) := by
  have perm := ((entries_insert_perm value absent).filter
    fun entry => decide (position < order entry.2)).map fun entry => weigh entry.2
  rw [filter_cons_of_pos (by simpa using later)] at perm
  exact perm.sum_eq

/-- Nothing is younger than the last position. -/
theorem Indexed.weight_younger_last (indexed : Indexed order history table)
    (last : history.length ≤ position + 1) : weight weigh (younger order position table) = 0 := by
  have none : table.entries.filter (fun entry => decide (position < order entry.2)) = [] := by
    refine filter_eq_nil_iff.mpr fun entry member => ?_
    have place := indexed entry.1 entry.2 (mem_entries_iff.mp member)
    have bound := (List.getElem?_eq_some_iff.mp place).1
    simp only [decide_eq_true_eq]
    omega
  show ((table.entries.filter fun entry => decide (position < order entry.2)).map
    fun entry => weigh entry.2).sum = 0
  rw [none]
  rfl

/-- All entries but the oldest are younger than it. -/
theorem Indexed.weight_oldest (indexed : Indexed order history table)
    (found : table.find? key = some value)
    (oldest : ∀ other otherValue, table.find? other = some otherValue →
      order value ≤ order otherValue) :
    weight weigh table = weigh value + weight weigh (younger order (order value) table) := by
  have others : table.entries.filter (fun entry => decide (entry.1 ≠ key)) =
      table.entries.filter fun entry => decide (order value < order entry.2) := by
    refine filter_congr fun entry member => decide_eq_decide.mpr ?_
    have otherFound := mem_entries_iff.mp member
    constructor
    · intro apart
      refine lt_of_le_of_ne (oldest entry.1 entry.2 otherFound) fun equal => apart ?_
      exact (indexed.key_eq found otherFound equal).symm
    · intro behind same
      rw [same, found] at otherFound
      cases otherFound
      exact lt_irrefl _ behind
  rw [weight_erase found]
  show weigh value + ((table.entries.filter _).map _).sum = _
  rw [others]
  rfl

end Foundation.Window
