/-
Purpose: finite maps kept in the order of their keys, as an ordered container
with unique keys iterates them.

Every lemma describes an operation through `find?`; `first` and `dropFirst`
are the beginning of the iteration order and its removal.
-/
import Mathlib

namespace Foundation

open List

/-- A finite map as the list of its entries, in strictly increasing order of keys. -/
structure SortedMap (κ : Type*) (υ : Type*) [LinearOrder κ] where
  entries : List (κ × υ)
  sorted : entries.Pairwise (fun one two => one.1 < two.1)

namespace SortedMap

variable {κ υ : Type*} [LinearOrder κ] {key other : κ} {value : υ}
  {entries : List (κ × υ)} {map : SortedMap κ υ} {entry : κ × υ} {keep : κ → υ → Bool}

instance : EmptyCollection (SortedMap κ υ) := ⟨⟨[], .nil⟩⟩

instance : Inhabited (SortedMap κ υ) := ⟨{}⟩

/-- Insertion into a sorted list of entries; an entry of the key is replaced. -/
def insertEntry (key : κ) (value : υ) : List (κ × υ) → List (κ × υ)
  | [] => [(key, value)]
  | entry :: entries =>
    if key < entry.1 then (key, value) :: entry :: entries
    else if key = entry.1 then (key, value) :: entries
    else entry :: insertEntry key value entries

theorem mem_insertEntry_iff (sorted : entries.Pairwise (fun one two => one.1 < two.1)) :
    entry ∈ insertEntry key value entries ↔
      entry = (key, value) ∨ entry ∈ entries ∧ entry.1 ≠ key := by
  induction entries with
  | nil => simp [insertEntry]
  | cons head tail ih =>
    obtain ⟨before, rest⟩ := pairwise_cons.mp sorted
    unfold insertEntry
    split
    · rename_i below
      have apart : ∀ entry ∈ head :: tail, entry.1 ≠ key := by
        intro entry member
        cases mem_cons.mp member with
        | inl same => exact same ▸ ne_of_gt below
        | inr later => exact ne_of_gt (below.trans (before entry later))
      rw [mem_cons]
      exact or_congr_right ⟨fun member => ⟨member, apart entry member⟩, And.left⟩
    · split
      · rename_i same
        have apart : ∀ entry ∈ tail, entry.1 ≠ key := fun entry member =>
          same ▸ ne_of_gt (before entry member)
        rw [mem_cons]
        refine or_congr_right ⟨fun member => ⟨.tail _ member, apart entry member⟩, ?_⟩
        rintro ⟨member, other⟩
        exact (mem_cons.mp member).resolve_left fun equal =>
          other (equal ▸ same.symm)
      · rename_i notBelow notSame
        rw [mem_cons, ih rest, mem_cons]
        constructor
        · rintro (equal | equal | ⟨member, other⟩)
          · exact .inr ⟨.inl equal, equal ▸ Ne.symm notSame⟩
          · exact .inl equal
          · exact .inr ⟨.inr member, other⟩
        · rintro (equal | ⟨equal | member, other⟩)
          · exact .inr (.inl equal)
          · exact .inl equal
          · exact .inr (.inr ⟨member, other⟩)

theorem insertEntry_sorted (sorted : entries.Pairwise (fun one two => one.1 < two.1)) :
    (insertEntry key value entries).Pairwise (fun one two => one.1 < two.1) := by
  induction entries with
  | nil => exact pairwise_singleton _ _
  | cons head tail ih =>
    obtain ⟨before, rest⟩ := pairwise_cons.mp sorted
    unfold insertEntry
    split
    · rename_i below
      refine pairwise_cons.mpr ⟨fun entry member => ?_, sorted⟩
      cases mem_cons.mp member with
      | inl same => exact same ▸ below
      | inr later => exact below.trans (before entry later)
    · split
      · rename_i same
        exact pairwise_cons.mpr ⟨fun entry member => same ▸ before entry member, rest⟩
      · rename_i notBelow notSame
        refine pairwise_cons.mpr ⟨fun entry member => ?_, ih rest⟩
        rcases (mem_insertEntry_iff rest).mp member with same | ⟨old, -⟩
        · exact same ▸ lt_of_le_of_ne (not_lt.mp notBelow) (Ne.symm notSame)
        · exact before entry old

def size (map : SortedMap κ υ) : Nat := map.entries.length

def keys (map : SortedMap κ υ) : List κ := map.entries.map Prod.fst

def find? (map : SortedMap κ υ) (key : κ) : Option υ :=
  (map.entries.find? (fun entry => decide (entry.1 = key))).map Prod.snd

def contains (map : SortedMap κ υ) (key : κ) : Bool := (map.find? key).isSome

def insert (map : SortedMap κ υ) (key : κ) (value : υ) : SortedMap κ υ :=
  ⟨insertEntry key value map.entries, insertEntry_sorted map.sorted⟩

def filter (keep : κ → υ → Bool) (map : SortedMap κ υ) : SortedMap κ υ :=
  ⟨map.entries.filter (fun entry => keep entry.1 entry.2), map.sorted.filter _⟩

/-- The same keys with changed values. -/
def mapValues (change : κ → υ → υ) (map : SortedMap κ υ) : SortedMap κ υ :=
  ⟨map.entries.map (fun entry => (entry.1, change entry.1 entry.2)),
    pairwise_map.mpr map.sorted⟩

def erase (map : SortedMap κ υ) (key : κ) : SortedMap κ υ :=
  map.filter fun other _ => decide (other ≠ key)

/-- The entry with the smallest key. -/
def first? (map : SortedMap κ υ) : Option (κ × υ) := map.entries.head?

def dropFirst (map : SortedMap κ υ) : SortedMap κ υ := ⟨map.entries.tail, map.sorted.tail⟩

/-! ### Entries and lookup -/

theorem keys_nodup (map : SortedMap κ υ) : map.keys.Nodup := by
  refine pairwise_map.mpr (map.sorted.imp ?_)
  intro one two below
  exact ne_of_lt below

theorem length_keys : map.keys.length = map.size := length_map _

theorem mem_entries_iff : (key, value) ∈ map.entries ↔ map.find? key = some value := by
  obtain ⟨entries, sorted⟩ := map
  show (key, value) ∈ entries ↔
    (entries.find? (fun entry => decide (entry.1 = key))).map Prod.snd = some value
  induction entries with
  | nil => simp
  | cons head tail ih =>
    obtain ⟨before, rest⟩ := pairwise_cons.mp sorted
    by_cases same : head.1 = key
    · have absent : (key, value) ∉ tail := fun member =>
        absurd (before _ member) (by simp [same])
      simp only [mem_cons, absent, or_false, find?_cons, same, decide_true,
        Option.map_some, Option.some.injEq]
      constructor
      · intro equal
        rw [← equal]
      · intro equal
        rw [← equal, ← same]
    · have other : (key, value) ≠ head := fun equal => same (by rw [← equal])
      simp only [mem_cons, other, false_or, find?_cons, same, decide_false]
      exact ih rest

theorem mem_keys_iff : key ∈ map.keys ↔ ∃ value, map.find? key = some value := by
  constructor
  · intro member
    obtain ⟨⟨other, value⟩, found, same⟩ := mem_map.mp member
    subst same
    exact ⟨value, mem_entries_iff.mp found⟩
  · rintro ⟨value, found⟩
    exact mem_map.mpr ⟨(key, value), mem_entries_iff.mpr found, rfl⟩

theorem contains_iff : map.contains key = true ↔ key ∈ map.keys := by
  rw [mem_keys_iff]
  exact Option.isSome_iff_exists

@[simp] theorem entries_empty : ({} : SortedMap κ υ).entries = [] := rfl

@[simp] theorem keys_empty : ({} : SortedMap κ υ).keys = [] := rfl

@[simp] theorem find?_empty : ({} : SortedMap κ υ).find? key = none := rfl

@[simp] theorem find?_filter (keep : κ → υ → Bool) :
    (map.filter keep).find? key = (map.find? key).filter (keep key) := by
  refine Option.ext fun value => ?_
  rw [← mem_entries_iff, Option.filter_eq_some_iff, ← mem_entries_iff]
  exact mem_filter

theorem filter_eq_empty (drops : ∀ key value, keep key value = false) : map.filter keep = {} := by
  have none : map.entries.filter (fun entry => keep entry.1 entry.2) = [] := by
    simp [drops]
  cases map
  simp only [filter, none]
  rfl

theorem find?_erase :
    (map.erase key).find? other = if other = key then none else map.find? other := by
  rw [erase, find?_filter]
  cases map.find? other with
  | none => simp
  | some value =>
    by_cases same : other = key
    · simp [same]
    · simp [same]

@[simp] theorem find?_erase_self : (map.erase key).find? key = none := by
  rw [find?_erase, if_pos rfl]

theorem absent_entries (absent : map.find? key = none) : ∀ entry ∈ map.entries, entry.1 ≠ key := by
  intro entry member same
  have found : map.find? key = some entry.2 := mem_entries_iff.mp (same ▸ member)
  rw [absent] at found
  cases found

theorem erase_of_find?_none (absent : map.find? key = none) : map.erase key = map := by
  have kept : map.entries.filter (fun entry => decide (entry.1 ≠ key)) = map.entries := by
    rw [filter_eq_self]
    intro entry member
    exact decide_eq_true (absent_entries absent entry member)
  cases map
  simp only [erase, filter, kept]

/-- Erasing a key changes no selection that leaves its entry out. -/
theorem filter_entries_erase {select : κ × υ → Bool}
    (absent : ∀ entry ∈ map.entries, select entry = true → entry.1 ≠ key) :
    (map.erase key).entries.filter select = map.entries.filter select := by
  show (map.entries.filter fun entry => decide (entry.1 ≠ key)).filter select = _
  rw [filter_filter]
  apply filter_congr
  intro entry member
  by_cases selected : select entry = true
  · simp [selected, absent entry member selected]
  · simp [selected]

@[simp] theorem find?_mapValues (change : κ → υ → υ) :
    (map.mapValues change).find? key = (map.find? key).map (change key) := by
  refine Option.ext fun value => ?_
  rw [← mem_entries_iff, Option.map_eq_some_iff]
  constructor
  · intro member
    obtain ⟨⟨other, old⟩, found, same⟩ := mem_map.mp member
    obtain ⟨rfl, rfl⟩ := Prod.mk.inj same
    exact ⟨old, mem_entries_iff.mp found, rfl⟩
  · rintro ⟨old, found, rfl⟩
    exact mem_map.mpr ⟨(key, old), mem_entries_iff.mpr found, rfl⟩

theorem find?_insert (map : SortedMap κ υ) (key other : κ) (value : υ) :
    (map.insert key value).find? other = if other = key then some value else map.find? other := by
  refine Option.ext fun found => ?_
  rw [← mem_entries_iff, insert, mem_insertEntry_iff map.sorted]
  by_cases same : other = key
  · simp only [same, ne_eq, not_true_eq_false, and_false, or_false, if_true, Prod.mk.injEq,
      true_and, Option.some.injEq]
    exact eq_comm
  · simp only [Prod.mk.injEq, same, false_and, ne_eq, not_false_eq_true, and_true, false_or,
      if_false]
    exact mem_entries_iff

@[simp] theorem find?_insert_self (map : SortedMap κ υ) (key : κ) (value : υ) :
    (map.insert key value).find? key = some value := by
  rw [find?_insert, if_pos rfl]

theorem find?_of_erase (found : (map.erase key).find? other = some value) :
    other ≠ key ∧ map.find? other = some value := by
  rw [find?_erase] at found
  split_ifs at found with same
  exact ⟨same, found⟩

/-- What is found after an insertion is new or was there. -/
theorem find?_of_insert {stored : υ} (found : (map.insert key value).find? other = some stored) :
    other = key ∧ stored = value ∨ other ≠ key ∧ map.find? other = some stored := by
  rw [find?_insert] at found
  split_ifs at found with same
  · cases found
    exact .inl ⟨same, rfl⟩
  · exact .inr ⟨same, found⟩

/-! ### Keys -/

theorem mem_keys_iff_ne_none : key ∈ map.keys ↔ map.find? key ≠ none := by
  rw [mem_keys_iff, Option.ne_none_iff_exists']

theorem mem_keys_erase : other ∈ (map.erase key).keys ↔ other ∈ map.keys ∧ other ≠ key := by
  rw [mem_keys_iff_ne_none, mem_keys_iff_ne_none, find?_erase]
  by_cases same : other = key
  · simp [same]
  · simp [same]

theorem mem_keys_insert : other ∈ (map.insert key value).keys ↔ other = key ∨ other ∈ map.keys := by
  rw [mem_keys_iff_ne_none, mem_keys_iff_ne_none, find?_insert]
  by_cases same : other = key
  · simp [same]
  · simp [same]

theorem mem_keys_mapValues {change : κ → υ → υ} :
    key ∈ (map.mapValues change).keys ↔ key ∈ map.keys := by
  rw [mem_keys_iff_ne_none, mem_keys_iff_ne_none, find?_mapValues, ne_eq, Option.map_eq_none_iff]

/-! ### Sizes -/

theorem entries_nodup (map : SortedMap κ υ) : map.entries.Nodup :=
  .of_map Prod.fst map.keys_nodup

/-- A new key adds one entry, somewhere. -/
theorem entries_insert_perm (value : υ) (absent : map.find? key = none) :
    (map.insert key value).entries.Perm ((key, value) :: map.entries) := by
  have others := absent_entries absent
  refine (perm_ext_iff_of_nodup (entries_nodup _)
    (nodup_cons.mpr ⟨fun member => others _ member rfl, map.entries_nodup⟩)).mpr fun entry => ?_
  rw [mem_cons]
  refine (mem_insertEntry_iff map.sorted).trans (or_congr_right ?_)
  exact ⟨And.left, fun member => ⟨member, others entry member⟩⟩

theorem filter_congr {other : κ → υ → Bool} (same : ∀ key value, keep key value = other key value) :
    map.filter keep = map.filter other := by
  have equal : keep = other := funext fun key => funext fun value => same key value
  rw [equal]

theorem size_insert_le {old : υ} (found : map.find? key = some old) :
    (map.insert key value).size ≤ map.size := by
  rw [← length_keys, ← length_keys]
  refine (List.Nodup.subperm (keys_nodup _) fun other member => ?_).length_le
  rcases mem_keys_insert.mp member with rfl | before
  · exact mem_keys_iff_ne_none.mpr (by simp [found])
  · exact before

theorem size_insert_of_absent (absent : map.find? key = none) :
    (map.insert key value).size = map.size + 1 :=
  (entries_insert_perm value absent).length_eq

/-- Erasing a key removes its entry, wherever it is. -/
theorem entries_erase_perm (found : map.find? key = some value) :
    map.entries.Perm ((key, value) :: (map.erase key).entries) := by
  have others : ∀ entry ∈ (map.erase key).entries, entry.1 ≠ key := absent_entries find?_erase_self
  refine (perm_ext_iff_of_nodup map.entries_nodup
    (nodup_cons.mpr ⟨fun member => others _ member rfl, entries_nodup _⟩)).mpr ?_
  rintro ⟨other, stored⟩
  rw [mem_cons, mem_entries_iff, mem_entries_iff, find?_erase]
  by_cases same : other = key
  · simp [same, found, eq_comm]
  · simp [same]

/-- The entries of one key are at most one. -/
theorem filter_entries_key (found : map.find? key = some value) {isKey : κ × υ → Bool}
    (spec : ∀ entry, isKey entry = true ↔ entry.1 = key) :
    map.entries.filter isKey = [(key, value)] := by
  have split := (entries_erase_perm found).filter isKey
  have others : (map.erase key).entries.filter isKey = [] := by
    refine filter_eq_nil_iff.mpr fun entry member => ?_
    rw [spec]
    exact absent_entries find?_erase_self entry member
  rw [filter_cons_of_pos ((spec _).mpr rfl), others] at split
  exact perm_singleton.mp split

theorem size_erase_of_found (found : map.find? key = some value) :
    map.size = (map.erase key).size + 1 :=
  (entries_erase_perm found).length_eq

variable (select : κ → Bool)

/-- How many keys are selected. -/
def countKeys (map : SortedMap κ υ) : Nat := map.entries.countP fun entry => select entry.1

theorem countKeys_insert (absent : map.find? key = none) :
    (map.insert key value).countKeys select = map.countKeys select + if select key then 1 else 0 := by
  rw [countKeys, (entries_insert_perm value absent).countP_eq, countP_cons]
  rfl

theorem countKeys_erase (found : map.find? key = some value) :
    map.countKeys select = (map.erase key).countKeys select + if select key then 1 else 0 := by
  rw [countKeys, (entries_erase_perm found).countP_eq, countP_cons]
  rfl

theorem size_filter_le (keep : κ → υ → Bool) (map : SortedMap κ υ) :
    (map.filter keep).size ≤ map.size :=
  length_filter_le _ _

/-! ### The beginning of the iteration order -/

theorem first?_eq_none_iff : map.first? = none ↔ map.size = 0 := by
  rw [first?, head?_eq_none_iff, size, length_eq_zero_iff]

theorem find?_of_first? (first : map.first? = some (key, value)) : map.find? key = some value :=
  mem_entries_iff.mp (mem_of_mem_head? first)

theorem size_dropFirst : map.dropFirst.size = map.size - 1 := length_tail

/-- Removing the beginning removes exactly the smallest key. -/
theorem find?_dropFirst (first : map.first? = some (key, value)) :
    map.dropFirst.find? other = if other = key then none else map.find? other := by
  obtain ⟨entries, sorted⟩ := map
  cases entries with
  | nil => cases first
  | cons head tail =>
    obtain ⟨before, rest⟩ := pairwise_cons.mp sorted
    have isHead : head = (key, value) := Option.some.inj first
    subst isHead
    by_cases same : other = key
    · rw [if_pos same, same]
      have absent : ∀ found, ¬ (⟨tail, rest⟩ : SortedMap κ υ).find? key = some found := by
        intro found holds
        exact absurd (before _ (mem_entries_iff.mpr holds)) (lt_irrefl key)
      exact Option.eq_none_iff_forall_ne_some.mpr absent
    · rw [if_neg same]
      refine Option.ext fun found => ?_
      rw [← mem_entries_iff, ← mem_entries_iff, mem_cons]
      exact ⟨.inr, fun either => either.resolve_left fun equal =>
        same (congrArg Prod.fst equal)⟩

end SortedMap

end Foundation
