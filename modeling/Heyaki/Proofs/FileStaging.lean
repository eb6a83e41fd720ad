/-
Purpose: the paths of received files stay below their root, and which of them a sweep takes.

The sweep lists one directory, so what a crash leaves of a file in a subdirectory stays for
ever.  And a logical name may itself end like a staging path: its file is swept when it is old.

Main exports: `receive_paths_below`, `receive_throws_iff`, `staging_swept_iff`
-/
import Heyaki.Client.FileStaging
import Heyaki.Foundation.Transaction
import Heyaki.Foundation.Varint

namespace Heyaki

open Ascii List
open Foundation.Transaction (bind_eq_ok)
open Foundation.Varint (forall_byte)

/-- The name ends like that of a staged file or of a sidecar. -/
def EndsStaged (name : List UInt8) : Prop :=
  ∃ stem hex suffix, name = stagedName stem hex suffix ∧ hex.length = 32 ∧
    hex.all isLowerHex = true ∧ suffix ∈ stagingSuffixes

/-- A single step down. -/
def Plain (component : List UInt8) : Prop :=
  component ≠ [] ∧ component ≠ [dot] ∧ component ≠ [dot, dot]

def Below (directory path : StorePath) : Prop :=
  ∃ components, components ≠ [] ∧ path = directory ++ components ∧
    ∀ component ∈ components, Plain component

/-- Some sweep of the root removes the path. -/
def SweepTakes (directory path : StorePath) : Prop :=
  ∃ cutoff entries, path ∈ sweepStaleStaging directory cutoff entries

/-! ### Names that the sweep recognises -/

theorem afterLast_eq_some {marker name tail : List UInt8} (found : afterLast marker name = some tail) :
    ∃ stem, name = stem ++ (marker ++ tail) := by
  induction name with
  | nil => cases found
  | cons byte rest ih =>
    rw [afterLast, Option.or_eq_some_iff] at found
    rcases found with later | ⟨-, here⟩
    · obtain ⟨stem, rfl⟩ := ih later
      exact ⟨byte :: stem, rfl⟩
    · split at here
      · rename_i starts
        cases here
        obtain ⟨tail, split⟩ := isPrefixOf_iff_prefix.mp starts
        refine ⟨[], ?_⟩
        rw [← split, drop_left]
        rfl
      · cases here

theorem afterLast_append {first : UInt8} {others front : List UInt8} (rest : List UInt8)
    (absent : first ∉ front) :
    afterLast (first :: others) (front ++ rest) = afterLast (first :: others) rest := by
  induction front with
  | nil => rfl
  | cons byte front ih =>
    rw [mem_cons, not_or] at absent
    rw [cons_append, afterLast, ih absent.2, isPrefixOf_cons_cons, beq_false_of_ne absent.1,
      Bool.false_and, if_neg Bool.false_ne_true, Option.or_none]

/-- A marker that does not come again is found where it is. -/
theorem afterLast_marked {first : UInt8} {others tail : List UInt8} (stem : List UInt8)
    (last : afterLast (first :: others) (others ++ tail) = none) :
    afterLast (first :: others) (stem ++ (first :: others ++ tail)) = some tail := by
  induction stem with
  | nil =>
    rw [nil_append, cons_append, afterLast, last, Option.none_or, ← cons_append, drop_left]
    exact if_pos <| isPrefixOf_iff_prefix.mpr (prefix_append _ _)
  | cons byte stem ih => rw [cons_append, afterLast, ih, Option.some_or]

theorem isStagingLeftoverName_iff {name : List UInt8} :
    isStagingLeftoverName name = true ↔ EndsStaged name := by
  unfold isStagingLeftoverName
  constructor
  · intro recognised
    split at recognised
    · cases recognised
    · rename_i tail found
      simp only [Bool.and_eq_true, decide_eq_true_eq, contains_iff_mem] at recognised
      obtain ⟨⟨long, ending⟩, digits⟩ := recognised
      obtain ⟨stem, rfl⟩ := afterLast_eq_some found
      refine ⟨stem, tail.take 32, tail.drop 32, ?_, length_take_of_le long.le, digits, ending⟩
      rw [stagedName, append_assoc, append_assoc, take_append_drop]
  · rintro ⟨stem, hex, suffix, rfl, length, digits, ending⟩
    have marker : stagingMarker = dot :: asciiBytes "heyaki-" := by decide
    have ends : ∀ suffix ∈ stagingSuffixes, afterLast stagingMarker suffix = none ∧ suffix ≠ [] := by
      decide
    -- neither the rest of the marker nor a digit is a dot
    have last : afterLast stagingMarker (asciiBytes "heyaki-" ++ (hex ++ suffix)) = none := by
      rw [marker, afterLast_append _ (by decide), afterLast_append, ← marker]
      · exact (ends suffix ending).1
      · intro member
        cases all_eq_true.mp digits dot member
    have found := afterLast_marked stem (marker ▸ last)
    rw [stagedName, append_assoc, append_assoc, marker, found]
    dsimp only
    rw [drop_left' length, take_left' length, digits, length_append, length]
    simpa [length_pos_iff] using ⟨(ends suffix ending).2, ending⟩

theorem sweepTakes_iff {directory folders : StorePath} {name : List UInt8} :
    SweepTakes directory (directory ++ folders ++ [name]) ↔ folders = [] ∧ EndsStaged name := by
  constructor
  · rintro ⟨cutoff, entries, taken⟩
    obtain ⟨entry, listed, same⟩ := mem_map.mp taken
    rw [append_assoc, append_cancel_left_eq] at same
    obtain ⟨rfl, rfl⟩ : folders = [] ∧ name = entry.name := by
      cases folders with
      | nil => exact ⟨rfl, (cons.inj same).1.symm⟩
      | cons folder folders => simp at same
    have recognised := (mem_filter.mp listed).2
    simp only [Bool.and_eq_true] at recognised
    exact ⟨rfl, isStagingLeftoverName_iff.mp recognised.1.1⟩
  · rintro ⟨rfl, ends⟩
    refine ⟨0, [⟨name, true, some 0⟩], mem_map.mpr ⟨⟨name, true, some 0⟩, ?_, by simp⟩⟩
    simp [isStagingLeftoverName_iff.mpr ends]

/-! ### The paths of a manifest -/

theorem transferHex_digits (id : TransferId) :
    (transferHex id).length = 32 ∧ (transferHex id).all isLowerHex = true := by
  have digit : ∀ byte : UInt8, isLowerHex ((asciiBytes "0123456789abcdef").getD (byte >>> 4).toNat 0) ∧
      isLowerHex ((asciiBytes "0123456789abcdef").getD (byte &&& 0x0f).toNat 0) :=
    forall_byte (by decide +kernel)
  constructor
  · have size : id.bytes.length = 16 := id.size
    simp [transferHex, length_flatMap, size]
  · simp only [transferHex, all_flatMap, all_eq_true]
    intro byte _ value member
    simp only [mem_cons, not_mem_nil, or_false] at member
    rcases member with rfl | rfl
    · exact (digit byte).1
    · exact (digit byte).2

theorem splitOn_of_dropWhile {name relative : List UInt8} {separator : UInt8}
    (rest : name.dropWhile (· != slash) = separator :: relative) :
    name.splitOn slash = name.takeWhile (· != slash) :: relative.splitOn slash := by
  have separates := head?_dropWhile_not (· != slash) name
  rw [rest] at separates
  obtain rfl : separator = slash := by simpa using separates
  have whole : name.takeWhile (· != slash) ++ slash :: relative = name := by
    rw [← rest]
    exact takeWhile_append_dropWhile
  conv_lhs => rw [← whole]
  refine splitOnP_append_cons_of_forall_mem (p := (· == slash)) (fun byte member => ?_) _
    (beq_self_eq_true slash) _
  simpa using mem_takeWhile_imp member

theorem endsStaged_staged (last : List UInt8) (id : TransferId) {suffix : List UInt8}
    (ending : suffix ∈ stagingSuffixes) : EndsStaged (stagedName last (transferHex id) suffix) :=
  ⟨last, _, suffix, rfl, (transferHex_digits id).1, (transferHex_digits id).2, ending⟩

theorem EndsStaged.plain {name : List UInt8} (ends : EndsStaged name) : Plain name := by
  obtain ⟨stem, hex, suffix, rfl, length, -⟩ := ends
  have long : 2 < (stagedName stem hex suffix).length := by
    simp only [stagedName, length_append, length]
    omega
  refine ⟨?_, ?_, ?_⟩ <;> intro same <;> rw [same] at long <;> exact absurd long (by decide)

section

variable {ensure : StorePath → Except Error Unit} {directory : StorePath} {name : List UInt8}
  {id : TransferId} {staging : StagingFile}

/-- An accepted name is a root, folders and a file, and its paths are in those folders. -/
theorem receivePaths_ok (safe : safeLogicalFileName name = true)
    (made : receivePaths ensure directory name id = some (.ok staging)) :
    ∃ root folders last, name.splitOn slash = root :: (folders ++ [last]) ∧
      (∀ segment ∈ folders ++ [last], Plain segment) ∧
      staging = stagingAt (directory ++ folders) last (transferHex id) := by
  unfold receivePaths at made
  split at made
  · cases made
  rename_i separator relative rest
  have parts := splitOn_of_dropWhile rest
  have plain : ∀ segment ∈ relative.splitOn slash, Plain segment := by
    intro segment member
    simp only [safeLogicalFileName, Bool.and_eq_true, all_eq_true] at safe
    have segmentSafe := safe.1.2 segment (parts ▸ mem_cons_of_mem _ member)
    simp only [safeSegment, Bool.and_eq_true, bne_iff_ne, Bool.not_eq_true',
      isEmpty_eq_false_iff] at segmentSafe
    obtain ⟨⟨⟨⟨⟨⟨some, one⟩, two⟩, -⟩, -⟩, -⟩, -⟩ := segmentSafe
    exact ⟨some, one, two⟩
  have full : (relative.splitOn slash).filter (!·.isEmpty) = relative.splitOn slash :=
    filter_eq_self.mpr fun segment member => by simpa using (plain segment member).1
  obtain ⟨-, -, made⟩ := bind_eq_ok.mp (Option.some.inj made)
  rw [full] at made
  dsimp only at made
  split at made
  · cases made
  rename_i last isLast
  obtain ⟨-, -, made⟩ := bind_eq_ok.mp made
  cases made
  have split := dropLast_append_getLast? last isLast
  exact ⟨_, (relative.splitOn slash).dropLast, last, split.symm ▸ parts, split.symm ▸ plain, rfl⟩

/-- Whatever an accepted manifest is called, its file, its staged bytes and its sidecar are below
the directory of its root. -/
theorem receive_paths_below (safe : safeLogicalFileName name = true)
    (made : receivePaths ensure directory name id = some (.ok staging)) :
    ∀ path ∈ [staging.finalPath, staging.tempPath, staging.statePath], Below directory path := by
  obtain ⟨root, folders, last, -, segments, rfl⟩ := receivePaths_ok safe made
  have below : ∀ component, Plain component →
      Below directory (directory ++ folders ++ [component]) := by
    intro component plain
    refine ⟨folders ++ [component], by simp, append_assoc .., fun other member => ?_⟩
    rcases mem_append.mp member with folder | same
    · exact segments other (mem_append_left _ folder)
    · exact mem_singleton.mp same ▸ plain
  simp only [forall_mem_cons]
  exact ⟨below _ (segments last mem_concat_self), below _ (endsStaged_staged last id (by decide)).plain,
    below _ (endsStaged_staged last id (by decide)).plain, nofun⟩

/-- A sweep of the root takes the staged bytes and the sidecar of a receive if and only if its
name has no folders, and the file itself if its name then ends like a staging path. -/
theorem staging_swept_iff (safe : safeLogicalFileName name = true)
    (made : receivePaths ensure directory name id = some (.ok staging)) :
    (SweepTakes directory staging.tempPath ↔ (name.splitOn slash).length = 2) ∧
      (SweepTakes directory staging.statePath ↔ (name.splitOn slash).length = 2) ∧
      (SweepTakes directory staging.finalPath ↔
        ∃ root last, name.splitOn slash = [root, last] ∧ EndsStaged last) := by
  obtain ⟨root, folders, last, parts, -, rfl⟩ := receivePaths_ok safe made
  have flat : (name.splitOn slash).length = 2 ↔ folders = [] := by
    rw [parts, length_cons, length_append, ← length_eq_zero_iff]
    simp
  have staged (suffix : List UInt8) (ending : suffix ∈ stagingSuffixes) :
      SweepTakes directory (directory ++ folders ++ [stagedName last (transferHex id) suffix]) ↔
        (name.splitOn slash).length = 2 := by
    rw [sweepTakes_iff, flat, and_iff_left (endsStaged_staged last id ending)]
  refine ⟨staged _ (by decide), staged _ (by decide), sweepTakes_iff.trans ⟨?_, ?_⟩⟩
  · rintro ⟨rfl, ends⟩
    exact ⟨root, last, parts, ends⟩
  · rintro ⟨_, _, two, ends⟩
    have none : folders = [] := flat.mp (by rw [two]; rfl)
    rw [none] at parts
    cases parts.symm.trans two
    exact ⟨none, ends⟩

end

namespace StagingSample

def id : TransferId := .filled 0

/-- The name under which `f` is staged. -/
def second : List UInt8 := stagedName (asciiBytes "f") (transferHex id) (asciiBytes ".part")

theorem made (name : List UInt8) (small : name ∈ [asciiBytes "f", second]) :
    safeLogicalFileName (asciiBytes "in/" ++ name) = true ∧
      receivePaths (fun _ => .ok ()) [] (asciiBytes "in/" ++ name) id =
        some (.ok (stagingAt [] name (transferHex id))) := by
  revert name
  decide +kernel

end StagingSample

open StagingSample

theorem receive_paths_below_sample :
    Below [] (stagingAt [] (asciiBytes "f") (transferHex StagingSample.id)).tempPath :=
  have accepted := made (asciiBytes "f") (.head _)
  receive_paths_below accepted.1 accepted.2 _ (.tail _ (.head _))

/-- The second file stands where the first one is staged, and a sweep takes it. -/
theorem staging_swept_second :
    (stagingAt [] second (transferHex StagingSample.id)).finalPath =
      (stagingAt [] (asciiBytes "f") (transferHex StagingSample.id)).tempPath ∧
    SweepTakes [] (stagingAt [] second (transferHex StagingSample.id)).finalPath := by
  have accepted := made second (.tail _ (.head _))
  refine ⟨rfl, (staging_swept_iff accepted.1 accepted.2).2.2.mpr
    ⟨asciiBytes "in", second, by decide +kernel, ?_⟩⟩
  exact endsStaged_staged _ _ (by decide)

end Heyaki
