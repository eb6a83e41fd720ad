/-
Purpose: where a received file goes: the names a manifest may carry (`file_protocol.cpp`), the
paths they become and the sweep of what a crash left behind (`file_store.cpp`).

A path is the list of its components.  A sweep is given what the iterator over the directory of
a root finds; its errors, which nothing reads, are left out.

Trusted boundary: `ensure` answers for `ensure_directory_real`
-/
import Heyaki.Core.Gateway
import Heyaki.Core.Ids

namespace Heyaki

open Ascii

abbrev TransferId := Identifier .transfer
abbrev StorePath := List (List UInt8)

/-! ### Names -/

def maxLogicalNameBytes : Nat := 512
def maxFileNameSegments : Nat := 32

/-- CON, PRN, AUX, NUL, COM1 to COM9 and LPT1 to LPT9, with any extension. -/
def windowsDeviceSegment (segment : List UInt8) : Bool :=
  let stem := segment.takeWhile (· != dot)
  let lower := stem.map (· ||| 0x20)
  [asciiBytes "con", asciiBytes "prn", asciiBytes "aux", asciiBytes "nul"].contains lower ||
    stem.length == 4 && [asciiBytes "com", asciiBytes "lpt"].contains (lower.take 3) &&
      (stem.drop 3).all fun digit => 49 ≤ digit && digit ≤ 57

def nameSegmentToken (segment : List UInt8) : Bool :=
  segment.all fun byte => isLower byte || isUpper byte || isDigit byte || byte == underscore ||
    byte == hyphen || byte == dot || byte == 32 || byte == 40 || byte == 41

def safeSegment (segment : List UInt8) : Bool :=
  !segment.isEmpty && segment != [dot] && segment != [dot, dot] &&
    segment.getLast? != some dot && segment.getLast? != some 32 &&
    nameSegmentToken segment && !windowsDeviceSegment segment

def safeLogicalFileName (name : List UInt8) : Bool :=
  !name.isEmpty && decide (name.length ≤ maxLogicalNameBytes) &&
    name.head? != some slash && name.head? != some 92 && !name.contains 0 &&
    (name.all fun byte => 0x20 ≤ byte && byte ≤ 0x7e && byte != 92) &&
    (name.splitOn slash).all safeSegment &&
    decide ((name.splitOn slash).length ≤ maxFileNameSegments)

/-! ### Paths -/

structure StagingFile where
  finalPath : StorePath
  tempPath : StorePath
  statePath : StorePath
  deriving Repr, DecidableEq

def storeError (code : ErrorCode) (detail : String) : Error :=
  { code := code, component := "file_store", safeDetail := detail }

def stagingMarker : List UInt8 := asciiBytes ".heyaki-"

def transferHex (id : TransferId) : List UInt8 :=
  let digit (value : UInt8) : UInt8 := (asciiBytes "0123456789abcdef").getD value.toNat 0
  id.bytes.flatMap fun byte : UInt8 => [digit (byte >>> 4), digit (byte &&& 0x0f)]

def stagedName (last hex suffix : List UInt8) : List UInt8 := last ++ (stagingMarker ++ hex) ++ suffix

def stagingAt (current : StorePath) (last hex : List UInt8) : StagingFile where
  finalPath := current ++ [last]
  tempPath := current ++ [stagedName last hex (asciiBytes ".part")]
  statePath := current ++ [stagedName last hex (asciiBytes ".state")]

def createStaging (ensure : StorePath → Except Error Unit) (rootDirectory : StorePath)
    (logicalName hex : List UInt8) : Except Error StagingFile := do
  ensure rootDirectory
  let segments := (logicalName.splitOn slash).filter (!·.isEmpty)
  match segments.getLast? with
  | none => .error (storeError .protocol "logical_name_invalid")
  | some last =>
    -- every directory on the way, from the root down
    segments.dropLast.inits.tail.forM fun made => ensure (rootDirectory ++ made)
    .ok (stagingAt (rootDirectory ++ segments.dropLast) last hex)

/-- The paths of a manifest (`handle_inbound_manifest`): the first segment has selected the
directory.  A name of one segment makes `substr` throw. -/
def receivePaths (ensure : StorePath → Except Error Unit) (directory : StorePath)
    (logicalName : List UInt8) (id : TransferId) : Option (Except Error StagingFile) :=
  match logicalName.dropWhile (· != slash) with
  | [] => none
  | _ :: relativeName => some (createStaging ensure directory relativeName (transferHex id))

/-! ### The sweep -/

/-- What stands behind the last occurrence of the marker (`rfind`). -/
def afterLast (marker : List UInt8) : List UInt8 → Option (List UInt8)
  | [] => none
  | byte :: rest =>
    (afterLast marker rest).or
      (if marker.isPrefixOf (byte :: rest) then some ((byte :: rest).drop marker.length) else none)

def isLowerHex (byte : UInt8) : Bool := isDigit byte || 97 ≤ byte && byte ≤ 102

def stagingSuffixes : List (List UInt8) := [asciiBytes ".part", asciiBytes ".state"]

def isStagingLeftoverName (name : List UInt8) : Bool :=
  match afterLast stagingMarker name with
  | none => false
  | some tail =>
    decide (32 < tail.length) && stagingSuffixes.contains (tail.drop 32) &&
      (tail.take 32).all isLowerHex

/-- An entry of a directory: whether it is a regular file or a symbolic link, and when it was
last written, as far as that can be read. -/
structure DirectoryEntry where
  name : List UInt8
  removable : Bool
  written : Option Int

/-- The paths that a sweep removes.  The iterator does not go into subdirectories. -/
def sweepStaleStaging (rootDirectory : StorePath) (cutoff : Int) (entries : List DirectoryEntry) :
    List StorePath :=
  (entries.filter fun entry => isStagingLeftoverName entry.name && entry.removable &&
    entry.written.any (· ≤ cutoff)).map fun entry => rootDirectory ++ [entry.name]

end Heyaki
