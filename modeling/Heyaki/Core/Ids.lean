/-
Purpose: the fixed-size identifiers of `ids.hpp` and the order that the
associative containers keyed by them iterate in.
-/
import Heyaki.Core.Wire

namespace Heyaki

inductive IdentifierKind where
  | device | endpoint | session | operation | request | transfer | grant | shell
  deriving Repr, Inhabited, DecidableEq

def IdentifierKind.sizeBytes : IdentifierKind → Nat
  | .device => 32
  | _ => 16

/-- The bytes of an identifier; the kind only tells the types apart. -/
structure Identifier (kind : IdentifierKind) where
  bytes : List UInt8
  size : bytes.length = kind.sizeBytes
  deriving Repr, DecidableEq

abbrev DeviceId := Identifier .device
abbrev RequestId := Identifier .request
abbrev GrantId := Identifier .grant

namespace Identifier

variable {kind : IdentifierKind}

def isZero (id : Identifier kind) : Bool :=
  id.bytes.all (· == 0)

/-- The same byte throughout. -/
def filled (byte : UInt8) : Identifier kind :=
  ⟨List.replicate kind.sizeBytes byte, List.length_replicate⟩

/-- The identifier with these bytes, when there are as many as the kind has. -/
def ofBytes? (bytes : List UInt8) : Option (Identifier kind) :=
  if size : bytes.length = kind.sizeBytes then some ⟨bytes, size⟩ else none

end Identifier

/-! ### Byte order -/

variable (bytes : List UInt8)

/-- Bytes as numbers; their lexicographic order is the order of identifiers. -/
def byteRank : List Nat :=
  bytes.map UInt8.toNat

theorem byteRank_injective : Function.Injective byteRank :=
  List.map_injective_iff.mpr fun _ _ same => UInt8.toNat_inj.mp same

instance {kind : IdentifierKind} : LinearOrder (Identifier kind) :=
  LinearOrder.lift' (fun id => byteRank id.bytes) fun one two same => by
    cases one
    cases two
    congr
    exact byteRank_injective same

/-- A string, ordered by its bytes. -/
structure Text where
  bytes : List UInt8
  deriving Repr, DecidableEq

instance : LinearOrder Text :=
  LinearOrder.lift' (fun text => byteRank text.bytes) fun one two same => by
    cases one
    cases two
    congr
    exact byteRank_injective same

instance : LinearOrder MessageId :=
  LinearOrder.lift' (fun id => byteRank id.bytes) fun one two same => by
    cases one
    cases two
    congr
    exact byteRank_injective same

/-- A key of 32 bytes. -/
structure Bytes32 where
  bytes : List UInt8
  size : bytes.length = 32
  deriving Repr

theorem Bytes32.bytes_inj {one two : Bytes32} : one.bytes = two.bytes ↔ one = two := by
  cases one
  cases two
  simp

instance : DecidableEq Bytes32 := fun _ _ => decidable_of_iff _ Bytes32.bytes_inj

instance : LinearOrder Bytes32 :=
  LinearOrder.lift' (fun key => byteRank key.bytes) fun one two same => by
    cases one
    cases two
    congr
    exact byteRank_injective same

theorem length_replicate_thirtyTwo (byte : UInt8) : (List.replicate 32 byte).length = 32 :=
  List.length_replicate

def Bytes32.filled (byte : UInt8) : Bytes32 :=
  ⟨List.replicate 32 byte, length_replicate_thirtyTwo byte⟩

def Bytes32.ofBytes? : Option Bytes32 :=
  if size : bytes.length = 32 then some ⟨bytes, size⟩ else none

def Bytes32.isZero (key : Bytes32) : Bool :=
  key.bytes.all (· == 0)

def MessageId.ofBytes? : Option MessageId :=
  if size : bytes.length = 16 then some ⟨bytes, size⟩ else none

end Heyaki
