/-
Purpose: canonical signing bytes determine the domain and the fields.

The separator, the fields and every value of a field are written after their
length or their number, in fields of fixed width; what `canonicalizeForSignature`
accepts is small enough for those widths.

Main exports: `canonicalObjectBytes_inj`, `canonical_bytes_injective`
-/
import Heyaki.Core.Signing
import Heyaki.Foundation.Framing

namespace Heyaki

open Foundation.Framing

variable {fields : List CanonicalField}

/-! ### Numbers -/

theorem canonicalUint16_injective {one two : UInt16}
    (same : canonicalUint16 one = canonicalUint16 two) : one = two := by
  simp only [canonicalUint16, List.cons.injEq, ← UInt8.toNat_inj, UInt16.toNat_toUInt8,
    UInt16.toNat_shiftRight, and_true] at same
  rw [← UInt16.toNat_inj]
  have small := one.toNat_lt
  have small' := two.toNat_lt
  simp only [show (8 : UInt16).toNat % 16 = 8 from rfl, Nat.shiftRight_eq_div_pow] at same
  omega

theorem canonicalUint32_injective {one two : UInt32}
    (same : canonicalUint32 one = canonicalUint32 two) : one = two := by
  simp only [canonicalUint32, List.cons.injEq, ← UInt8.toNat_inj, UInt32.toNat_toUInt8,
    UInt32.toNat_shiftRight, and_true] at same
  rw [← UInt32.toNat_inj]
  have small := one.toNat_lt
  have small' := two.toNat_lt
  simp only [show (8 : UInt32).toNat % 32 = 8 from rfl, show (16 : UInt32).toNat % 32 = 16 from rfl,
    show (24 : UInt32).toNat % 32 = 24 from rfl, Nat.shiftRight_eq_div_pow] at same
  omega

theorem selfDelimiting_uint16 :
    SelfDelimiting (· < 2 ^ 16) fun number => canonicalUint16 (UInt16.ofNat number) := by
  apply SelfDelimiting.of_length 2
  · intro number _
    rfl
  · intro one two small small' same
    have numbers := congrArg UInt16.toNat (canonicalUint16_injective same)
    rwa [UInt16.toNat_ofNat_of_lt' small, UInt16.toNat_ofNat_of_lt' small'] at numbers

theorem selfDelimiting_uint32 :
    SelfDelimiting (· < 2 ^ 32) fun number => canonicalUint32 (UInt32.ofNat number) := by
  apply SelfDelimiting.of_length 4
  · intro number _
    rfl
  · intro one two small small' same
    have numbers := congrArg UInt32.toNat (canonicalUint32_injective same)
    rwa [UInt32.toNat_ofNat_of_lt' small, UInt32.toNat_ofNat_of_lt' small'] at numbers

theorem selfDelimiting_byte : SelfDelimiting (· < 2 ^ 8) fun number => [UInt8.ofNat number] := by
  apply SelfDelimiting.of_length 1
  · intro number _
    rfl
  · intro one two small small' same
    have numbers := congrArg UInt8.toNat (List.cons.inj same).1
    rwa [UInt8.toNat_ofNat_of_lt' small, UInt8.toNat_ofNat_of_lt' small'] at numbers

/-! ### Fields and objects -/

theorem selfDelimiting_field :
    SelfDelimiting (fun field : CanonicalField => field.value.length < 2 ^ 32)
      canonicalFieldBytes := by
  intro one two rest other small small' same
  have number : SelfDelimiting (fun _ : UInt16 => True) canonicalUint16 :=
    .of_length 2 (fun _ _ => rfl) fun _ _ _ _ => canonicalUint16_injective
  obtain ⟨fields, rests⟩ := number.append selfDelimiting_uint32.sized
    (one.number, one.value) (two.number, two.value) rest other ⟨trivial, small⟩ ⟨trivial, small'⟩ same
  obtain ⟨numbers, values⟩ := Prod.mk.inj fields
  exact ⟨by cases one; cases two; congr, rests⟩

/-- What `canonicalizeForSignature` checks of the sizes. -/
structure Encodable (separator : List UInt8) (fields : List CanonicalField) : Prop where
  separatorSize : separator.length < 2 ^ 8
  count : fields.length < 2 ^ 16
  values : ∀ field ∈ fields, field.value.length < 2 ^ 32

theorem canonicalObjectBytes_inj {separator separator' : List UInt8} {fields' : List CanonicalField}
    (encodable : Encodable separator fields) (encodable' : Encodable separator' fields')
    (same : canonicalObjectBytes separator fields = canonicalObjectBytes separator' fields') :
    separator = separator' ∧ fields = fields' := by
  have tails := List.append_cancel_left same
  injection tails with _ tails
  obtain ⟨separators, tails⟩ := selfDelimiting_byte.sized separator separator' _ _
    encodable.separatorSize encodable'.separatorSize tails
  have objects := selfDelimiting_uint16.counted selfDelimiting_field fields fields' [] []
    ⟨encodable.count, encodable.values⟩ ⟨encodable'.count, encodable'.values⟩ (congrArg (· ++ []) tails)
  exact ⟨separators, objects.1⟩

theorem canonicalSize_values {total size : Nat} {previous : UInt16}
    (sized : canonicalSize total previous fields = .ok size) :
    ∀ field ∈ fields, field.value.length < 2 ^ 32 := by
  induction fields generalizing total previous with
  | nil => exact fun _ member => nomatch member
  | cons field fields ih =>
    simp only [canonicalSize] at sized
    split_ifs at sized with order fits small
    intro other member
    rcases List.mem_cons.mp member with rfl | later
    · omega
    · exact ih sized other later

/-- What is accepted fits its widths, and the bytes are those of the object. -/
theorem canonicalizeForSignature_ok {domain : SigningDomain} {bytes : List UInt8}
    (accepted : canonicalizeForSignature domain fields = .ok bytes) :
    Encodable (signingDomainSeparator domain) fields ∧
      bytes = canonicalObjectBytes (signingDomainSeparator domain) fields := by
  unfold canonicalizeForSignature at accepted
  dsimp only at accepted
  split_ifs at accepted with shape header
  cases sized : canonicalSize (4 + 1 + 1 + (signingDomainSeparator domain).length + 2) 0 fields with
  | error error =>
    rw [sized] at accepted
    cases accepted
  | ok size =>
    rw [sized] at accepted
    cases accepted
    exact ⟨⟨by omega, by omega, canonicalSize_values sized⟩, rfl⟩

def SigningDomain.all : List SigningDomain :=
  [.enrollment, .enrollmentRecord, .relayLogin, .endpointRecord, .serviceManifest, .offer, .answer,
    .candidate, .lanPresence, .lanHello, .sessionHello, .trustGrant]

theorem SigningDomain.mem_all (domain : SigningDomain) : domain ∈ all := by
  cases domain <;> decide

theorem signingDomainSeparator_injective : Function.Injective signingDomainSeparator :=
  fun one two => List.inj_on_of_nodup_map (by decide +kernel) one.mem_all two.mem_all

/-- A signature that a key accepts for an object. -/
def SignedBy (verify : List UInt8 → IdentitySignature → Bool) (signature : IdentitySignature)
    (domain : SigningDomain) (fields : List CanonicalField) : Prop :=
  ∃ bytes, canonicalizeForSignature domain fields = .ok bytes ∧ verify bytes signature = true

/-- Equal canonical bytes come from one domain and one list of fields.  Where a
signature is valid for one message only, it is valid for one object of one domain. -/
theorem canonical_bytes_injective (domain domain' : SigningDomain)
    (fields fields' : List CanonicalField) :
    (∀ bytes, canonicalizeForSignature domain fields = .ok bytes →
      canonicalizeForSignature domain' fields' = .ok bytes → domain = domain' ∧ fields = fields') ∧
    ∀ verify : List UInt8 → IdentitySignature → Bool,
      (∀ signature one two, verify one signature = true → verify two signature = true → one = two) →
      ∀ signature, SignedBy verify signature domain fields →
        SignedBy verify signature domain' fields' → domain = domain' ∧ fields = fields' := by
  have injective : ∀ bytes, canonicalizeForSignature domain fields = .ok bytes →
      canonicalizeForSignature domain' fields' = .ok bytes →
        domain = domain' ∧ fields = fields' := by
    intro bytes accepted accepted'
    obtain ⟨encodable, bytesEq⟩ := canonicalizeForSignature_ok accepted
    obtain ⟨encodable', bytesEq'⟩ := canonicalizeForSignature_ok accepted'
    obtain ⟨separators, objects⟩ :=
      canonicalObjectBytes_inj encodable encodable' (bytesEq.symm.trans bytesEq')
    exact ⟨signingDomainSeparator_injective separators, objects⟩
  refine ⟨injective, ?_⟩
  intro verify binding signature signed signed'
  obtain ⟨bytes, accepted, valid⟩ := signed
  obtain ⟨bytes', accepted', valid'⟩ := signed'
  have sameBytes : bytes = bytes' := binding signature bytes bytes' valid valid'
  exact injective bytes accepted (sameBytes ▸ accepted')

end Heyaki
