/-
Purpose: the canonical bytes that signatures cover (`signing.cpp`).

A signed object is a domain and a list of numbered fields.  Each domain fixes the
numbers and most of the sizes; its bytes are the magic, a version, the domain's
separator, the number of fields and then every field with its number and length.
The signature scheme and SHA-256 are parameters.

Trusted boundary: `IdentityCrypto`
-/
import Heyaki.Core.Ids

namespace Heyaki

abbrev EndpointId := Identifier .endpoint
abbrev SessionId := Identifier .session

/-- A byte string of a fixed size, when there are as many bytes. -/
def exactly? (size : Nat) (bytes : List UInt8) : Option { bytes : List UInt8 // bytes.length = size } :=
  if fits : bytes.length = size then some ⟨bytes, fits⟩ else none

/-- The same byte throughout. -/
def filledBytes (size : Nat) (byte : UInt8) : { bytes : List UInt8 // bytes.length = size } :=
  ⟨List.replicate size byte, List.length_replicate⟩

abbrev IdentityPublicKey := { bytes : List UInt8 // bytes.length = 32 }
abbrev IdentitySignature := { bytes : List UInt8 // bytes.length = 64 }
abbrev SignalingTranscriptSha256 := { bytes : List UInt8 // bytes.length = 32 }

def signingError (detail : String) : Error :=
  { code := .protocol, component := "signing", safeDetail := detail }

/-! ### Numbers in network order -/

def canonicalUint16 (value : UInt16) : List UInt8 :=
  [(value >>> 8).toUInt8, value.toUInt8]

def canonicalUint32 (value : UInt32) : List UInt8 :=
  [(value >>> 24).toUInt8, (value >>> 16).toUInt8, (value >>> 8).toUInt8, value.toUInt8]

def canonicalUint64 (value : UInt64) : List UInt8 :=
  [(value >>> 56).toUInt8, (value >>> 48).toUInt8, (value >>> 40).toUInt8, (value >>> 32).toUInt8,
    (value >>> 24).toUInt8, (value >>> 16).toUInt8, (value >>> 8).toUInt8, value.toUInt8]

/-- The number that two bytes in network order stand for. -/
def readUint16 (high low : UInt8) : Nat :=
  high.toNat * 256 + low.toNat

/-! ### Domains and their fields -/

inductive SigningDomain where
  | enrollment | enrollmentRecord | relayLogin | endpointRecord | serviceManifest | offer | answer
  | candidate | lanPresence | lanHello | sessionHello | trustGrant
  deriving Repr, Inhabited, DecidableEq

variable (domain : SigningDomain)

/-- The value of the enumeration. -/
def SigningDomain.code : UInt8 :=
  UInt8.ofNat domain.ctorIdx

/-- Every value of the enumeration has a separator, so that the source's invalid
one cannot occur. -/
def signingDomainSeparator : SigningDomain → List UInt8
  | .enrollment => asciiBytes "heyaki.enrollment.v1"
  | .enrollmentRecord => asciiBytes "heyaki.enrollment-record.v1"
  | .relayLogin => asciiBytes "heyaki.relay-login.v1"
  | .endpointRecord => asciiBytes "heyaki.endpoint-record.v1"
  | .serviceManifest => asciiBytes "heyaki.service-manifest.v1"
  | .offer => asciiBytes "heyaki.offer.v1"
  | .answer => asciiBytes "heyaki.answer.v1"
  | .candidate => asciiBytes "heyaki.candidate.v1"
  | .lanPresence => asciiBytes "heyaki.lan-presence.v1"
  | .lanHello => asciiBytes "heyaki.lan-hello.v1"
  | .sessionHello => asciiBytes "heyaki.session-hello.v1"
  | .trustGrant => asciiBytes "heyaki.trust-grant.v1"

structure CanonicalField where
  number : UInt16
  value : List UInt8
  deriving Repr, DecidableEq

/-- The size of a field, when the domain fixes it. -/
abbrev FieldRule := Option Nat

def enrollmentRules : List FieldRule :=
  [some 32, some 16, some 32, some 32, some 32, none, some 4, some 4, some 8, some 8, some 8]

def enrollmentRecordRules : List FieldRule :=
  [some 32, some 16, some 32, none, some 8, some 8]

def relayLoginRules : List FieldRule :=
  [some 32, some 16, some 32, some 32, some 32, none, some 4, some 4, some 8, some 8, some 8,
    some 8]

def endpointRecordRules : List FieldRule :=
  [some 32, some 16, none, some 8, some 32, some 8]

def serviceManifestRules : List FieldRule :=
  [some 32, some 16, some 8, some 32, some 8]

def offerRules : List FieldRule :=
  [some 32, some 16, some 32, some 16, some 16, some 16, some 32, some 8, none, some 32]

def answerRules : List FieldRule :=
  [some 32, some 16, some 32, some 16, some 16, some 16, some 32, some 32, some 8, none, some 32]

def candidateRules : List FieldRule :=
  [some 32, some 16, some 32, some 16, some 16, some 16, some 32, some 32, some 8, some 4, none,
    some 32, none, some 32]

def lanPresenceRules : List FieldRule :=
  [some 4, some 4, some 8, some 8, some 32, some 32, some 16, some 32, some 8, some 2, some 4]

def lanHelloRules : List FieldRule :=
  [some 4, some 32, some 16, some 32, some 16, some 32, some 32, some 32, some 32, some 32,
    some 32, some 4, some 4, some 8, some 8, some 4]

def sessionHelloRules : List FieldRule :=
  [some 32, some 16, some 32, some 16, some 16, some 8, some 32, some 32, some 32, some 4, some 4,
    some 8, some 8, some 8]

def trustGrantRequiredRules : List FieldRule :=
  [some 16, some 32, some 32, none, some 8, some 8]

/-- Fields numbered from `index + 1` on, with the sizes that the rules fix. -/
def matchesRulesFrom : Nat → List CanonicalField → List FieldRule → Bool
  | _, [], [] => true
  | index, field :: fields, rule :: rules =>
    field.number.toNat == index + 1 && rule.all (field.value.length == ·) &&
      matchesRulesFrom (index + 1) fields rules
  | _, _, _ => false

variable (fields : List CanonicalField)

def matchesRules (rules : List FieldRule) : Bool :=
  matchesRulesFrom 0 fields rules

/-! ### The shapes of variable fields -/

def isPrintableAscii (value : List UInt8) (minimum maximum : Nat) : Bool :=
  !(value.length < minimum || value.length > maximum) &&
    value.all fun byte => byte ≥ 0x20 && byte ≤ 0x7e

def isContinuation (byte : UInt8) : Bool :=
  !(byte < 0x80 || byte > 0xbf)

/-- Well-formed UTF-8: one to four bytes a character, with the second byte kept from
overlong forms, surrogates and values above the last plane. -/
def isUtf8 : List UInt8 → Bool
  | [] => true
  | first :: rest =>
    if first ≤ 0x7f then isUtf8 rest
    else if first ≥ 0xc2 && first ≤ 0xdf then
      match rest with
      | second :: rest => !(second < 0x80 || second > 0xbf) && isUtf8 rest
      | _ => false
    else if first ≥ 0xe0 && first ≤ 0xef then
      let minimum : UInt8 := if first = 0xe0 then 0xa0 else 0x80
      let maximum : UInt8 := if first = 0xed then 0x9f else 0xbf
      match rest with
      | second :: third :: rest =>
        !(second < minimum || second > maximum) && isContinuation third && isUtf8 rest
      | _ => false
    else if first ≥ 0xf0 && first ≤ 0xf4 then
      let minimum : UInt8 := if first = 0xf0 then 0x90 else 0x80
      let maximum : UInt8 := if first = 0xf4 then 0x8f else 0xbf
      match rest with
      | second :: third :: fourth :: rest =>
        !(second < minimum || second > maximum) && isContinuation third &&
          isContinuation fourth && isUtf8 rest
      | _ => false
    else false

def isNonemptyUtf8 (value : List UInt8) : Bool :=
  !value.isEmpty && isUtf8 value

/-- So many scopes and nothing after them, each above the one before. -/
def scopeEntries : Nat → List UInt8 → List UInt8 → Bool
  | 0, _, rest => rest.isEmpty
  | count + 1, previous, high :: low :: rest =>
    let length := readUint16 high low
    if length = 0 ∨ length > 256 ∨ rest.length < length then false
    else
      let scope := rest.take length
      scope.all (fun byte => !(byte < 0x20 || byte > 0x7e)) &&
        (previous.isEmpty || decide (byteRank previous < byteRank scope)) &&
        scopeEntries count scope (rest.drop length)
  | _ + 1, _, _ => false

/-- The field of a grant's scopes: their number, then each with its length. -/
def isCanonicalScopeField : List UInt8 → Bool
  | high :: low :: rest =>
    let count := readUint16 high low
    if count > 256 then false else scopeEntries count [] rest
  | _ => false

/-- The value of the field at an index that the rules have checked. -/
def fieldValue (index : Nat) : List UInt8 :=
  ((fields[index]?).map CanonicalField.value).getD []

/-- The expiry of a grant is optional; the nonce comes last either way. -/
def matchesGrantTail : List CanonicalField → Bool
  | [nonce] => nonce.number == 8 && nonce.value.length == 32
  | [expires, nonce] =>
    expires.number == 7 && expires.value.length == 8 && nonce.number == 8 &&
      nonce.value.length == 32
  | _ => false

def matchesFieldShape : Bool :=
  match domain with
  | .enrollment => matchesRules fields enrollmentRules && isNonemptyUtf8 (fieldValue fields 5)
  | .enrollmentRecord =>
    matchesRules fields enrollmentRecordRules && isNonemptyUtf8 (fieldValue fields 3)
  | .relayLogin => matchesRules fields relayLoginRules && isNonemptyUtf8 (fieldValue fields 5)
  | .endpointRecord =>
    matchesRules fields endpointRecordRules && isNonemptyUtf8 (fieldValue fields 2)
  | .serviceManifest => matchesRules fields serviceManifestRules
  | .offer => matchesRules fields offerRules
  | .answer => matchesRules fields answerRules
  | .candidate =>
    matchesRules fields candidateRules && !(fieldValue fields 10).isEmpty &&
      isPrintableAscii (fieldValue fields 12) 4 256
  | .lanPresence => matchesRules fields lanPresenceRules
  | .lanHello => matchesRules fields lanHelloRules
  | .sessionHello => matchesRules fields sessionHelloRules
  | .trustGrant =>
    matchesRules (fields.take 6) trustGrantRequiredRules &&
      isCanonicalScopeField (fieldValue fields 3) && matchesGrantTail (fields.drop 6)

/-! ### Canonical bytes -/

def maxCanonicalSigningBytes : Nat := 1024 * 1024

/-- The size of the whole object, when its fields are in order and fit. -/
def canonicalSize : Nat → UInt16 → List CanonicalField → Except Error Nat
  | total, _, [] => .ok total
  | total, previous, field :: fields =>
    if field.number = 0 ∨ field.number ≤ previous then
      .error (signingError "fields_not_strictly_ordered")
    else
      let remaining := maxCanonicalSigningBytes - min total maxCanonicalSigningBytes
      if field.value.length > 0xffffffff ∨ field.value.length > remaining then
        .error (signingError "canonical_object_too_large")
      else
        let total := total + (2 + 4 + field.value.length)
        if total > maxCanonicalSigningBytes then
          .error (signingError "canonical_object_too_large")
        else canonicalSize total field.number fields

def canonicalMagic : List UInt8 := asciiBytes "HYSG"

def canonicalFieldBytes (field : CanonicalField) : List UInt8 :=
  canonicalUint16 field.number ++
    (canonicalUint32 (UInt32.ofNat field.value.length) ++ field.value)

def canonicalObjectBytes (separator : List UInt8) (fields : List CanonicalField) : List UInt8 :=
  canonicalMagic ++ (1 :: UInt8.ofNat separator.length :: (separator ++
    (canonicalUint16 (UInt16.ofNat fields.length) ++ fields.flatMap canonicalFieldBytes)))

def canonicalizeForSignature : Except Error (List UInt8) :=
  let separator := signingDomainSeparator domain
  if !matchesFieldShape domain fields then .error (signingError "invalid_signed_field_shape")
  else if separator.length > 0xff ∨ fields.length > 0xffff then
    .error (signingError "canonical_header_too_large")
  else do
    let _ ← canonicalSize (4 + 1 + 1 + separator.length + 2) 0 fields
    .ok (canonicalObjectBytes separator fields)

/-! ### The transcript of an offer and its answer -/

/-- Canonical bytes of a domain, told by their header. -/
def hasCanonicalDomain (value expectedDomain : List UInt8) : Bool :=
  decide (value.length ≥ 6 + expectedDomain.length + 2) &&
    value.take 5 == canonicalMagic ++ [1] &&
    (value[5]?).any (fun size => size.toNat == expectedDomain.length) &&
    (value.drop 6).take expectedDomain.length == expectedDomain

def signalingTranscriptDomain : List UInt8 := asciiBytes "heyaki.signaling-transcript.v1"

/-- What is hashed: the domain, then both objects with their lengths. -/
def signalingTranscriptBytes (canonicalOffer canonicalAnswer : List UInt8) : List UInt8 :=
  signalingTranscriptDomain ++ (canonicalUint32 (UInt32.ofNat canonicalOffer.length) ++
    (canonicalOffer ++ (canonicalUint32 (UInt32.ofNat canonicalAnswer.length) ++ canonicalAnswer)))

def hashSignalingTranscript (sha256 : List UInt8 → SignalingTranscriptSha256)
    (canonicalOffer canonicalAnswer : List UInt8) : Except Error SignalingTranscriptSha256 :=
  if canonicalOffer.isEmpty || canonicalAnswer.isEmpty then
    .error (signingError "empty_signaling_transcript")
  else if canonicalOffer.length > maxCanonicalSigningBytes ∨
      canonicalAnswer.length > maxCanonicalSigningBytes then
    .error (signingError "signaling_transcript_too_large")
  else if !hasCanonicalDomain canonicalOffer (signingDomainSeparator .offer) ||
      !hasCanonicalDomain canonicalAnswer (signingDomainSeparator .answer) then
    .error (signingError "invalid_signaling_transcript_domain")
  else .ok (sha256 (signalingTranscriptBytes canonicalOffer canonicalAnswer))

/-! ### Signatures -/

/-- What the signature library answers. -/
structure IdentityCrypto where
  /-- `verify_identity_signature` of a key, a message and a signature. -/
  verifySignature : IdentityPublicKey → List UInt8 → IdentitySignature → Bool
  deriveDeviceId : IdentityPublicKey → Except Error DeviceId
  sha256 : List UInt8 → SignalingTranscriptSha256

end Heyaki
