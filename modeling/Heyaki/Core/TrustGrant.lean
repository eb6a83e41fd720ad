/-
Purpose: trust scopes and signed trust grants (`trust_grant.cpp`), with the
expiry window of signed objects (`security.cpp`).

Scopes are byte strings.  `std::sort` with `std::unique` is `sortUnique`: the
distinct elements in increasing order, byte by byte.  The signature primitives
and the derivation of a device id from a public key are a parameter; a signature
is over the canonical form, which the other fields of a grant determine
(`GrantCrypto.ofIdentity`).

Trusted boundary: `GrantCrypto`
-/
import Heyaki.Core.ProtoCodec
import Heyaki.Core.Signing

namespace Heyaki

def trustGrantError (code : ErrorCode) (detail : String) : Error :=
  { code := code, component := "trust_grant", safeDetail := detail }

def maxTrustScopes : Nat := 256
def maxTrustScopeBytes : Nat := 256

/-! ### Scopes -/

def isValidTrustScope (scope : List UInt8) : Bool :=
  !(scope.isEmpty || scope.length > maxTrustScopeBytes) &&
    scope.all fun byte => byte ≥ 0x21 && byte ≤ 0x7e

/-- The first of every run of equal elements. -/
def unique {α : Type*} [DecidableEq α] : List α → List α
  | [] => []
  | [only] => [only]
  | one :: two :: rest =>
    if one = two then unique (two :: rest) else one :: unique (two :: rest)

/-- The distinct elements of a list in increasing order of their ranks. -/
def sortUnique {α ρ : Type*} [DecidableEq α] [LinearOrder ρ] (rank : α → ρ) (items : List α) :
    List α :=
  unique (items.insertionSort fun one two => rank one ≤ rank two)

theorem mem_unique {α : Type*} [DecidableEq α] {item : α} {items : List α} :
    item ∈ unique items ↔ item ∈ items := by
  induction items with
  | nil => exact Iff.rfl
  | cons one rest ih =>
    cases rest with
    | nil => exact Iff.rfl
    | cons two rest =>
      unfold unique
      split
      · rename_i same
        subst same
        rw [ih]
        exact ((or_iff_right_of_imp fun eq => eq ▸ .head _).symm).trans List.mem_cons.symm
      · rw [List.mem_cons, ih]
        exact List.mem_cons.symm

@[simp] theorem mem_sortUnique {α ρ : Type*} [DecidableEq α] [LinearOrder ρ] {rank : α → ρ}
    {item : α} {items : List α} : item ∈ sortUnique rank items ↔ item ∈ items :=
  mem_unique.trans (List.mem_insertionSort _)

variable (scopes : List (List UInt8))

def sortScopes : List (List UInt8) :=
  sortUnique byteRank scopes

def normalizeTrustScopes : Except Error (List (List UInt8)) :=
  if scopes.length > maxTrustScopes then .error (trustGrantError .protocol "scope_count_limit")
  else if scopes.all isValidTrustScope then .ok (sortScopes scopes)
  else .error (trustGrantError .protocol "scope_syntax_invalid")

/-- The bytes of the wildcard suffix ":*". -/
def wildcard : List UInt8 := [0x3a, 0x2a]

/-- A scope covers itself, and one that ends in the wildcard covers every longer
scope that goes on after the colon. -/
def trustScopeCovers (granted requested : List UInt8) : Bool :=
  if granted = requested then true
  else if granted.length > wildcard.length ∧
      granted.drop (granted.length - wildcard.length) = wildcard then
    let stem := granted.take (granted.length - wildcard.length)
    decide (requested.length > stem.length + 1 ∧ requested.take stem.length = stem ∧
      requested[stem.length]? = some 0x3a)
  else false

def intersectTrustScopes (requested granted : List (List UInt8)) : List (List UInt8) :=
  requested.filter fun scope => granted.any fun grantScope => trustScopeCovers grantScope scope

structure TrustAdjudication where
  authorized : Bool := false
  allowedScopes : List (List UInt8) := []
  deriving Repr, Inhabited, DecidableEq

def adjudicateTrustScopes (requestedScopes grantScopes : List (List UInt8))
    (localPolicyScopes : Option (List (List UInt8))) : TrustAdjudication :=
  let granted := intersectTrustScopes requestedScopes grantScopes
  let allowed := match localPolicyScopes with
    | none => granted
    | some policy => intersectTrustScopes granted policy
  { authorized := !allowed.isEmpty, allowedScopes := allowed }

/-! ### Signed grants -/

abbrev PairingNonce := { bytes : List UInt8 // bytes.length = 32 }

structure SignedTrustGrant where
  grantId : GrantId
  issuer : DeviceId
  subject : DeviceId
  grantedScopes : List (List UInt8) := []
  passwordGeneration : UInt64 := 1
  issuedUnixMilliseconds : UInt64 := 0
  expiresUnixMilliseconds : Option UInt64 := none
  nonce : PairingNonce
  signature : IdentitySignature
  deriving DecidableEq

/-- Sorted without two equal neighbours. -/
def isCanonicalScopeList : Bool :=
  (scopes.zip scopes.tail).all fun (one, two) =>
    decide (byteRank one ≤ byteRank two) && decide (one ≠ two)

variable (grant : SignedTrustGrant)

def validateSignedTrustGrant : Except Error Unit :=
  if grant.grantId.isZero || grant.issuer.isZero || grant.subject.isZero ||
      grant.issuer = grant.subject then
    .error (trustGrantError .protocol "grant_binding_invalid")
  else if grant.passwordGeneration = 0 ∨ grant.issuedUnixMilliseconds = 0 then
    .error (trustGrantError .protocol "grant_generation_invalid")
  else if grant.nonce.val.all (· == 0) then
    .error (trustGrantError .protocol "grant_nonce_invalid")
  else if grant.grantedScopes.isEmpty || grant.grantedScopes.length > maxTrustScopes then
    .error (trustGrantError .protocol "grant_scope_count_invalid")
  else if !grant.grantedScopes.all isValidTrustScope then
    .error (trustGrantError .protocol "scope_syntax_invalid")
  else if !isCanonicalScopeList grant.grantedScopes then
    .error (trustGrantError .protocol "scope_list_not_canonical")
  else if grant.expiresUnixMilliseconds.any (· ≤ grant.issuedUnixMilliseconds) then
    .error (trustGrantError .protocol "grant_expiry_invalid")
  else .ok ()

/-- The number of scopes, then each with its length. -/
def canonicalScopeList : List UInt8 :=
  canonicalUint16 (UInt16.ofNat scopes.length) ++
    scopes.flatMap fun scope => canonicalUint16 (UInt16.ofNat scope.length) ++ scope

def trustGrantFields : List CanonicalField :=
  [⟨1, grant.grantId.bytes⟩, ⟨2, grant.issuer.bytes⟩, ⟨3, grant.subject.bytes⟩,
    ⟨4, canonicalScopeList grant.grantedScopes⟩, ⟨5, canonicalUint64 grant.passwordGeneration⟩,
    ⟨6, canonicalUint64 grant.issuedUnixMilliseconds⟩] ++
    (match grant.expiresUnixMilliseconds with
    | none => [⟨8, grant.nonce.val⟩]
    | some expires => [⟨7, canonicalUint64 expires⟩, ⟨8, grant.nonce.val⟩])

def canonicalSignedTrustGrant : Except Error (List UInt8) := do
  validateSignedTrustGrant grant
  canonicalizeForSignature .trustGrant (trustGrantFields grant)

def maximumSignedValidityMilliseconds : UInt64 := 5 * 60 * 1000
def maximumExpiryClockSkewMilliseconds : UInt64 := 30 * 1000

def securityError (detail : String) : Error :=
  { code := .authentication, component := "security", safeDetail := detail }

def validateSignedExpiry (expires now : UInt64) : Except Error Unit :=
  let earliest := if now > maximumExpiryClockSkewMilliseconds then
      now - maximumExpiryClockSkewMilliseconds else 0
  let latest := if now > 0xffffffffffffffff - maximumSignedValidityMilliseconds then
      0xffffffffffffffff else now + maximumSignedValidityMilliseconds
  if expires < earliest then .error (securityError "signed_object_expired")
  else if expires > latest then .error (securityError "signed_expiry_too_far")
  else .ok ()

/-- What the signature library answers. -/
structure GrantCrypto where
  /-- `verify_identity_signature` over the canonical form of the grant. -/
  signatureValid : IdentityPublicKey → SignedTrustGrant → Bool
  deriveDeviceId : IdentityPublicKey → Option DeviceId
  /-- `sign_identity_message` of the local identity over the canonical form. -/
  sign : SignedTrustGrant → Except Error IdentitySignature

/-- The signature library over the canonical bytes.  `sign` is that of the local
identity. -/
def GrantCrypto.ofIdentity (crypto : IdentityCrypto)
    (sign : List UInt8 → Except Error IdentitySignature) : GrantCrypto where
  signatureValid key grant :=
    match canonicalSignedTrustGrant grant with
    | .error _ => false
    | .ok canonical => crypto.verifySignature key canonical grant.signature
  deriveDeviceId key := (crypto.deriveDeviceId key).toOption
  sign grant := do
    let canonical ← canonicalSignedTrustGrant grant
    sign canonical

def signSignedTrustGrant (crypto : GrantCrypto) (identity : DeviceId) (grant : SignedTrustGrant) :
    Except Error SignedTrustGrant :=
  if identity ≠ grant.issuer then .error (trustGrantError .identity "signer_identity_mismatch")
  else do
    validateSignedTrustGrant grant
    let signature ← crypto.sign grant
    .ok { grant with signature := signature }

def verifySignedTrustGrant (crypto : GrantCrypto) (grant : SignedTrustGrant)
    (issuerPublicKey : IdentityPublicKey) (now : UInt64) : Except Error Unit := do
  validateSignedTrustGrant grant
  match grant.expiresUnixMilliseconds with
  | none => pure ()
  | some expires => validateSignedExpiry expires now
  if !crypto.signatureValid issuerPublicKey grant then
    throw (trustGrantError .authentication "signature_invalid")
  if crypto.deriveDeviceId issuerPublicKey ≠ some grant.issuer then
    throw (trustGrantError .authentication "issuer_identity_mismatch")

/-! ### The codec of grants -/

open ProtoCodec

def maxTrustGrantWireBytes : Nat := 8 * 1024

/-- A field of fixed size that may be given once. -/
def readOnce {α : Type} (conflict : Error) (invalid : String)
    (ofBytes? : List UInt8 → Option α) (known : Option α) (field : ProtoField) :
    Except Error (Option α) :=
  if field.wireType ≠ 2 ∨ known.isSome then .error conflict
  else
    match ofBytes? field.bytes with
    | none => .error (protocolError invalid)
    | some value => .ok (some value)

/-- A number that may be given once. -/
def readNumberOnce (conflict : Error) (known : Option UInt64) (field : ProtoField) :
    Except Error (Option UInt64) :=
  if field.wireType ≠ 0 ∨ known.isSome then .error conflict
  else .ok (some field.integer)

/-- One more scope of a repeated field. -/
def readScope (error : String → Error) (syntaxDetail countDetail : String)
    (scopes : List (List UInt8)) (field : ProtoField) : Except Error (List (List UInt8)) :=
  if field.wireType ≠ 2 then .error (error "scope_field_invalid")
  else if !isValidTrustScope field.bytes then .error (error syntaxDetail)
  else if scopes.length ≥ maxTrustScopes then .error (error countDetail)
  else .ok (scopes ++ [field.bytes])

def signedTrustGrantBytes : List UInt8 :=
  appendBytes 1 grant.grantId.bytes ++ appendBytes 2 grant.issuer.bytes ++
    appendBytes 3 grant.subject.bytes ++
    (grant.grantedScopes.map fun scope => appendBytes 4 scope).flatten ++
    appendUint 5 grant.passwordGeneration ++ appendUint 6 grant.issuedUnixMilliseconds ++
    (match grant.expiresUnixMilliseconds with
    | none => []
    | some expires => appendUint 7 expires) ++
    appendBytes 8 grant.nonce.val ++ appendBytes 9 grant.signature.val

def encodeSignedTrustGrant : Except Error (List UInt8) := do
  validateSignedTrustGrant grant
  if (signedTrustGrantBytes grant).length > maxTrustGrantWireBytes then
    .error (trustGrantError .resourceExhausted "object_too_large")
  else .ok (signedTrustGrantBytes grant)

structure SignedTrustGrantFields where
  grantId : Option GrantId := none
  issuer : Option DeviceId := none
  subject : Option DeviceId := none
  scopes : List (List UInt8) := []
  passwordGeneration : Option UInt64 := none
  issued : Option UInt64 := none
  expires : Option UInt64 := none
  nonce : Option PairingNonce := none
  signature : Option IdentitySignature := none

def readSignedTrustGrantField (fields : SignedTrustGrantFields) (field : ProtoField) :
    Except Error SignedTrustGrantFields :=
  let conflict (name : String) := trustGrantError .protocol (name ++ "_field_conflict")
  match field.number.toNat with
  | 1 => do
    let value ← readOnce (conflict "grant_id") "grant_id_field_invalid" Identifier.ofBytes?
      fields.grantId field
    .ok { fields with grantId := value }
  | 2 => do
    let value ← readOnce (conflict "issuer") "issuer_field_invalid" Identifier.ofBytes?
      fields.issuer field
    .ok { fields with issuer := value }
  | 3 => do
    let value ← readOnce (conflict "subject") "subject_field_invalid" Identifier.ofBytes?
      fields.subject field
    .ok { fields with subject := value }
  | 4 => do
    let value ← readScope (trustGrantError .protocol) "scope_syntax_invalid" "scope_count_limit"
      fields.scopes field
    .ok { fields with scopes := value }
  | 5 => do
    let value ← readNumberOnce (conflict "generation") fields.passwordGeneration field
    .ok { fields with passwordGeneration := value }
  | 6 => do
    let value ← readNumberOnce (conflict "issued") fields.issued field
    .ok { fields with issued := value }
  | 7 => do
    let value ← readNumberOnce (conflict "expiry") fields.expires field
    .ok { fields with expires := value }
  | 8 => do
    let value ← readOnce (conflict "nonce") "nonce_field_invalid" (exactly? 32) fields.nonce field
    .ok { fields with nonce := value }
  | 9 => do
    let value ← readOnce (conflict "signature") "signature_field_invalid" (exactly? 64)
      fields.signature field
    .ok { fields with signature := value }
  | _ => .error (trustGrantError .protocol "field_unknown")

/-- The grant of the fields read, when none of the required ones is missing. -/
def SignedTrustGrantFields.grant? (fields : SignedTrustGrantFields) : Option SignedTrustGrant := do
  let grantId ← fields.grantId
  let issuer ← fields.issuer
  let subject ← fields.subject
  guard (!fields.scopes.isEmpty)
  let passwordGeneration ← fields.passwordGeneration
  let issued ← fields.issued
  let nonce ← fields.nonce
  let signature ← fields.signature
  return {
    grantId := grantId, issuer := issuer, subject := subject, grantedScopes := fields.scopes,
    passwordGeneration := passwordGeneration, issuedUnixMilliseconds := issued,
    expiresUnixMilliseconds := fields.expires, nonce := nonce, signature := signature }

def parseSignedTrustGrant (payload : List UInt8) : Except Error SignedTrustGrant :=
  if payload.length > maxTrustGrantWireBytes then
    .error (trustGrantError .resourceExhausted "object_too_large")
  else do
    let fields ← readFields "proto" readSignedTrustGrantField payload {}
    match fields.grant? with
    | none => .error (trustGrantError .protocol "field_missing")
    | some grant =>
      validateSignedTrustGrant grant
      .ok grant

end Heyaki
