/-
Purpose: the signed request a device enrolls with (`relay_enrollment.cpp`).

The parts of a request are parsed in the name of a component, as the login has the same
ones.  Where a part has to have a size, the source passes component and detail in each
other's place.  Deriving the proof of a password and signing are the client's and left out.
-/
import Heyaki.Core.SessionHello

namespace Heyaki

open ProtoCodec

abbrev RelayId := Bytes32
abbrev EnrollmentChallengeNonce := Bytes32
abbrev EnrollmentPasswordProof := Bytes32

def maxEnrollmentRequestBytes : Nat := 64 * 1024

structure EnrollmentChallenge where
  relayId : RelayId
  nonce : EnrollmentChallengeNonce
  expiresUnixMilliseconds : UInt64
  deriving Repr, DecidableEq

structure EnrollmentRequest where
  deviceId : DeviceId
  endpointId : EndpointId
  identityPublicKey : IdentityPublicKey
  challengeNonce : EnrollmentChallengeNonce
  tenant : Text
  bootstrapToken : List UInt8 := []
  passwordProof : Option EnrollmentPasswordProof := none
  protocolVersion : ProtocolVersion := currentProtocolVersion
  supported : CapabilitySet := {}
  required : CapabilitySet := {}
  expiresUnixMilliseconds : UInt64
  signature : IdentitySignature
  deriving Repr, DecidableEq

def enrollmentError (code : ErrorCode) (detail : String) : Error :=
  { code := code, component := "relay_enrollment", safeDetail := detail }

/-! ### Parts of a request -/

namespace AdmissionParts

def messageError (component detail : String) : Error :=
  { code := .protocol, component := component, safeDetail := detail }

variable (component : String)

def readEndpointPart (fields : EndpointFields) (field : ProtoField) : Except Error EndpointFields :=
  if field.wireType ≠ 2 then .error (messageError component "endpoint_field_invalid")
  else if field.number = 1 then
    if fields.deviceId.isSome then .error (messageError component "endpoint_field_conflict")
    else
      match Identifier.ofBytes? field.bytes with
      | none => .error (protocolError component "endpoint_device_id_invalid")
      | some value => .ok { fields with deviceId := some value }
  else if field.number = 2 then
    if fields.endpointId.isSome then .error (messageError component "endpoint_field_conflict")
    else
      match Identifier.ofBytes? field.bytes with
      | none => .error (protocolError component "endpoint_id_invalid")
      | some value => .ok { fields with endpointId := some value }
  else .error (messageError component "endpoint_unknown_field")

def parseEndpointMessage (payload : List UInt8) :
    Except Error DeviceEndpointKey := do
  let fields ← readFields component (readEndpointPart component) payload {}
  match fields.deviceId, fields.endpointId with
  | some deviceId, some endpointId => .ok ⟨deviceId, endpointId⟩
  | _, _ => .error (messageError component "endpoint_field_missing")

/-- Two numbers; `bad` are the fields that are refused at once. -/
def readNumberPart (component name : String) (bad : ProtoField → Bool)
    (pair : Option UInt64 × Option UInt64) (field : ProtoField) :
    Except Error (Option UInt64 × Option UInt64) :=
  if bad field then .error (messageError component (name ++ "_field_invalid"))
  else if field.number = 1 then
    if pair.1.isSome then .error (messageError component (name ++ "_field_conflict"))
    else .ok (some field.integer, pair.2)
  else if field.number = 2 then
    if pair.2.isSome then .error (messageError component (name ++ "_field_conflict"))
    else .ok (pair.1, some field.integer)
  else .error (messageError component (name ++ "_unknown_field"))

def parseNumbers (component name : String) (bad : ProtoField → Bool) (payload : List UInt8) :
    Except Error (UInt64 × UInt64) := do
  match ← readFields component (readNumberPart component name bad) payload (none, none) with
  | (some first, some second) => .ok (first, second)
  | _ => .error (messageError component (name ++ "_field_missing"))

def parseVersionMessage (payload : List UInt8) :
    Except Error ProtocolVersion := do
  let (major, minor) ← parseNumbers component "version"
    (fun field => field.wireType ≠ 0 || field.integer > 0xffffffff) payload
  .ok { major := major.toUInt32, minor := minor.toUInt32 }

def parseCapabilitiesMessage (payload : List UInt8) :
    Except Error (CapabilitySet × CapabilitySet) := do
  let (supported, required) ← parseNumbers component "capability" (fun field => field.wireType ≠ 0)
    payload
  if supported = 0 || !(CapabilitySet.mk supported).contains ⟨required⟩ then
    .error (messageError component "capability_required_not_supported")
  else .ok (⟨supported⟩, ⟨required⟩)

def readSignaturePart (known : Option IdentitySignature) (field : ProtoField) :
    Except Error (Option IdentitySignature) :=
  if field.number ≠ 1 ∨ field.wireType ≠ 2 ∨ known.isSome then
    .error (messageError component "signature_field_invalid")
  else
    match exactly? 64 field.bytes with
    | none => .error (protocolError component "signature_length_invalid")
    | some signature => .ok (some signature)

def parseSignatureMessage (payload : List UInt8) :
    Except Error IdentitySignature := do
  match ← readFields component (readSignaturePart component) payload none with
  | none => .error (messageError component "signature_field_missing")
  | some signature => .ok signature

/-- A field of bytes of a fixed size; the wrong wire type is an error of the request. -/
def readSized {α : Type} (component detail : String) (ofBytes? : List UInt8 → Option α)
    (field : ProtoField) : Except Error α :=
  if field.wireType ≠ 2 then .error (messageError component detail)
  else
    match ofBytes? field.bytes with
    | none => .error (protocolError component detail)
    | some value => .ok value

/-- A text of one byte up to `maximum`. -/
def readText (component detail : String) (maximum : Nat) (field : ProtoField) :
    Except Error (List UInt8) :=
  if field.wireType ≠ 2 || field.bytes.isEmpty || decide (field.bytes.length > maximum) then
    .error (messageError component detail)
  else .ok field.bytes

/-- A message inside a field. -/
def readMessage {α : Type} (component detail : String)
    (parse : String → List UInt8 → Except Error α) (field : ProtoField) : Except Error α :=
  if field.wireType ≠ 2 then .error (messageError component detail)
  else parse component field.bytes

def readNumber (component detail : String) (bad : UInt64 → Bool) (field : ProtoField) :
    Except Error UInt64 :=
  if field.wireType ≠ 0 || bad field.integer then .error (messageError component detail)
  else .ok field.integer

end AdmissionParts

open AdmissionParts

/-! ### Challenges -/

/-- The nonce is random. -/
def createEnrollmentChallenge (relayId : RelayId) (nonce : EnrollmentChallengeNonce) (now : UInt64)
    (validity : Int) : Except Error EnrollmentChallenge :=
  if relayId.isZero then .error (enrollmentError .configuration "relay_id_zero")
  else if validity ≤ 0 ∨ validity > maximumSignedValidityMilliseconds.toNat then
    .error (enrollmentError .configuration "challenge_validity_invalid")
  else if now > 0xffffffffffffffff - UInt64.ofInt validity then
    .error (enrollmentError .configuration "challenge_expiry_overflow")
  else .ok { relayId := relayId, nonce := nonce
             expiresUnixMilliseconds := now + UInt64.ofInt validity }

def challengeInvalid (challenge : EnrollmentChallenge) : Bool :=
  challenge.relayId.isZero || challenge.nonce.isZero || challenge.expiresUnixMilliseconds == 0

def encodeEnrollmentChallenge (challenge : EnrollmentChallenge) : Except Error (List UInt8) :=
  if challengeInvalid challenge then .error (enrollmentError .configuration "challenge_invalid")
  else .ok (appendBytes 1 challenge.relayId.bytes ++ (appendBytes 2 challenge.nonce.bytes ++
    appendUint 3 challenge.expiresUnixMilliseconds))

/-- A number out of range or given before. -/
def fieldConflict (seen : List Bool) (number : UInt32) : Bool :=
  number = 0 || decide (number.toNat > seen.length) || seen.getD (number.toNat - 1) false

/-! ### The enrollment request -/

structure EnrollmentFields where
  endpoint : Option DeviceEndpointKey := none
  identityPublicKey : Option IdentityPublicKey := none
  challengeNonce : Option EnrollmentChallengeNonce := none
  tenant : Option (List UInt8) := none
  bootstrapToken : Option (List UInt8) := none
  version : Option ProtocolVersion := none
  capabilities : Option (CapabilitySet × CapabilitySet) := none
  expiry : Option UInt64 := none
  signature : Option IdentitySignature := none
  passwordProof : Option EnrollmentPasswordProof := none

variable (fields : EnrollmentFields)

def EnrollmentFields.seen : List Bool :=
  [fields.endpoint.isSome, fields.identityPublicKey.isSome, fields.challengeNonce.isSome,
    fields.tenant.isSome, fields.bootstrapToken.isSome, fields.version.isSome,
    fields.capabilities.isSome, fields.expiry.isSome, fields.signature.isSome,
    fields.passwordProof.isSome]

def readEnrollmentField (field : ProtoField) : Except Error EnrollmentFields :=
  if fieldConflict fields.seen field.number then
    .error (enrollmentError .protocol "enrollment_field_conflict")
  else
    match field.number.toNat with
    | 1 => do
      let value ← readMessage "relay_enrollment" "enrollment_endpoint_invalid"
        parseEndpointMessage field
      .ok { fields with endpoint := some value }
    | 2 => do
      let value ← readSized "relay_enrollment" "enrollment_public_key_invalid" (exactly? 32) field
      .ok { fields with identityPublicKey := some value }
    | 3 => do
      let value ← readSized "relay_enrollment" "enrollment_challenge_nonce_invalid"
        Bytes32.ofBytes? field
      .ok { fields with challengeNonce := some value }
    | 4 => do
      let value ← readText "relay_enrollment" "enrollment_tenant_invalid" 256 field
      .ok { fields with tenant := some value }
    | 5 => do
      let value ← readText "relay_enrollment" "enrollment_token_invalid" 256 field
      .ok { fields with bootstrapToken := some value }
    | 6 => do
      let value ← readMessage "relay_enrollment" "enrollment_version_invalid"
        parseVersionMessage field
      .ok { fields with version := some value }
    | 7 => do
      let value ← readMessage "relay_enrollment" "enrollment_capabilities_invalid"
        parseCapabilitiesMessage field
      .ok { fields with capabilities := some value }
    | 8 => do
      let value ← readNumber "relay_enrollment" "enrollment_expiry_invalid" (fun _ => false) field
      .ok { fields with expiry := some value }
    | 9 => do
      let value ← readMessage "relay_enrollment" "enrollment_signature_invalid"
        AdmissionParts.parseSignatureMessage field
      .ok { fields with signature := some value }
    | 10 =>
      match if field.wireType = 2 then Bytes32.ofBytes? field.bytes else none with
      | none => .error (enrollmentError .protocol "enrollment_proof_invalid")
      | some value => .ok { fields with passwordProof := some value }
    | _ => .error (enrollmentError .protocol "enrollment_unknown_field")

/-- The request of the fields read, when no mandatory one is missing. -/
def EnrollmentFields.request? : Option EnrollmentRequest := do
  let endpoint ← fields.endpoint
  let identityPublicKey ← fields.identityPublicKey
  let challengeNonce ← fields.challengeNonce
  let tenant ← fields.tenant
  let version ← fields.version
  let (supported, required) ← fields.capabilities
  let expiry ← fields.expiry
  let signature ← fields.signature
  return {
    deviceId := endpoint.deviceId, endpointId := endpoint.endpointId
    identityPublicKey := identityPublicKey, challengeNonce := challengeNonce, tenant := ⟨tenant⟩
    bootstrapToken := fields.bootstrapToken.getD [], passwordProof := fields.passwordProof
    protocolVersion := version, supported := supported, required := required
    expiresUnixMilliseconds := expiry, signature := signature }

def parseEnrollmentRequest (payload : List UInt8) : Except Error EnrollmentRequest :=
  if payload.isEmpty || decide (payload.length > maxEnrollmentRequestBytes) then
    .error (enrollmentError .protocol "enrollment_request_size_invalid")
  else do
    let fields ← readFields "relay_enrollment" readEnrollmentField payload {}
    match fields.request? with
    | none => .error (enrollmentError .protocol "enrollment_field_missing")
    | some request =>
      if !request.bootstrapToken.isEmpty == request.passwordProof.isSome then
        .error (enrollmentError .protocol "enrollment_credential_invalid")
      else .ok request

/-! ### Validation -/

def relayBootstrapTokenMinBytes : Nat := 16
def relayBootstrapTokenMaxBytes : Nat := 256

def isPrintableNonSpace (value : List UInt8) : Bool :=
  decide (value.length ≥ relayBootstrapTokenMinBytes) &&
    decide (value.length ≤ relayBootstrapTokenMaxBytes) &&
    value.all fun byte => byte ≥ 0x21 && byte ≤ 0x7e

def enrollmentCredentialValid (request : EnrollmentRequest) : Bool :=
  let hasToken := !request.bootstrapToken.isEmpty
  if hasToken == request.passwordProof.isSome then false
  else if hasToken then isPrintableNonSpace request.bootstrapToken
  else request.passwordProof.any fun proof => !proof.isZero

variable (crypto : IdentityCrypto)

/-- The checks that bind a request to its device, its challenge and the time.  `name`
starts the details of the errors. -/
def validateBinding (error : ErrorCode → String → Error) (name : String)
    (publicKey : IdentityPublicKey) (deviceId : DeviceId) (nonce : Bytes32) (expires : UInt64)
    (challenge : EnrollmentChallenge) (now : UInt64) : Except Error Unit :=
  if (crypto.deriveDeviceId publicKey).toOption ≠ some deviceId then
    .error (error .authentication (name ++ "_device_id_mismatch"))
  else if nonce ≠ challenge.nonce then
    .error (error .authentication (name ++ "_challenge_nonce_mismatch"))
  else
    match validateSignedExpiry challenge.expiresUnixMilliseconds now with
    | .error failure => .error (error .authentication failure.safeDetail)
    | .ok () =>
      if expires > challenge.expiresUnixMilliseconds then
        .error (error .authentication (name ++ "_expiry_exceeds_challenge"))
      else
        match validateSignedExpiry expires now with
        | .error failure => .error (error .authentication failure.safeDetail)
        | .ok () => .ok ()

/-- What the relay asks of a device. -/
def relayHello : ProtocolHello :=
  { version := currentProtocolVersion, supported := ⟨knownCapabilityBits⟩
    required := ⟨Capability.enrollment.bit⟩ }

/-- The signature over the canonical form. -/
def verifySignedFields (error : ErrorCode → String → Error) (domain : SigningDomain)
    (fields : List CanonicalField) (publicKey : IdentityPublicKey) (signature : IdentitySignature) :
    Except Error Unit :=
  match canonicalizeForSignature domain fields with
  | .error failure => .error (error .protocol failure.safeDetail)
  | .ok canonical =>
    if crypto.verifySignature publicKey canonical signature then .ok ()
    else .error { code := .authentication, component := "identity"
                  safeDetail := "signature_verification_failed" }

/-- The protocol and the signature over the canonical form. -/
def validateSigned (error : ErrorCode → String → Error) (domain : SigningDomain)
    (hello : ProtocolHello) (fields : List CanonicalField) (publicKey : IdentityPublicKey)
    (signature : IdentitySignature) : Except Error Unit :=
  match negotiateProtocol relayHello hello with
  | .error failure => .error (error .protocol failure.safeDetail)
  | .ok _ => verifySignedFields crypto error domain fields publicKey signature

def enrollmentRequestFields (request : EnrollmentRequest) (relayId : RelayId) :
    List CanonicalField :=
  [⟨1, request.deviceId.bytes⟩, ⟨2, request.endpointId.bytes⟩, ⟨3, request.identityPublicKey.val⟩,
    ⟨4, relayId.bytes⟩, ⟨5, request.challengeNonce.bytes⟩, ⟨6, request.tenant.bytes⟩,
    ⟨7, canonicalUint32 request.protocolVersion.major⟩,
    ⟨8, canonicalUint32 request.protocolVersion.minor⟩,
    ⟨9, canonicalUint64 request.supported.bits⟩, ⟨10, canonicalUint64 request.required.bits⟩,
    ⟨11, canonicalUint64 request.expiresUnixMilliseconds⟩]

def validateEnrollmentRequest (request : EnrollmentRequest) (challenge : EnrollmentChallenge)
    (now : UInt64) : Except Error Unit :=
  if request.deviceId.isZero || request.endpointId.isZero ||
      allZero request.identityPublicKey.val || request.challengeNonce.isZero ||
      !isNonemptyUtf8 request.tenant.bytes || !enrollmentCredentialValid request ||
      request.supported.bits == 0 || request.expiresUnixMilliseconds == 0 ||
      allZero request.signature.val || challengeInvalid challenge then
    .error (enrollmentError .authentication "enrollment_request_invalid")
  else do
    validateBinding crypto enrollmentError "enrollment" request.identityPublicKey request.deviceId
      request.challengeNonce request.expiresUnixMilliseconds challenge now
    validateSigned crypto enrollmentError .enrollment
      { version := request.protocolVersion, supported := request.supported
        required := request.required }
      (enrollmentRequestFields request challenge.relayId) request.identityPublicKey
      request.signature

end Heyaki
