/-
Purpose: the signed offers, answers and candidates of signaling, with their codec,
validation and verification (`signaling_protocol.cpp`).

Offers and answers are descriptions of one shape; they differ in the responder's
nonce and in the names of their errors.  Where the source hands the component and
the detail of an error to `copy_exact` in each other's place, so does the model.

Trusted boundary: `IdentityCrypto`
-/
import Heyaki.Core.TrustGrant

namespace Heyaki

open ProtoCodec

structure DeviceEndpointKey where
  deviceId : DeviceId
  endpointId : EndpointId
  deriving DecidableEq

abbrev SignalingNonce := { bytes : List UInt8 // bytes.length = 32 }
abbrev DtlsFingerprint := { bytes : List UInt8 // bytes.length = 32 }

def minSignalingIceUfragBytes : Nat := 4
def maxSignalingIceUfragBytes : Nat := 256
def maxSignalingSdpBytes : Nat := 16 * 1024
def maxSignalingCandidateBytes : Nat := 1024
def maxSignalingObjectBytes : Nat := 64 * 1024

structure SignalBinding where
  initiator : DeviceEndpointKey
  responder : DeviceEndpointKey
  requestId : RequestId
  sessionId : SessionId
  initiatorNonce : SignalingNonce
  expiresUnixMilliseconds : UInt64 := 0
  responderNonce : Option SignalingNonce := none
  deriving DecidableEq

/-- An offer or an answer. -/
structure SignedDescription where
  binding : SignalBinding
  sdp : List UInt8
  dtlsFingerprint : DtlsFingerprint
  signature : IdentitySignature
  deriving DecidableEq

abbrev SignedOffer := SignedDescription
abbrev SignedAnswer := SignedDescription

structure SignedCandidate where
  binding : SignalBinding
  sequence : UInt32
  candidate : List UInt8
  signalingTranscriptSha256 : SignalingTranscriptSha256
  ownerIceUfrag : List UInt8
  ownerDtlsFingerprint : DtlsFingerprint
  signature : IdentitySignature
  deriving DecidableEq

def signalingError (code : ErrorCode) (detail : String) : Error :=
  { code := code, component := "signaling", safeDetail := detail }

def allZero (bytes : List UInt8) : Bool :=
  bytes.all (· == 0)

/-! ### Validation -/

variable (binding : SignalBinding)

def validateBindingCommon : Except Error Unit :=
  if binding.initiator.deviceId.isZero || binding.initiator.endpointId.isZero ||
      binding.responder.deviceId.isZero || binding.responder.endpointId.isZero then
    .error (signalingError .protocol "signaling_binding_identity_zero")
  else if binding.initiator = binding.responder then
    .error (signalingError .protocol "signaling_binding_self_referential")
  else if binding.requestId.isZero || binding.sessionId.isZero then
    .error (signalingError .protocol "signaling_binding_ids_zero")
  else if allZero binding.initiatorNonce.val then
    .error (signalingError .protocol "signaling_initiator_nonce_zero")
  else if binding.expiresUnixMilliseconds = 0 then
    .error (signalingError .protocol "signaling_expiry_zero")
  else .ok ()

/-- The responder's nonce of an answer or a candidate. -/
def validateResponderNonce : Except Error Unit :=
  if binding.responderNonce.all fun nonce => allZero nonce.val then
    .error (signalingError .protocol "signaling_responder_nonce_missing")
  else .ok ()

def validateDescription (description : SignedDescription) : Except Error Unit :=
  if description.sdp.isEmpty || description.sdp.length > maxSignalingSdpBytes then
    .error (signalingError .protocol "signaling_sdp_invalid")
  else if allZero description.dtlsFingerprint.val then
    .error (signalingError .protocol "signaling_fingerprint_zero")
  else .ok ()

variable (offer : SignedOffer)

def validateSignedOffer : Except Error Unit := do
  validateBindingCommon offer.binding
  if offer.binding.responderNonce.isSome then
    throw (signalingError .protocol "signaling_offer_responder_nonce_present")
  validateDescription offer

variable (answer : SignedAnswer)

def validateSignedAnswer : Except Error Unit := do
  validateBindingCommon answer.binding
  validateResponderNonce answer.binding
  validateDescription answer

def validUfrag (ufrag : List UInt8) : Bool :=
  isPrintableAscii ufrag minSignalingIceUfragBytes maxSignalingIceUfragBytes

variable (candidate : SignedCandidate)

def validateSignedCandidate : Except Error Unit := do
  validateBindingCommon candidate.binding
  validateResponderNonce candidate.binding
  if candidate.sequence = 0 then
    throw (signalingError .protocol "signaling_candidate_sequence_zero")
  if candidate.candidate.isEmpty || candidate.candidate.length > maxSignalingCandidateBytes then
    throw (signalingError .protocol "signaling_candidate_bytes_invalid")
  if allZero candidate.signalingTranscriptSha256.val then
    throw (signalingError .protocol "signaling_transcript_zero")
  if !validUfrag candidate.ownerIceUfrag then
    throw (signalingError .protocol "signaling_ufrag_invalid")
  if allZero candidate.ownerDtlsFingerprint.val then
    throw (signalingError .protocol "signaling_fingerprint_zero")

/-! ### Canonical fields -/

def bindingFields (requireResponderNonce : Bool) : List CanonicalField :=
  [⟨1, binding.initiator.deviceId.bytes⟩, ⟨2, binding.initiator.endpointId.bytes⟩,
    ⟨3, binding.responder.deviceId.bytes⟩, ⟨4, binding.responder.endpointId.bytes⟩,
    ⟨5, binding.requestId.bytes⟩, ⟨6, binding.sessionId.bytes⟩,
    ⟨7, binding.initiatorNonce.val⟩] ++
    (match requireResponderNonce, binding.responderNonce with
    | true, some nonce => [⟨8, nonce.val⟩]
    | _, _ => [])

def offerFields : List CanonicalField :=
  bindingFields offer.binding false ++
    [⟨8, canonicalUint64 offer.binding.expiresUnixMilliseconds⟩, ⟨9, offer.sdp⟩,
      ⟨10, offer.dtlsFingerprint.val⟩]

def answerFields : List CanonicalField :=
  bindingFields answer.binding true ++
    [⟨9, canonicalUint64 answer.binding.expiresUnixMilliseconds⟩, ⟨10, answer.sdp⟩,
      ⟨11, answer.dtlsFingerprint.val⟩]

def candidateFields : List CanonicalField :=
  bindingFields candidate.binding true ++
    [⟨9, canonicalUint64 candidate.binding.expiresUnixMilliseconds⟩,
      ⟨10, canonicalUint32 candidate.sequence⟩, ⟨11, candidate.candidate⟩,
      ⟨12, candidate.signalingTranscriptSha256.val⟩, ⟨13, candidate.ownerIceUfrag⟩,
      ⟨14, candidate.ownerDtlsFingerprint.val⟩]

def canonicalSignedOffer : Except Error (List UInt8) := do
  validateSignedOffer offer
  canonicalizeForSignature .offer (offerFields offer)

def canonicalSignedAnswer : Except Error (List UInt8) := do
  validateSignedAnswer answer
  canonicalizeForSignature .answer (answerFields answer)

def canonicalSignedCandidate : Except Error (List UInt8) := do
  validateSignedCandidate candidate
  canonicalizeForSignature .candidate (candidateFields candidate)

/-! ### Verification -/

variable (crypto : IdentityCrypto)

/-- The canonical bytes, the expiry, the signature and the signer, in this order. -/
def verifySignedObject (domain : SigningDomain) (fields : List CanonicalField)
    (signature : IdentitySignature) (signerPublicKey : IdentityPublicKey)
    (expectedSigner : DeviceId) (expires now : UInt64) :
    Except Error Unit := do
  let canonical ← canonicalizeForSignature domain fields
  validateSignedExpiry expires now
  if !crypto.verifySignature signerPublicKey canonical signature then
    throw (signalingError .authentication "signaling_signature_invalid")
  if (crypto.deriveDeviceId signerPublicKey).toOption ≠ some expectedSigner then
    throw (signalingError .authentication "signaling_signer_identity_mismatch")

def verifySignedOffer (offer : SignedOffer) (initiatorPublicKey : IdentityPublicKey)
    (now : UInt64) : Except Error Unit := do
  validateSignedOffer offer
  verifySignedObject crypto .offer (offerFields offer) offer.signature initiatorPublicKey
    offer.binding.initiator.deviceId offer.binding.expiresUnixMilliseconds now

def verifySignedAnswer (answer : SignedAnswer) (responderPublicKey : IdentityPublicKey)
    (now : UInt64) : Except Error Unit := do
  validateSignedAnswer answer
  verifySignedObject crypto .answer (answerFields answer) answer.signature responderPublicKey
    answer.binding.responder.deviceId answer.binding.expiresUnixMilliseconds now

inductive SignalingCandidateOwner where
  | initiator | responder
  deriving Repr, Inhabited, DecidableEq

/-- A candidate may be signed by either side of its binding. -/
def verifySignedCandidate (candidate : SignedCandidate) (ownerPublicKey : IdentityPublicKey)
    (now : UInt64) :
    Except Error SignalingCandidateOwner := do
  validateSignedCandidate candidate
  let canonical ← canonicalizeForSignature .candidate (candidateFields candidate)
  validateSignedExpiry candidate.binding.expiresUnixMilliseconds now
  if !crypto.verifySignature ownerPublicKey canonical candidate.signature then
    throw (signalingError .authentication "signaling_signature_invalid")
  let derived ← crypto.deriveDeviceId ownerPublicKey
  if derived = candidate.binding.initiator.deviceId then .ok .initiator
  else if derived = candidate.binding.responder.deviceId then .ok .responder
  else .error (signalingError .authentication "signaling_signer_identity_mismatch")

/-! ### Writing -/

def encodeDeviceEndpoint (endpoint : DeviceEndpointKey) : List UInt8 :=
  appendBytes 1 endpoint.deviceId.bytes ++ appendBytes 2 endpoint.endpointId.bytes

def encodeSignature (signature : IdentitySignature) : List UInt8 :=
  appendBytes 1 signature.val

def bindingBytes : List UInt8 :=
  appendBytes 1 (encodeDeviceEndpoint binding.initiator) ++
    appendBytes 2 (encodeDeviceEndpoint binding.responder) ++
    appendBytes 3 binding.requestId.bytes ++ appendBytes 4 binding.sessionId.bytes ++
    appendBytes 5 binding.initiatorNonce.val ++ appendUint 6 binding.expiresUnixMilliseconds ++
    (match binding.responderNonce with
    | none => []
    | some nonce => appendBytes 7 nonce.val)

def descriptionBytes (description : SignedDescription) : List UInt8 :=
  appendBytes 1 (bindingBytes description.binding) ++ appendBytes 2 description.sdp ++
    appendBytes 3 description.dtlsFingerprint.val ++
    appendBytes 4 (encodeSignature description.signature)

def candidateBytes : List UInt8 :=
  appendBytes 1 (bindingBytes candidate.binding) ++ appendUint 2 candidate.sequence.toUInt64 ++
    appendBytes 3 candidate.candidate ++ appendBytes 4 candidate.signalingTranscriptSha256.val ++
    appendBytes 5 candidate.ownerIceUfrag ++ appendBytes 6 candidate.ownerDtlsFingerprint.val ++
    appendBytes 7 (encodeSignature candidate.signature)

/-- The bytes of an object that is not too large. -/
def bounded (output : List UInt8) : Except Error (List UInt8) :=
  if output.length > maxSignalingObjectBytes then
    .error (signalingError .protocol "signaling_object_too_large")
  else .ok output

def encodeSignedOffer : Except Error (List UInt8) := do
  validateSignedOffer offer
  bounded (descriptionBytes offer)

def encodeSignedAnswer : Except Error (List UInt8) := do
  validateSignedAnswer answer
  bounded (descriptionBytes answer)

def encodeSignedCandidate : Except Error (List UInt8) := do
  validateSignedCandidate candidate
  bounded (candidateBytes candidate)

/-! ### Reading -/

structure EndpointFields where
  deviceId : Option DeviceId := none
  endpointId : Option EndpointId := none

/-- A second field of either number is a conflict, as is any other number. -/
def readEndpointField (error : String → Error) (deviceInvalid endpointInvalid : Error)
    (fields : EndpointFields) (field : ProtoField) : Except Error EndpointFields :=
  if field.wireType ≠ 2 then .error (error "endpoint_field_invalid")
  else if field.number = 1 ∧ fields.deviceId.isNone then
    match Identifier.ofBytes? field.bytes with
    | none => .error deviceInvalid
    | some value => .ok { fields with deviceId := some value }
  else if field.number = 2 ∧ fields.endpointId.isNone then
    match Identifier.ofBytes? field.bytes with
    | none => .error endpointInvalid
    | some value => .ok { fields with endpointId := some value }
  else .error (error "endpoint_field_conflict")

/-- Both parsers of endpoints: they differ in the component of their errors and in
what a bad endpoint id is called. -/
def parseEndpointOf (component endpointDetail : String) (error : String → Error)
    (payload : List UInt8) : Except Error DeviceEndpointKey := do
  let fields ← readFields component
    (readEndpointField error (protocolError component "endpoint_device_id_invalid")
      (protocolError component endpointDetail)) payload {}
  match fields.deviceId, fields.endpointId with
  | some deviceId, some endpointId => .ok ⟨deviceId, endpointId⟩
  | _, _ => .error (error "endpoint_field_missing")

def parseDeviceEndpoint : List UInt8 → Except Error DeviceEndpointKey :=
  parseEndpointOf "signaling" "endpoint_endpoint_id_invalid" (signalingError .protocol)

def readSignatureField (known : Option IdentitySignature) (field : ProtoField) :
    Except Error (Option IdentitySignature) :=
  if field.number ≠ 1 ∨ field.wireType ≠ 2 ∨ known.isSome then
    .error (signalingError .protocol "signature_field_invalid")
  else
    match exactly? 64 field.bytes with
    | none => .error (signalingError .protocol "signature_field_invalid")
    | some signature => .ok (some signature)

def parseSignatureMessage (payload : List UInt8) : Except Error IdentitySignature := do
  match ← readFields "signaling" readSignatureField payload none with
  | none => .error (signalingError .protocol "signature_field_missing")
  | some signature => .ok signature

structure BindingFields where
  initiator : Option DeviceEndpointKey := none
  responder : Option DeviceEndpointKey := none
  requestId : Option RequestId := none
  sessionId : Option SessionId := none
  initiatorNonce : Option SignalingNonce := none
  expires : Option UInt64 := none
  responderNonce : Option SignalingNonce := none

/-- A field of fixed size with one error for whatever is wrong with it. -/
def readBindingPart {α : Type} (detail : String) (ofBytes? : List UInt8 → Option α)
    (known : Option α) (field : ProtoField) : Except Error (Option α) :=
  readExact (signalingError .protocol detail) (signalingError .protocol detail) ofBytes? known field

def readBindingField (fields : BindingFields) (field : ProtoField) : Except Error BindingFields :=
  let endpointConflict := signalingError .protocol "binding_endpoint_field_conflict"
  match field.number.toNat with
  | 1 => do
    let value ← readNested endpointConflict parseDeviceEndpoint fields.initiator field
    .ok { fields with initiator := value }
  | 2 => do
    let value ← readNested endpointConflict parseDeviceEndpoint fields.responder field
    .ok { fields with responder := value }
  | 3 => do
    let value ← readBindingPart "binding_request_id_invalid" Identifier.ofBytes? fields.requestId
      field
    .ok { fields with requestId := value }
  | 4 => do
    let value ← readBindingPart "binding_session_id_invalid" Identifier.ofBytes? fields.sessionId
      field
    .ok { fields with sessionId := value }
  | 5 => do
    let value ← readBindingPart "binding_initiator_nonce_invalid" (exactly? 32)
      fields.initiatorNonce field
    .ok { fields with initiatorNonce := value }
  | 6 => do
    let value ← readNumberOnce (signalingError .protocol "binding_expiry_field_conflict")
      fields.expires field
    .ok { fields with expires := value }
  | 7 => do
    let value ← readBindingPart "binding_responder_nonce_invalid" (exactly? 32)
      fields.responderNonce field
    .ok { fields with responderNonce := value }
  | _ => .error (signalingError .protocol "binding_field_unknown")

/-- The binding of the fields read, when none of the required ones is missing. -/
def BindingFields.binding? (fields : BindingFields) : Option SignalBinding := do
  let initiator ← fields.initiator
  let responder ← fields.responder
  let requestId ← fields.requestId
  let sessionId ← fields.sessionId
  let initiatorNonce ← fields.initiatorNonce
  let expires ← fields.expires
  return {
    initiator := initiator, responder := responder, requestId := requestId, sessionId := sessionId,
    initiatorNonce := initiatorNonce, expiresUnixMilliseconds := expires,
    responderNonce := fields.responderNonce }

def parseBinding (allowResponder requireResponder : Bool) (payload : List UInt8) :
    Except Error SignalBinding := do
  let fields ← readFields "signaling" readBindingField payload {}
  match fields.binding? with
  | none => .error (signalingError .protocol "binding_field_missing")
  | some binding =>
    if binding.responderNonce.isSome && !allowResponder then
      .error (signalingError .protocol "binding_responder_nonce_unexpected")
    else if requireResponder && binding.responderNonce.isNone then
      .error (signalingError .protocol "binding_responder_nonce_missing")
    else .ok binding

structure DescriptionFields where
  binding : Option SignalBinding := none
  sdp : Option (List UInt8) := none
  fingerprint : Option DtlsFingerprint := none
  signature : Option IdentitySignature := none

/-- `name` is that of the object in its errors. -/
def readDescriptionField (name : String) (responder : Bool) (fields : DescriptionFields)
    (field : ProtoField) : Except Error DescriptionFields :=
  let conflict (part : String) := signalingError .protocol (name ++ part ++ "_field_conflict")
  match field.number.toNat with
  | 1 => do
    let value ← readNested (conflict "_binding") (parseBinding responder responder)
      fields.binding field
    .ok { fields with binding := value }
  | 2 => do
    let value ← readNested (conflict "_sdp") Except.ok fields.sdp field
    .ok { fields with sdp := value }
  | 3 => do
    let value ← readExact (conflict "_fingerprint")
      (protocolError "signaling" (name ++ "_fingerprint_field_invalid")) (exactly? 32)
      fields.fingerprint field
    .ok { fields with fingerprint := value }
  | 4 => do
    let value ← readNested (conflict "_signature") parseSignatureMessage fields.signature field
    .ok { fields with signature := value }
  | _ => .error (signalingError .protocol (name ++ "_field_unknown"))

def DescriptionFields.description? (fields : DescriptionFields) : Option SignedDescription := do
  let binding ← fields.binding
  let sdp ← fields.sdp
  let fingerprint ← fields.fingerprint
  let signature ← fields.signature
  return { binding := binding, sdp := sdp, dtlsFingerprint := fingerprint, signature := signature }

def parseDescription (name : String) (responder : Bool)
    (validate : SignedDescription → Except Error Unit) (payload : List UInt8) :
    Except Error SignedDescription :=
  if payload.length > maxSignalingObjectBytes then
    .error (signalingError .protocol "signaling_object_too_large")
  else do
    let fields ← readFields "signaling" (readDescriptionField name responder) payload {}
    match fields.description? with
    | none => .error (signalingError .protocol (name ++ "_field_missing"))
    | some description =>
      validate description
      .ok description

def parseSignedOffer : List UInt8 → Except Error SignedOffer :=
  parseDescription "offer" false validateSignedOffer

def parseSignedAnswer : List UInt8 → Except Error SignedAnswer :=
  parseDescription "answer" true validateSignedAnswer

structure CandidateFields where
  binding : Option SignalBinding := none
  sequence : Option UInt32 := none
  candidate : Option (List UInt8) := none
  transcript : Option SignalingTranscriptSha256 := none
  ufrag : Option (List UInt8) := none
  fingerprint : Option DtlsFingerprint := none
  signature : Option IdentitySignature := none

def readCandidateField (fields : CandidateFields) (field : ProtoField) :
    Except Error CandidateFields :=
  let conflict (part : String) :=
    signalingError .protocol ("candidate_" ++ part ++ "_field_conflict")
  match field.number.toNat with
  | 1 => do
    let value ← readNested (conflict "binding") (parseBinding true true) fields.binding field
    .ok { fields with binding := value }
  | 2 =>
    if field.wireType ≠ 0 ∨ fields.sequence.isSome ∨ field.integer > 0xffffffff then
      .error (signalingError .protocol "candidate_sequence_field_invalid")
    else .ok { fields with sequence := some field.integer.toUInt32 }
  | 3 => do
    let value ← readNested (conflict "bytes") Except.ok fields.candidate field
    .ok { fields with candidate := value }
  | 4 => do
    let value ← readExact (conflict "transcript")
      (protocolError "signaling" "candidate_transcript_field_invalid") (exactly? 32)
      fields.transcript field
    .ok { fields with transcript := value }
  | 5 => do
    let value ← readNested (conflict "ufrag") Except.ok fields.ufrag field
    .ok { fields with ufrag := value }
  | 6 => do
    let value ← readExact (conflict "fingerprint")
      (protocolError "signaling" "candidate_fingerprint_field_invalid") (exactly? 32)
      fields.fingerprint field
    .ok { fields with fingerprint := value }
  | 7 => do
    let value ← readNested (conflict "signature") parseSignatureMessage fields.signature field
    .ok { fields with signature := value }
  | _ => .error (signalingError .protocol "candidate_field_unknown")

def CandidateFields.candidate? (fields : CandidateFields) : Option SignedCandidate := do
  let binding ← fields.binding
  let sequence ← fields.sequence
  let candidate ← fields.candidate
  let transcript ← fields.transcript
  let ufrag ← fields.ufrag
  let fingerprint ← fields.fingerprint
  let signature ← fields.signature
  return {
    binding := binding, sequence := sequence, candidate := candidate,
    signalingTranscriptSha256 := transcript, ownerIceUfrag := ufrag,
    ownerDtlsFingerprint := fingerprint, signature := signature }

def parseSignedCandidate (payload : List UInt8) : Except Error SignedCandidate :=
  if payload.length > maxSignalingObjectBytes then
    .error (signalingError .protocol "signaling_object_too_large")
  else do
    let fields ← readFields "signaling" readCandidateField payload {}
    match fields.candidate? with
    | none => .error (signalingError .protocol "candidate_field_missing")
    | some candidate =>
      validateSignedCandidate candidate
      .ok candidate

/-! ### Session descriptions -/

def iceUfragMarker : List UInt8 := asciiBytes "a=ice-ufrag:"

/-- A line without the carriage return it may end in. -/
def stripReturn (line : List UInt8) : List UInt8 :=
  if line.getLast? = some 0x0d then line.dropLast else line

/-- The value on the first line that has the marker. -/
def parseSdpIceUfrag (sdp : List UInt8) : Except Error (List UInt8) :=
  match ((sdp.splitOn 0x0a).map stripReturn).find? fun line => iceUfragMarker.isPrefixOf line with
  | none => .error (signalingError .protocol "sdp_ice_ufrag_missing")
  | some line =>
    let value := line.drop iceUfragMarker.length
    if validUfrag value then .ok value
    else .error (signalingError .protocol "sdp_ice_ufrag_invalid")

end Heyaki
