/-
Purpose: the signed hello of a session with its codec and checks, and the reading
of one by `SessionHelloAdmission` (`session_protocol.cpp`).

Trusted boundary: `IdentityCrypto`
-/
import Heyaki.Core.SessionProtocol
import Heyaki.Core.SignalingProtocol

namespace Heyaki

open ProtoCodec

def maxSessionHelloBytes : Nat := 64 * 1024

structure SignedSessionHello where
  sender : DeviceEndpointKey
  peer : DeviceEndpointKey
  sessionId : SessionId
  sessionEpoch : UInt64 := 0
  initiatorNonce : SignalingNonce
  responderNonce : SignalingNonce
  signalingTranscriptSha256 : SignalingTranscriptSha256
  protocolVersion : ProtocolVersion := currentProtocolVersion
  supported : CapabilitySet := ⟨protocol12CapabilityBits⟩
  required : CapabilitySet := ⟨Capability.session.bit⟩
  expiresUnixMilliseconds : UInt64 := 0
  signature : IdentitySignature
  deriving DecidableEq

structure SessionHelloExpectation where
  sender : DeviceEndpointKey
  peer : DeviceEndpointKey
  sessionId : SessionId
  sessionEpoch : UInt64 := 0
  initiatorNonce : SignalingNonce
  responderNonce : SignalingNonce
  signalingTranscriptSha256 : SignalingTranscriptSha256
  deriving DecidableEq

def sessionHelloError (code : ErrorCode) (detail : String) : Error :=
  { code := code, component := "session_hello", safeDetail := detail }

variable (hello : SignedSessionHello)

def sessionHelloFields : List CanonicalField :=
  [⟨1, hello.sender.deviceId.bytes⟩, ⟨2, hello.sender.endpointId.bytes⟩,
    ⟨3, hello.peer.deviceId.bytes⟩, ⟨4, hello.peer.endpointId.bytes⟩, ⟨5, hello.sessionId.bytes⟩,
    ⟨6, canonicalUint64 hello.sessionEpoch⟩, ⟨7, hello.initiatorNonce.val⟩,
    ⟨8, hello.responderNonce.val⟩, ⟨9, hello.signalingTranscriptSha256.val⟩,
    ⟨10, canonicalUint32 hello.protocolVersion.major⟩,
    ⟨11, canonicalUint32 hello.protocolVersion.minor⟩, ⟨12, canonicalUint64 hello.supported.bits⟩,
    ⟨13, canonicalUint64 hello.required.bits⟩,
    ⟨14, canonicalUint64 hello.expiresUnixMilliseconds⟩]

def validateSignedSessionHello : Except Error Unit :=
  if hello.sender.deviceId.isZero || hello.sender.endpointId.isZero ||
      hello.peer.deviceId.isZero || hello.peer.endpointId.isZero || hello.sender = hello.peer then
    .error (sessionHelloError .protocol "endpoint_binding_invalid")
  else if hello.sessionId.isZero || hello.sessionEpoch = 0 then
    .error (sessionHelloError .protocol "session_binding_invalid")
  else if allZero hello.initiatorNonce.val || allZero hello.responderNonce.val ||
      allZero hello.signalingTranscriptSha256.val then
    .error (sessionHelloError .protocol "signaling_binding_invalid")
  else if hello.protocolVersion.major = 0 ∨ !hello.supported.contains hello.required ∨
      !hello.supported.has .session ∨ !hello.required.has .session then
    .error (sessionHelloError .protocol "protocol_advertisement_invalid")
  else if hello.expiresUnixMilliseconds = 0 then
    .error (sessionHelloError .protocol "expiry_invalid")
  else .ok ()

/-! ### Writing -/

def encodeProtocolVersion (version : ProtocolVersion) : List UInt8 :=
  appendUint 1 version.major.toUInt64 ++ appendUint 2 version.minor.toUInt64

def encodeCapabilities (supported required : CapabilitySet) : List UInt8 :=
  appendUint 1 supported.bits ++ appendUint 2 required.bits

def sessionHelloBytes : List UInt8 :=
  appendBytes 1 (encodeDeviceEndpoint hello.sender) ++
    appendBytes 2 (encodeDeviceEndpoint hello.peer) ++ appendBytes 3 hello.sessionId.bytes ++
    appendUint 4 hello.sessionEpoch ++ appendBytes 5 hello.initiatorNonce.val ++
    appendBytes 6 hello.responderNonce.val ++ appendBytes 7 hello.signalingTranscriptSha256.val ++
    appendBytes 8 (encodeProtocolVersion hello.protocolVersion) ++
    appendBytes 9 (encodeCapabilities hello.supported hello.required) ++
    appendUint 10 hello.expiresUnixMilliseconds ++
    appendBytes 11 (encodeSignature hello.signature)

def encodeSignedSessionHello : Except Error (List UInt8) := do
  validateSignedSessionHello hello
  if (sessionHelloBytes hello).length > maxSessionHelloBytes then
    .error (sessionHelloError .resourceExhausted "object_too_large")
  else .ok (sessionHelloBytes hello)

/-! ### Reading -/

namespace SessionHello

def parseDeviceEndpoint : List UInt8 → Except Error DeviceEndpointKey :=
  parseEndpointOf "session_hello" "endpoint_id_invalid" (sessionHelloError .protocol)

/-- Two numbers, each given once; `bad` are the fields that are refused at once. -/
def readPairField (bad : ProtoField → Bool) (invalid conflict : Error)
    (pair : Option UInt64 × Option UInt64) (field : ProtoField) :
    Except Error (Option UInt64 × Option UInt64) :=
  if bad field then .error invalid
  else if field.number = 1 ∧ pair.1.isNone then .ok (some field.integer, pair.2)
  else if field.number = 2 ∧ pair.2.isNone then .ok (pair.1, some field.integer)
  else .error conflict

def parsePair (bad : ProtoField → Bool) (name : String) (payload : List UInt8) :
    Except Error (UInt64 × UInt64) := do
  let error (part : String) := sessionHelloError .protocol (name ++ "_field_" ++ part)
  match ← readFields "session_hello" (readPairField bad (error "invalid") (error "conflict"))
    payload (none, none) with
  | (some first, some second) => .ok (first, second)
  | _ => .error (error "missing")

variable (payload : List UInt8)

def parseProtocolVersion : Except Error ProtocolVersion := do
  let (major, minor) ← parsePair
    (fun field => field.wireType ≠ 0 || field.integer > 0xffffffff) "version" payload
  .ok { major := major.toUInt32, minor := minor.toUInt32 }

def parseCapabilities : Except Error (CapabilitySet × CapabilitySet) := do
  let (supported, required) ← parsePair (fun field => field.wireType ≠ 0) "capabilities" payload
  .ok (⟨supported⟩, ⟨required⟩)

def readSignatureField (known : Option IdentitySignature) (field : ProtoField) :
    Except Error (Option IdentitySignature) :=
  if field.number ≠ 1 ∨ field.wireType ≠ 2 ∨ known.isSome then
    .error (sessionHelloError .protocol "signature_field_conflict")
  else
    match exactly? 64 field.bytes with
    | none => .error (protocolError "session_hello" "signature_field_invalid")
    | some signature => .ok (some signature)

def parseSignature : Except Error IdentitySignature := do
  match ← readFields "session_hello" readSignatureField payload none with
  | none => .error (sessionHelloError .protocol "signature_field_missing")
  | some signature => .ok signature

structure Fields where
  sender : Option DeviceEndpointKey := none
  peer : Option DeviceEndpointKey := none
  sessionId : Option SessionId := none
  epoch : Option UInt64 := none
  initiatorNonce : Option SignalingNonce := none
  responderNonce : Option SignalingNonce := none
  transcript : Option SignalingTranscriptSha256 := none
  version : Option ProtocolVersion := none
  capabilities : Option (CapabilitySet × CapabilitySet) := none
  expiry : Option UInt64 := none
  signature : Option IdentitySignature := none

def readField (fields : Fields) (field : ProtoField) : Except Error Fields :=
  let conflict (name : String) := sessionHelloError .protocol (name ++ "_field_conflict")
  -- the source passes component and detail in each other's place
  let invalid (name : String) := protocolError "session_hello" (name ++ "_field_invalid")
  match field.number.toNat with
  | 1 => do
    let value ← readNested (conflict "endpoint") parseDeviceEndpoint fields.sender field
    .ok { fields with sender := value }
  | 2 => do
    let value ← readNested (conflict "endpoint") parseDeviceEndpoint fields.peer field
    .ok { fields with peer := value }
  | 3 => do
    let value ← readExact (conflict "session_id") (invalid "session_id") Identifier.ofBytes?
      fields.sessionId field
    .ok { fields with sessionId := value }
  | 4 => do
    let value ← readNumberOnce (conflict "epoch") fields.epoch field
    .ok { fields with epoch := value }
  | 5 => do
    let value ← readExact (conflict "nonce") (invalid "nonce") (exactly? 32) fields.initiatorNonce
      field
    .ok { fields with initiatorNonce := value }
  | 6 => do
    let value ← readExact (conflict "nonce") (invalid "nonce") (exactly? 32) fields.responderNonce
      field
    .ok { fields with responderNonce := value }
  | 7 => do
    let value ← readExact (conflict "transcript") (invalid "transcript") (exactly? 32)
      fields.transcript field
    .ok { fields with transcript := value }
  | 8 => do
    let value ← readNested (conflict "version") parseProtocolVersion fields.version field
    .ok { fields with version := value }
  | 9 => do
    let value ← readNested (conflict "capabilities") parseCapabilities fields.capabilities field
    .ok { fields with capabilities := value }
  | 10 => do
    let value ← readNumberOnce (conflict "expiry") fields.expiry field
    .ok { fields with expiry := value }
  | 11 => do
    let value ← readNested (conflict "signature") parseSignature fields.signature field
    .ok { fields with signature := value }
  | _ => .error (sessionHelloError .protocol "field_unknown")

/-- The hello of the fields read, when none is missing. -/
def Fields.hello? (fields : Fields) : Option SignedSessionHello := do
  let sender ← fields.sender
  let peer ← fields.peer
  let sessionId ← fields.sessionId
  let epoch ← fields.epoch
  let initiatorNonce ← fields.initiatorNonce
  let responderNonce ← fields.responderNonce
  let transcript ← fields.transcript
  let version ← fields.version
  let (supported, required) ← fields.capabilities
  let expiry ← fields.expiry
  let signature ← fields.signature
  return {
    sender := sender, peer := peer, sessionId := sessionId, sessionEpoch := epoch,
    initiatorNonce := initiatorNonce, responderNonce := responderNonce,
    signalingTranscriptSha256 := transcript, protocolVersion := version, supported := supported,
    required := required, expiresUnixMilliseconds := expiry, signature := signature }

end SessionHello

def parseSignedSessionHello (payload : List UInt8) : Except Error SignedSessionHello :=
  if payload.length > maxSessionHelloBytes then
    .error (sessionHelloError .resourceExhausted "object_too_large")
  else do
    let fields ← readFields "session_hello" SessionHello.readField payload {}
    match fields.hello? with
    | none => .error (sessionHelloError .protocol "field_missing")
    | some hello =>
      validateSignedSessionHello hello
      .ok hello

/-! ### Admission -/

variable (crypto : IdentityCrypto)

def verifySignatureAndIdentity (hello : SignedSessionHello) (publicKey : IdentityPublicKey) :
    Except Error Unit := do
  let canonical ← canonicalizeForSignature .sessionHello (sessionHelloFields hello)
  if !crypto.verifySignature publicKey canonical hello.signature then
    throw (sessionHelloError .authentication "signature_invalid")
  if (crypto.deriveDeviceId publicKey).toOption ≠ some hello.sender.deviceId then
    throw (sessionHelloError .authentication "sender_identity_mismatch")

def matchesExpectationExceptEpoch (expected : SessionHelloExpectation) : Bool :=
  hello.sender = expected.sender && hello.peer = expected.peer &&
    hello.sessionId = expected.sessionId && hello.initiatorNonce = expected.initiatorNonce &&
    hello.responderNonce = expected.responderNonce &&
    hello.signalingTranscriptSha256 = expected.signalingTranscriptSha256

/-- The protocol that a hello describes. -/
def SignedSessionHello.protocol : ProtocolHello :=
  { version := hello.protocolVersion, supported := hello.supported, required := hello.required }

/-- What admission does before it decides: parse, verify the signature and match
the binding. -/
def readSessionHello (expectation : SessionHelloExpectation) (senderPublicKey : IdentityPublicKey)
    (payload : List UInt8) :
    Except Error SessionHelloFacts := do
  let hello ← parseSignedSessionHello payload
  verifySignatureAndIdentity crypto hello senderPublicKey
  if !matchesExpectationExceptEpoch hello expectation then
    throw (sessionProtocolError "binding_mismatch")
  return {
    sessionEpoch := hello.sessionEpoch
    protocol := hello.protocol
    expiresUnixMilliseconds := hello.expiresUnixMilliseconds }

/-- The admission that `SessionHelloAdmission` is constructed as. -/
def SessionHelloAdmission.expecting (expectation : SessionHelloExpectation)
    (senderPublicKey : IdentityPublicKey) (localProtocol : ProtocolHello) :
    SessionHelloAdmission where
  expectedEpoch := expectation.sessionEpoch
  localProtocol := localProtocol
  read := readSessionHello crypto expectation senderPublicKey

end Heyaki
