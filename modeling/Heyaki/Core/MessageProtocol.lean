/-
Purpose: the message envelope and acknowledgement codec of
`message_protocol.cpp`.

Strings of the source are byte strings here.  Unknown fields are skipped and a
repeated field overwrites the earlier one, headers excepted.
-/
import Heyaki.Core.Ids
import Heyaki.Core.ProtoCodec

namespace Heyaki

open ProtoCodec

inductive MessageDeliveryMode where
  | bestEffort | peerAcked
  deriving Repr, Inhabited, DecidableEq

def MessageDeliveryMode.code : MessageDeliveryMode → UInt32
  | .bestEffort => 1
  | .peerAcked => 2

def maxMessageTypeBytes : Nat := 128
def maxMessageHeaders : Nat := 64
def maxMessageHeaderNameBytes : Nat := 64
def maxMessageHeaderValueBytes : Nat := 256
def minMessageTtlMilliseconds : UInt32 := 1
def maxMessageTtlMilliseconds : UInt32 := 600000
def defaultMessageTtlMilliseconds : UInt32 := 30000

structure MessageHeader where
  name : List UInt8 := []
  value : List UInt8 := []
  deriving Repr, Inhabited, DecidableEq

structure MessageEnvelope where
  messageId : MessageId
  type : List UInt8 := []
  schemaVersion : UInt32 := 1
  ttlMilliseconds : UInt32 := defaultMessageTtlMilliseconds
  deliveryMode : MessageDeliveryMode := .bestEffort
  headers : List MessageHeader := []
  payload : List UInt8 := []
  wallTimeUnixMilliseconds : Option UInt64 := none
  deriving Repr, DecidableEq

/-- Letters, digits, underscore, hyphen and dot. -/
def nameToken (value : List UInt8) : Bool :=
  value.all fun character =>
    (character ≥ 0x61 && character ≤ 0x7a) || (character ≥ 0x41 && character ≤ 0x5a) ||
      (character ≥ 0x30 && character ≤ 0x39) || character == 0x5f || character == 0x2d ||
      character == 0x2e

def envelopeError (detail : String) : Error :=
  { code := .protocol, component := "message", safeDetail := detail }

/-- The first header that is not well formed is reported. -/
def headersError : List MessageHeader → Option String
  | [] => none
  | header :: headers =>
    if header.name.isEmpty || header.name.length > maxMessageHeaderNameBytes ||
        !nameToken header.name then
      some "header_name_invalid"
    else if header.value.length > maxMessageHeaderValueBytes then
      some "header_value_oversized"
    else headersError headers

variable (envelope : MessageEnvelope)

/-- The delivery mode needs no check: only its two values exist here. -/
def validateMessageEnvelope (limits : Limits) : Except Error Unit :=
  if envelope.messageId.isZero then .error (envelopeError "message_id_missing")
  else if envelope.type.isEmpty || envelope.type.length > maxMessageTypeBytes ||
      !nameToken envelope.type then
    .error (envelopeError "message_type_invalid")
  else if envelope.schemaVersion = 0 then .error (envelopeError "schema_version_invalid")
  else if envelope.ttlMilliseconds < minMessageTtlMilliseconds ∨
      envelope.ttlMilliseconds > maxMessageTtlMilliseconds then
    .error (envelopeError "ttl_out_of_range")
  else if envelope.headers.length > maxMessageHeaders then
    .error (envelopeError "header_count_exceeded")
  else
    match headersError envelope.headers with
    | some detail => .error (envelopeError detail)
    | none =>
      if envelope.payload.length > limits.maxMessageBytes then
        .error (envelopeError "payload_oversized")
      else .ok ()

/-! ### Encoding -/

/-- A map entry: a nested message with the key in field 1 and the value in field 2. -/
def mapEntryBytes (field : UInt32) (name value : List UInt8) : List UInt8 :=
  appendBytes field (appendBytes 1 name ++ appendBytes 2 value)

def headerEntryBytes (header : MessageHeader) : List UInt8 :=
  mapEntryBytes 6 header.name header.value

/-- The bytes written for an envelope once it has been validated. -/
def messageEnvelopeBytes : List UInt8 :=
  appendBytes 1 envelope.messageId.bytes ++ appendBytes 2 envelope.type ++
    appendUint 3 envelope.schemaVersion.toUInt64 ++
    appendUint 4 envelope.ttlMilliseconds.toUInt64 ++
    appendUint 5 envelope.deliveryMode.code.toUInt64 ++
    (envelope.headers.map headerEntryBytes).flatten ++
    appendBytes 7 envelope.payload ++
    (match envelope.wallTimeUnixMilliseconds with
     | some time => appendUint 8 time
     | none => [])

def encodeMessageEnvelope (limits : Limits) :
    Except Error (List UInt8) := do
  validateMessageEnvelope envelope limits
  .ok (messageEnvelopeBytes envelope)

theorem encodeMessageEnvelope_ok {envelope : MessageEnvelope} {limits : Limits}
    {encoded : List UInt8} (accepted : encodeMessageEnvelope envelope limits = .ok encoded) :
    encoded = messageEnvelopeBytes envelope := by
  unfold encodeMessageEnvelope at accepted
  cases valid : validateMessageEnvelope envelope limits with
  | error error =>
    rw [valid] at accepted
    cases accepted
  | ok _ =>
    rw [valid] at accepted
    cases accepted
    rfl

/-! ### Parsing -/

def readHeaderField (entry : Option (List UInt8) × List UInt8) (field : ProtoField) :
    Except Error (Option (List UInt8) × List UInt8) :=
  if field.number = 1 ∧ field.wireType = 2 then .ok (some field.bytes, entry.2)
  else if field.number = 2 ∧ field.wireType = 2 then .ok (entry.1, field.bytes)
  else .ok entry

/-- The key and value of a nested map entry; the key must be present. -/
def readMapEntry (missing : Error) (bytes : List UInt8) :
    Except Error (List UInt8 × List UInt8) := do
  match ← readFields "proto" readHeaderField bytes (none, []) with
  | (none, _) => .error missing
  | (some name, value) => .ok (name, value)

/-- The fields read so far; the required ones are present once set. -/
structure EnvelopeFields where
  messageId : Option MessageId := none
  type : Option (List UInt8) := none
  schemaVersion : Option UInt32 := none
  ttlMilliseconds : Option UInt32 := none
  deliveryMode : Option MessageDeliveryMode := none
  headers : List MessageHeader := []
  payload : List UInt8 := []
  wallTimeUnixMilliseconds : Option UInt64 := none

def readEnvelopeField (fields : EnvelopeFields) (field : ProtoField) :
    Except Error EnvelopeFields :=
  if field.number = 1 ∧ field.wireType = 2 then
    match MessageId.ofBytes? field.bytes with
    | none => .error (envelopeError "message_id_field_invalid")
    | some id => .ok { fields with messageId := some id }
  else if field.number = 2 ∧ field.wireType = 2 then
    .ok { fields with type := some field.bytes }
  else if field.number = 3 ∧ field.wireType = 0 then
    .ok { fields with schemaVersion := some field.integer.toUInt32 }
  else if field.number = 4 ∧ field.wireType = 0 then
    .ok { fields with ttlMilliseconds := some field.integer.toUInt32 }
  else if field.number = 5 ∧ field.wireType = 0 then
    if field.integer.toUInt32 = 1 then .ok { fields with deliveryMode := some .bestEffort }
    else if field.integer.toUInt32 = 2 then .ok { fields with deliveryMode := some .peerAcked }
    else .error (envelopeError "delivery_mode_invalid")
  else if field.number = 6 ∧ field.wireType = 2 then
    if fields.headers.length ≥ maxMessageHeaders then
      .error (envelopeError "header_count_exceeded")
    else do
      let (name, value) ← readMapEntry (envelopeError "header_key_missing") field.bytes
      .ok { fields with headers := fields.headers ++ [{ name := name, value := value }] }
  else if field.number = 7 ∧ field.wireType = 2 then
    .ok { fields with payload := field.bytes }
  else if field.number = 8 ∧ field.wireType = 0 then
    .ok { fields with wallTimeUnixMilliseconds := some field.integer }
  else .ok fields

/-- The envelope of the fields read, when none of the required ones is missing. -/
def EnvelopeFields.envelope? (fields : EnvelopeFields) : Option MessageEnvelope := do
  let id ← fields.messageId
  let type ← fields.type
  let schemaVersion ← fields.schemaVersion
  let ttl ← fields.ttlMilliseconds
  let mode ← fields.deliveryMode
  return {
    messageId := id, type := type, schemaVersion := schemaVersion, ttlMilliseconds := ttl,
    deliveryMode := mode, headers := fields.headers, payload := fields.payload,
    wallTimeUnixMilliseconds := fields.wallTimeUnixMilliseconds }

def parseMessageEnvelope (payload : List UInt8) (limits : Limits) :
    Except Error MessageEnvelope :=
  if payload.length > limits.maxMessageBytes then .error (envelopeError "envelope_oversized")
  else do
    let fields ← readFields "proto" readEnvelopeField payload {}
    match fields.envelope? with
    | none => .error (envelopeError "envelope_field_missing")
    | some envelope =>
      validateMessageEnvelope envelope limits
      .ok envelope

/-! ### Acknowledgements -/

structure MessageAckBody where
  messageId : MessageId
  protocolAccepted : Bool := false
  deriving Repr, DecidableEq

def encodeMessageAck (ack : MessageAckBody) : Except Error (List UInt8) :=
  if ack.messageId.isZero then .error (envelopeError "message_id_missing")
  else .ok (appendBytes 1 ack.messageId.bytes ++ appendUint 2 (if ack.protocolAccepted then 1 else 0))

def readAckField (fields : Option MessageId × Bool) (field : ProtoField) :
    Except Error (Option MessageId × Bool) :=
  if field.number = 1 ∧ field.wireType = 2 then
    match MessageId.ofBytes? field.bytes with
    | none => .error (envelopeError "message_id_field_invalid")
    | some id => .ok (some id, fields.2)
  else if field.number = 2 ∧ field.wireType = 0 then .ok (fields.1, field.integer != 0)
  else .ok fields

def parseMessageAck (payload : List UInt8) : Except Error MessageAckBody := do
  match ← readFields "proto" readAckField payload (none, false) with
  | (none, _) => .error (envelopeError "message_id_field_missing")
  | (some id, accepted) =>
    if id.isZero then .error (envelopeError "message_id_missing")
    else .ok { messageId := id, protocolAccepted := accepted }

end Heyaki
