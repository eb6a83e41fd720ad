/-
Purpose: which of the bodies that the services encode fit into a frame.

The encoders compare the payload of a body with its ceiling, the frame codec
compares the whole body with the same ceiling.  The size of a body is stated
from its fields, so that the difference between the two is explicit.

Main exports: `OutboundBody`, `encoded_body_framed_iff`, `encoded_body_not_framed`
-/
import Heyaki.Core.EventProtocol
import Heyaki.Core.RpcProtocol
import Heyaki.Proofs.ProtoCodec
import Heyaki.Proofs.Wire

namespace Heyaki

open Foundation ProtoCodec List

variable {payload : List UInt8}

/-! ### Bodies -/

def entrySize (name value : List UInt8) : Nat :=
  bytesSize (bytesSize name.length + bytesSize value.length)

theorem length_mapEntryBytes {field : UInt32} {name value : List UInt8}
    (small : ((field.toUInt64 <<< 3) ||| (2 : UInt8).toUInt64).toNat < 128) :
    (mapEntryBytes field name value).length = entrySize name value := by
  rw [mapEntryBytes, length_appendBytes small, length_append, length_appendBytes (by decide),
    length_appendBytes (by decide), entrySize]

theorem length_entries {ε : Type} (entries : List ε) {bytes : ε → List UInt8} {size : ε → Nat}
    (each : ∀ entry, (bytes entry).length = size entry) :
    (entries.map bytes).flatten.length = (entries.map size).sum := by
  rw [length_flatten, map_map]
  congr 1
  exact map_congr_left fun entry _ => each entry

/-- What the message, RPC and event services encode. -/
inductive OutboundBody where
  | message (envelope : MessageEnvelope)
  | rpcRequest (request : RpcRequestBody)
  | rpcResponse (response : RpcResponseBody)
  | eventItem (item : EventItemBody)

namespace OutboundBody

def encode (limits : Limits) : OutboundBody → Except Error (List UInt8)
  | message envelope => encodeMessageEnvelope envelope limits
  | rpcRequest request => encodeRpcRequest request limits
  | rpcResponse response => encodeRpcResponse response limits
  | eventItem item => encodeEventItem item limits

def frameType : OutboundBody → FrameType
  | message _ => .message
  | rpcRequest _ => .rpcRequest
  | rpcResponse _ => .rpcResponse
  | eventItem _ => .eventItem

/-- The ceiling that the frame codec has for such frames. -/
def ceiling (limits : Limits) : OutboundBody → Nat
  | message _ => limits.maxMessageBytes
  | rpcRequest _ | rpcResponse _ => limits.maxRpcPayloadBytes
  | eventItem _ => limits.maxEventPayloadBytes

def size : OutboundBody → Nat
  | message envelope =>
    bytesSize 16 + bytesSize envelope.type.length + numberSize envelope.schemaVersion.toNat +
      numberSize envelope.ttlMilliseconds.toNat + numberSize envelope.deliveryMode.code.toNat +
      (envelope.headers.map fun header => entrySize header.name header.value).sum +
      bytesSize envelope.payload.length +
      (match envelope.wallTimeUnixMilliseconds with
       | some time => numberSize time.toNat
       | none => 0)
  | rpcRequest request =>
    bytesSize 16 + bytesSize request.service.length + bytesSize request.method.length +
      numberSize request.schemaVersion.toNat +
      bytesSize (numberSize request.deadlineRemainingMilliseconds.toNat) +
      (match request.idempotencyKey with
       | some key => bytesSize key.length
       | none => 0) +
      (request.metadata.map fun entry => entrySize entry.name entry.value).sum +
      bytesSize request.payload.length
  | rpcResponse response =>
    bytesSize 16 + numberSize response.status.toNat + bytesSize response.safeDetail.length +
      bytesSize response.payload.length
  | eventItem item =>
    bytesSize 16 + bytesSize 16 + bytesSize 32 + numberSize item.publisherSequence.toNat +
      numberSize item.schemaVersion.toNat +
      (match item.wallTimeUnixMilliseconds with
       | some time => numberSize time.toUInt64.toNat
       | none => 0) +
      numberSize item.qos.code.toNat + bytesSize item.payload.length

end OutboundBody

theorem length_messageEnvelopeBytes (envelope : MessageEnvelope) :
    (messageEnvelopeBytes envelope).length = (OutboundBody.message envelope).size := by
  have header (header : MessageHeader) : (headerEntryBytes header).length = _ :=
    length_mapEntryBytes (by decide)
  unfold messageEnvelopeBytes OutboundBody.size
  simp (disch := decide) only [length_append, length_appendBytes, length_appendUint,
    length_entries _ header,
    envelope.messageId.size, UInt32.toNat_toUInt64]
  cases envelope.wallTimeUnixMilliseconds with
  | none => rfl
  | some time => simp (disch := decide) only [length_appendUint]

theorem length_rpcRequestBytes (request : RpcRequestBody) :
    (rpcRequestBytes request).length = (OutboundBody.rpcRequest request).size := by
  have entry (entry : RpcMetadataEntry) : (metadataEntryBytes entry).length = _ :=
    length_mapEntryBytes (by decide)
  have id : request.requestId.bytes.length = 16 := request.requestId.size
  unfold rpcRequestBytes OutboundBody.size
  simp (disch := decide) only [length_append, length_appendBytes, length_appendUint,
    length_entries _ entry,
    id, UInt32.toNat_toUInt64]
  cases request.idempotencyKey with
  | none => rfl
  | some key => simp (disch := decide) only [length_appendBytes]

theorem length_rpcResponseBytes (response : RpcResponseBody) :
    (rpcResponseBytes response).length = (OutboundBody.rpcResponse response).size := by
  have id : response.requestId.bytes.length = 16 := response.requestId.size
  unfold rpcResponseBytes OutboundBody.size
  simp (disch := decide) only [length_append, length_appendBytes, length_appendUint, id,
    UInt32.toNat_toUInt64]

theorem length_eventItemBytes (item : EventItemBody) :
    (eventItemBytes item).length = (OutboundBody.eventItem item).size := by
  have publisher : item.publisherDeviceId.bytes.length = 32 := item.publisherDeviceId.size
  unfold eventItemBytes OutboundBody.size
  simp (disch := decide) only [length_append, length_appendBytes, length_appendUint,
    item.subscriptionId.size, item.eventId.size, publisher, UInt32.toNat_toUInt64]
  cases item.wallTimeUnixMilliseconds with
  | none => rfl
  | some time => simp (disch := decide) only [length_appendUint]

theorem OutboundBody.length_encode {body : OutboundBody} {limits : Limits}
    (encoded : body.encode limits = .ok payload) : payload.length = body.size := by
  cases body with
  | message envelope => rw [encodeMessageEnvelope_ok encoded, length_messageEnvelopeBytes]
  | rpcRequest request => rw [encodeRpcRequest_ok encoded, length_rpcRequestBytes]
  | rpcResponse response => rw [encodeRpcResponse_ok encoded, length_rpcResponseBytes]
  | eventItem item => rw [encodeEventItem_ok encoded, length_eventItemBytes]

/-- The frame of a body meets the ceiling for its type exactly if the body does. -/
theorem OutboundBody.payloadLimitError_eq_none_iff (body : OutboundBody) (size : Nat)
    (limits : Limits) :
    payloadLimitError body.frameType.code size limits = none ↔ size ≤ body.ceiling limits := by
  cases body <;> simp [payloadLimitError, frameType, FrameType.code, ceiling, isShellControl]

/-- A body that its encoder accepts fits into a frame exactly if the whole body, and
not only its payload, is within the ceiling for its type, and the frame with it is
within the frame limit. -/
theorem encoded_body_framed_iff {limits : Limits} (valid : validateLimits limits = .ok ())
    {body : OutboundBody} {payload : List UInt8} (encoded : body.encode limits = .ok payload)
    {channelId : UInt32} (business : channelId ≠ 0) {messageId : MessageId}
    (identified : messageId.isZero = false) :
    (∃ bytes, encodeFrame ⟨body.frameType.code, 0, channelId, messageId, payload⟩ limits =
        .ok bytes) ↔
      body.size ≤ body.ceiling limits ∧
        fixedBodySize + varintSize channelId + body.size ≤ limits.maxFrameBytes := by
  have length := OutboundBody.length_encode encoded
  have bodySize : frameBodySize ⟨body.frameType.code, 0, channelId, messageId, payload⟩ =
      fixedBodySize + varintSize channelId + body.size := by
    rw [← length]
    rfl
  constructor
  · rintro ⟨bytes, framed⟩
    obtain ⟨accepted, -⟩ := encodeFrame_eq_ok_iff.mp framed
    constructor
    · rw [← length]
      exact (body.payloadLimitError_eq_none_iff _ limits).mp accepted.payloadFits
    · rw [← bodySize]
      exact accepted.bodyFits
  · rintro ⟨belowCeiling, fits⟩
    have noFlags : (0 : UInt8) &&& ~~~frameKnownFlags = 0 := by decide
    refine ⟨_, encodeFrame_eq_ok_iff.mpr ⟨⟨⟨noFlags, identified, ?_, ?_⟩, valid, ?_, ?_⟩, rfl⟩⟩
    · rw [bodySize]
      exact fits
    · have notControl : isControlType body.frameType.code = false := by
        cases body <;> rfl
      intro control
      rw [notControl] at control
      cases control
    · have notControl : requiresControlChannel body.frameType.code = false := by
        cases body <;> rfl
      simp [channelError, notControl, business]
    · apply (body.payloadLimitError_eq_none_iff _ limits).mpr
      rw [length]
      exact belowCeiling

/-! ### Samples -/

def sampleMessageId : MessageId := ⟨[1, 0, 0, 0, 0, 0, 0, 0, 0, 0, 0, 0, 0, 0, 0, 0], rfl⟩

def sampleEnvelope (payload : List UInt8) : MessageEnvelope :=
  { messageId := sampleMessageId, type := asciiBytes "m", payload := payload }

/-- A short message fits. -/
theorem encoded_body_framed_iff_short : ∃ bytes,
    encodeFrame ⟨FrameType.message.code, 0, 1, sampleMessageId,
      messageEnvelopeBytes (sampleEnvelope [7])⟩ {} = .ok bytes := by
  have encoded : (OutboundBody.message (sampleEnvelope [7])).encode {} =
      .ok (messageEnvelopeBytes (sampleEnvelope [7])) := by
    decide
  have size : (OutboundBody.message (sampleEnvelope [7])).size ≤ 256 := by
    rw [← length_messageEnvelopeBytes]
    decide
  have ceiling : (256 : Nat) ≤ mib := by decide
  have frame : fixedBodySize + varintSize 1 + 256 ≤ 2 * mib := by decide
  apply (encoded_body_framed_iff validateLimits_default encoded (by decide) rfl).mpr
  constructor
  · exact size.trans ceiling
  · exact (Nat.add_le_add_left size _).trans frame

theorem encode_sampleEnvelope (fits : payload.length ≤ mib) :
    encodeMessageEnvelope (sampleEnvelope payload) {} =
      .ok (messageEnvelopeBytes (sampleEnvelope payload)) := by
  have valid : validateMessageEnvelope (sampleEnvelope payload) {} = .ok () :=
    -- Every check in front of the one on the payload is about fixed values.
    if_neg (Nat.not_lt.mpr fits)
  rw [encodeMessageEnvelope, valid]
  rfl

theorem sampleEnvelope_not_framed (full : payload.length = mib) (bytes : List UInt8) :
    encodeFrame ⟨FrameType.message.code, 0, 1, sampleMessageId,
      messageEnvelopeBytes (sampleEnvelope payload)⟩ {} ≠ .ok bytes := by
  intro framed
  obtain ⟨accepted, -⟩ := encodeFrame_eq_ok_iff.mp framed
  have fits := (OutboundBody.payloadLimitError_eq_none_iff
    (.message (sampleEnvelope payload)) _ _).mp accepted.payloadFits
  have long : (messageEnvelopeBytes (sampleEnvelope payload)).length ≤ mib := fits
  rw [length_messageEnvelopeBytes] at long
  simp only [OutboundBody.size, sampleEnvelope, bytesSize, full] at long
  omega

/-- Under the default limits a message with the longest payload that its encoder
accepts does not fit into a frame. -/
theorem encoded_body_not_framed :
    encodeMessageEnvelope (sampleEnvelope (replicate mib 0)) {} =
        .ok (messageEnvelopeBytes (sampleEnvelope (replicate mib 0))) ∧
      ∀ bytes, encodeFrame ⟨FrameType.message.code, 0, 1, sampleMessageId,
        messageEnvelopeBytes (sampleEnvelope (replicate mib 0))⟩ {} ≠ .ok bytes :=
  ⟨encode_sampleEnvelope (Nat.le_of_eq length_replicate),
    sampleEnvelope_not_framed length_replicate⟩

end Heyaki
