/-
Purpose: the frame codec of `wire.hpp` / `wire.cpp`.

A frame on the wire is a varint body length, then type, flags, a varint
channel id, a 16-byte message id and the payload.  Functions return the first
failing check's detail, in the source's order of checks.
-/
import Heyaki.Core.Limits

namespace Heyaki

/-! ### Frame types -/

inductive FrameType where
  | sessionHello | protocolClose | ping | pong | cancel
  | sessionRestartOffer | sessionRestartAnswer | sessionRestartCandidate
  | pairingRequest | pairingResult | pairingApprovalRequest
  | message | messageAck
  | rpcRequest | rpcResponse | rpcCancel
  | eventSubscribe | eventItem | eventUnsubscribe
  | streamOpen | streamData | streamWindowUpdate | streamFin | streamReset
  | fileManifest | fileAccept | fileChunk | fileComplete | fileReject
  | shellOpen | shellInput | shellOutput | shellResize | shellSignal | shellExit
  | shellEof | shellError | shellClose
  deriving Repr, Inhabited, DecidableEq

namespace FrameType

/-- The byte of the type on the wire. -/
def code : FrameType → UInt8
  | sessionHello => 0x01 | protocolClose => 0x02 | ping => 0x03 | pong => 0x04
  | cancel => 0x05 | sessionRestartOffer => 0x06 | sessionRestartAnswer => 0x07
  | sessionRestartCandidate => 0x08
  | pairingRequest => 0x10 | pairingResult => 0x11 | pairingApprovalRequest => 0x12
  | message => 0x20 | messageAck => 0x21
  | rpcRequest => 0x30 | rpcResponse => 0x31 | rpcCancel => 0x32
  | eventSubscribe => 0x40 | eventItem => 0x41 | eventUnsubscribe => 0x42
  | streamOpen => 0x50 | streamData => 0x51 | streamWindowUpdate => 0x52
  | streamFin => 0x53 | streamReset => 0x54
  | fileManifest => 0x60 | fileAccept => 0x61 | fileChunk => 0x62
  | fileComplete => 0x63 | fileReject => 0x64
  | shellOpen => 0x70 | shellInput => 0x71 | shellOutput => 0x72 | shellResize => 0x73
  | shellSignal => 0x74 | shellExit => 0x75 | shellEof => 0x76 | shellError => 0x77
  | shellClose => 0x78

def all : List FrameType := [
  sessionHello, protocolClose, ping, pong, cancel, sessionRestartOffer,
  sessionRestartAnswer, sessionRestartCandidate, pairingRequest, pairingResult,
  pairingApprovalRequest, message, messageAck, rpcRequest, rpcResponse, rpcCancel,
  eventSubscribe, eventItem, eventUnsubscribe, streamOpen, streamData,
  streamWindowUpdate, streamFin, streamReset, fileManifest, fileAccept, fileChunk,
  fileComplete, fileReject, shellOpen, shellInput, shellOutput, shellResize,
  shellSignal, shellExit, shellEof, shellError, shellClose]

end FrameType

variable (type : UInt8)

def isKnownFrameType : Bool :=
  FrameType.all.any fun known => known.code == type

/-- A 16-byte identifier. -/
structure MessageId where
  bytes : List UInt8
  size : bytes.length = 16
  deriving Repr

theorem MessageId.bytes_inj {one two : MessageId} : one.bytes = two.bytes ↔ one = two := by
  cases one
  cases two
  simp

instance : DecidableEq MessageId := fun _ _ => decidable_of_iff _ MessageId.bytes_inj

theorem length_replicate_sixteen (byte : UInt8) : (List.replicate 16 byte).length = 16 :=
  List.length_replicate

def MessageId.filled (byte : UInt8) : MessageId :=
  ⟨List.replicate 16 byte, length_replicate_sixteen byte⟩

def MessageId.isZero (id : MessageId) : Bool :=
  id.bytes.all (· == 0)

/-- A frame; the parser's view of one differs only in not owning its payload. -/
structure Frame where
  type : UInt8
  flags : UInt8
  channelId : UInt32
  messageId : MessageId
  payload : List UInt8
  deriving Repr, DecidableEq

def frameFlagRequired : UInt8 := 0x01
def frameKnownFlags : UInt8 := frameFlagRequired

/-! ### 32-bit varints -/

inductive VarintResult where
  | parsed (value : UInt32) (bytes : Nat)
  | needMore
  | invalid (detail : String)
  deriving Repr, DecidableEq

/-- The reading loop from byte `index` on, with the groups read so far in `value`. -/
def decodeVarintFrom (maximum : UInt32) (index : Nat) (value : UInt32) :
    List UInt8 → VarintResult
  | [] => if index ≥ 5 then .invalid "varint_overflow" else .needMore
  | byte :: rest =>
    if index ≥ 5 then .invalid "varint_overflow"
    else if index = 4 ∧ byte &&& 0xf0 ≠ 0 then .invalid "varint_overflow"
    else
      let value := value ||| ((byte &&& 0x7f).toUInt32 <<< UInt32.ofNat (7 * index))
      if byte &&& 0x80 = 0 then
        if index > 0 ∧ byte &&& 0x7f = 0 then .invalid "non_canonical_varint"
        else if value > maximum then .invalid "varint_limit"
        else .parsed value (index + 1)
      else decodeVarintFrom maximum (index + 1) value rest

def decodeVarint (input : List UInt8) (maximum : UInt32) : VarintResult :=
  decodeVarintFrom maximum 0 0 input

/-- The writing loop; five rounds exhaust 32 bits. -/
def appendVarintRounds : Nat → UInt32 → List UInt8
  | 0, _ => []
  | rounds + 1, value =>
    let byte := (value &&& 0x7f).toUInt8
    let value := value >>> 7
    if value ≠ 0 then (byte ||| 0x80) :: appendVarintRounds rounds value else [byte]

def appendVarint (value : UInt32) : List UInt8 :=
  appendVarintRounds 5 value

def varintSizeRounds : Nat → UInt32 → Nat
  | 0, _ => 1
  | rounds + 1, value => if value ≥ 0x80 then varintSizeRounds rounds (value >>> 7) + 1 else 1

def varintSize (value : UInt32) : Nat :=
  varintSizeRounds 5 value

/-! ### Checks shared by the encoder and the parser -/

def wireError (detail : String) : Error :=
  { code := .protocol, component := "wire", safeDetail := detail }

def isControlType : Bool :=
  type < 0x20

def requiresControlChannel : Bool :=
  (type ≥ FrameType.sessionHello.code && type ≤ FrameType.pong.code) ||
    type == FrameType.pairingRequest.code ||
    type == FrameType.pairingResult.code ||
    type == FrameType.pairingApprovalRequest.code

def requiresBusinessChannel : Bool :=
  type ≥ FrameType.message.code && isKnownFrameType type

def channelError (channelId : UInt32) : Option String :=
  if requiresControlChannel type && channelId != 0 then some "control_channel_required"
  else if requiresBusinessChannel type && channelId == 0 then some "business_channel_required"
  else none

def fileChunkHeaderBytes : Nat := 60

def isShellControl : Bool :=
  type == FrameType.shellOpen.code || type == FrameType.shellResize.code ||
    type == FrameType.shellSignal.code || type == FrameType.shellExit.code ||
    type == FrameType.shellEof.code || type == FrameType.shellError.code ||
    type == FrameType.shellClose.code

/-- The domain ceiling a payload of this type and size exceeds, if any. -/
def payloadLimitError (payloadSize : Nat) (limits : Limits) : Option String :=
  if (type == FrameType.message.code || type == FrameType.messageAck.code) &&
      payloadSize > limits.maxMessageBytes then
    some "message_payload_limit"
  else if type ≥ FrameType.rpcRequest.code && type ≤ FrameType.rpcCancel.code &&
      payloadSize > limits.maxRpcPayloadBytes then
    some "rpc_payload_limit"
  else if type ≥ FrameType.eventSubscribe.code && type ≤ FrameType.eventUnsubscribe.code &&
      payloadSize > limits.maxEventPayloadBytes then
    some "event_payload_limit"
  else if ((type ≥ FrameType.pairingRequest.code && type ≤ FrameType.pairingResult.code) ||
        type == FrameType.pairingApprovalRequest.code) &&
      payloadSize > limits.maxPairingPayloadBytes then
    some "pairing_payload_limit"
  else if type == FrameType.fileChunk.code && payloadSize > fileChunkHeaderBytes &&
      payloadSize - fileChunkHeaderBytes > limits.maxFileChunkBytes then
    some "file_chunk_limit"
  else if (type == FrameType.shellInput.code || type == FrameType.shellOutput.code) &&
      payloadSize > shellDataHeaderBytes &&
      payloadSize - shellDataHeaderBytes > limits.maxShellDataBytes then
    some "shell_data_limit"
  else if isShellControl type && payloadSize > limits.maxShellControlBytes then
    some "shell_control_limit"
  else none

inductive UnknownFrameAction where
  | process | skip | closeChannel
  deriving Repr, DecidableEq

variable (frame : Frame)

def unknownFrameAction : UnknownFrameAction :=
  if isKnownFrameType frame.type then .process
  else if frame.flags &&& frameFlagRequired = 0 then .skip
  else .closeChannel

/-! ### Encoding -/

/-- Type, flags and message id, without the channel varint. -/
def fixedBodySize : Nat := 1 + 1 + 16

def frameBodySize : Nat :=
  fixedBodySize + varintSize frame.channelId + frame.payload.length

/-- The bytes after the length varint. -/
def frameBody : List UInt8 :=
  frame.type :: frame.flags ::
    (appendVarint frame.channelId ++ (frame.messageId.bytes ++ frame.payload))

/-- The bytes written for a frame once every check has passed. -/
def frameBytes : List UInt8 :=
  appendVarint (UInt32.ofNat (frameBodySize frame)) ++ frameBody frame

def encodeFrame (limits : Limits) : Except Error (List UInt8) :=
  match validateLimits limits with
  | .error error => .error error
  | .ok () =>
    if frame.flags &&& ~~~frameKnownFlags ≠ 0 then .error (wireError "reserved_frame_flags")
    else if frame.messageId.isZero then .error (wireError "zero_message_id")
    else
      match channelError frame.type frame.channelId with
      | some detail => .error (wireError detail)
      | none =>
        if frame.payload.length > limits.maxFrameBytes ∨
            fixedBodySize + varintSize frame.channelId >
              limits.maxFrameBytes - frame.payload.length then
          .error (wireError "frame_length_limit")
        else
          match payloadLimitError frame.type frame.payload.length limits with
          | some detail => .error (wireError detail)
          | none =>
            if frameBodySize frame > 0xffffffff then
              .error (wireError "frame_length_overflow")
            else if isControlType frame.type ∧
                frameBodySize frame > limits.maxControlFrameBytes then
              .error (wireError "control_frame_limit")
            else .ok (frameBytes frame)

/-! ### Parsing -/

inductive FrameParseResult where
  | parsed (consumed : Nat) (frame : Frame)
  | needMore
  | invalid (error : Error)
  deriving Repr, DecidableEq

def invalidFrame (detail : String) : FrameParseResult :=
  .invalid (wireError detail)

def minimumBodySize : Nat := 1 + 1 + 1 + 16

/-- The longest body length the parser accepts, as the `uint32_t` it passes on. -/
def frameLengthMaximum (limits : Limits) : UInt32 :=
  UInt32.ofNat (min limits.maxFrameBytes 0xffffffff)

/-- Type, flags, channel, message id and payload of a body of at least
`minimumBodySize` bytes; both parsers read them in this order. -/
def readFrameBody (body : List UInt8) : Except String Frame :=
  let flags := body.getD 1 0
  if flags &&& ~~~frameKnownFlags ≠ 0 then .error "reserved_frame_flags"
  else
    match decodeVarint (body.drop 2) 0xffffffff with
    | .invalid detail => .error detail
    | .needMore => .error "channel_varint_truncated"
    | .parsed channelId channelBytes =>
      let messageOffset := 2 + channelBytes
      if room : messageOffset + 16 > body.length then .error "frame_header_truncated"
      else
        let messageId : MessageId :=
          ⟨(body.drop messageOffset).take 16, by simp only [List.length_take, List.length_drop]; omega⟩
        if messageId.isZero then .error "zero_message_id"
        else .ok {
          type := body.getD 0 0
          flags := flags
          channelId := channelId
          messageId := messageId
          payload := body.drop (messageOffset + 16) }

def parseFrame (input : List UInt8) (limits : Limits) : FrameParseResult :=
  match validateLimits limits with
  | .error error => .invalid error
  | .ok () =>
    match decodeVarint input (frameLengthMaximum limits) with
    | .needMore => .needMore
    | .invalid detail => invalidFrame detail
    | .parsed length lengthBytes =>
      if length.toNat < minimumBodySize then invalidFrame "frame_header_truncated"
      else if (input[lengthBytes]?.any isControlType) ∧
          length.toNat > limits.maxControlFrameBytes then
        invalidFrame "control_frame_limit"
      else if input.length < lengthBytes + length.toNat then .needMore
      else
        match readFrameBody ((input.drop lengthBytes).take length.toNat) with
        | .error detail => invalidFrame detail
        | .ok frame =>
          match channelError frame.type frame.channelId with
          | some detail => invalidFrame detail
          | none =>
            match payloadLimitError frame.type frame.payload.length limits with
            | some detail => invalidFrame detail
            | none => .parsed (lengthBytes + length.toNat) frame

end Heyaki
