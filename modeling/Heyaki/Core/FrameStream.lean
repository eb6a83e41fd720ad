/-
Purpose: the incremental frame decoder and encoder of `frame_stream.hpp` /
`frame_stream.cpp`.

`nextView` reads the type byte behind the length varint before it checks that
the byte has arrived.  When the buffered bytes end exactly there, the read goes
past the buffer; the byte found then is not determined by the program and is
the parameter `beyond`.
-/
import Heyaki.Core.Wire

namespace Heyaki

def frameStreamError (code : ErrorCode) (detail : String) : Error :=
  { code := code, component := "frame_stream", safeDetail := detail }

def maxFrameLengthVarintBytes : Nat := 5

/-- The decoder's copy of the varint reader, the same code as `decodeVarint`. -/
def decodeLengthVarint (input : List UInt8) (maximum : UInt32) : VarintResult :=
  decodeVarint input maximum

/-- The decoder's own list of types bound to the control channel. -/
def streamRequiresControl (type : UInt8) : Bool :=
  (type ≥ FrameType.sessionHello.code && type ≤ FrameType.pong.code) ||
    type == FrameType.pairingRequest.code ||
    type == FrameType.pairingResult.code

/-- The decoder's channel and payload checks, made for known types only. -/
def streamDomainError (frame : Frame) (limits : Limits) : Option String :=
  if unknownFrameAction frame = .process then
    if streamRequiresControl frame.type && frame.channelId != 0 then
      some "control_channel_required"
    else if frame.type ≥ FrameType.message.code && frame.channelId == 0 then
      some "business_channel_required"
    else payloadLimitError frame.type frame.payload.length limits
  else none

variable (limits : Limits)

/-- What `next_view` finds at the front of the pending bytes: a frame with the
bytes it takes up, nothing yet, or a violation. -/
def viewPending (beyond : UInt8) (pending : List UInt8) : FrameParseResult :=
  let invalid := fun detail => FrameParseResult.invalid (frameStreamError .protocol detail)
  match decodeLengthVarint pending (frameLengthMaximum limits) with
  | .needMore => .needMore
  | .invalid detail => invalid detail
  | .parsed length lengthBytes =>
    if length.toNat < minimumBodySize then invalid "frame_header_truncated"
    else if isControlType (pending.getD lengthBytes beyond) ∧
        length.toNat > limits.maxControlFrameBytes then
      invalid "control_frame_limit"
    else if pending.length < lengthBytes + length.toNat then
      if pending.length > maxFrameLengthVarintBytes + min limits.maxFrameBytes 0xffffffff then
        invalid "frame_length_limit"
      else .needMore
    else
      match readFrameBody ((pending.drop lengthBytes).take length.toNat) with
      | .error detail => invalid detail
      | .ok frame =>
        match streamDomainError frame limits with
        | some detail => invalid detail
        | none => .parsed (lengthBytes + length.toNat) frame

/-- How many bytes the reading of a varint looks at. -/
def varintReads : Nat → List UInt8 → Nat
  | 0, _ => 0
  | _ + 1, [] => 0
  | rounds + 1, byte :: rest =>
    if byte &&& 0x80 = 0 then 1 else varintReads rounds rest + 1

/-- The indices of a complete body that `next_view` reads; the payload is only referred to. -/
def bodyReads (body : List UInt8) : List Nat :=
  [0, 1] ++
    if body.getD 1 0 &&& ~~~frameKnownFlags ≠ 0 then []
    else
      List.range' 2 (varintReads maxFrameLengthVarintBytes (body.drop 2)) ++
        match decodeLengthVarint (body.drop 2) 0xffffffff with
        | .needMore => []
        | .invalid _ => []
        | .parsed _ channelBytes =>
          if 2 + channelBytes + 16 > body.length then [] else List.range' (2 + channelBytes) 16

/-- The indices of the pending bytes that `next_view` reads: the length, the type byte right
behind it, and the body once it has arrived. -/
def viewReads (beyond : UInt8) (pending : List UInt8) : List Nat :=
  List.range (varintReads maxFrameLengthVarintBytes pending) ++
    match decodeLengthVarint pending (frameLengthMaximum limits) with
    | .needMore => []
    | .invalid _ => []
    | .parsed length lengthBytes =>
      if length.toNat < minimumBodySize then []
      else
        lengthBytes ::
          if isControlType (pending.getD lengthBytes beyond) ∧
              length.toNat > limits.maxControlFrameBytes ∨
              pending.length < lengthBytes + length.toNat then []
          else (bodyReads ((pending.drop lengthBytes).take length.toNat)).map (lengthBytes + ·)

structure FrameStreamDecoder where
  limits : Limits
  buffer : List UInt8 := []
  offset : Nat := 0
  lastViewEnd : Option Nat := none
  poisoned : Bool := false
  deriving Repr, DecidableEq

namespace FrameStreamDecoder

variable (decoder : FrameStreamDecoder)

def append (bytes : List UInt8) : Except Error Unit × FrameStreamDecoder :=
  if decoder.poisoned then
    (.error (frameStreamError .protocol "decoder_poisoned"), decoder)
  else
    match validateLimits decoder.limits with
    | .error error => (.error error, { decoder with poisoned := true })
    | .ok () =>
      -- clearing a fully consumed buffer and erasing a consumed beginning are one operation
      (.ok (), { decoder with
        buffer := decoder.buffer.drop decoder.offset ++ bytes
        offset := 0
        lastViewEnd := none })

/-- The next complete frame, with the byte `beyond` behind the buffer. -/
def nextView (beyond : UInt8) : FrameParseResult × FrameStreamDecoder :=
  if decoder.poisoned then
    (.invalid (frameStreamError .protocol "decoder_poisoned"), decoder)
  else
    match validateLimits decoder.limits with
    | .error error => (.invalid error, { decoder with poisoned := true })
    | .ok () =>
      match viewPending decoder.limits beyond (decoder.buffer.drop decoder.offset) with
      | .needMore => (.needMore, decoder)
      | .invalid error => (.invalid error, { decoder with poisoned := true })
      | .parsed total frame =>
        (.parsed total frame, { decoder with lastViewEnd := some (decoder.offset + total) })

def consumeView : Except Error Unit × FrameStreamDecoder :=
  match decoder.lastViewEnd with
  | none => (.error (frameStreamError .configuration "no_frame_to_consume"), decoder)
  | some viewEnd =>
    if viewEnd = decoder.buffer.length then
      (.ok (), { decoder with buffer := [], offset := 0, lastViewEnd := none })
    else (.ok (), { decoder with offset := viewEnd, lastViewEnd := none })

def takeFrame (beyond : UInt8) : Except Error (Option Frame) × FrameStreamDecoder :=
  match decoder.nextView beyond with
  | (.needMore, decoder) => (.ok none, decoder)
  | (.invalid error, decoder) => (.error error, decoder)
  | (.parsed _ frame, decoder) =>
    match decoder.consumeView with
    | (.error error, decoder) => (.error error, decoder)
    | (.ok (), decoder) => (.ok (some frame), decoder)

/-- The indices one call of `next_view` reads of the bytes behind the offset. -/
def reads (beyond : UInt8) : List Nat :=
  if decoder.poisoned ∨ validateLimits decoder.limits ≠ .ok () then []
  else viewReads decoder.limits beyond (decoder.buffer.drop decoder.offset)

def bufferedBytes : Nat :=
  decoder.buffer.length - decoder.offset

/-- Taking frames until there is none, with as many rounds as there are buffered bytes. -/
def takeFrames (beyond : UInt8) : Nat → FrameStreamDecoder → List Frame × FrameStreamDecoder
  | 0, decoder => ([], decoder)
  | rounds + 1, decoder =>
    match decoder.takeFrame beyond with
    | (.ok (some frame), decoder) =>
      let later := takeFrames beyond rounds decoder
      (frame :: later.1, later.2)
    | (.ok none, decoder) => ([], decoder)
    | (.error _, decoder) => ([], decoder)

/-- Appending one chunk and draining the frames it completes. -/
def feedChunk (chunk : List UInt8 × UInt8) : List Frame × FrameStreamDecoder :=
  let decoder := (decoder.append chunk.1).2
  takeFrames chunk.2 (decoder.bufferedBytes + 1) decoder

/-- Feeding chunks, each with the byte behind the buffer while it is drained. -/
def feedChunks (decoder : FrameStreamDecoder) :
    List (List UInt8 × UInt8) → List Frame × FrameStreamDecoder
  | [] => ([], decoder)
  | chunk :: chunks =>
    let here := decoder.feedChunk chunk
    let later := feedChunks here.2 chunks
    (here.1 ++ later.1, later.2)

end FrameStreamDecoder

/-- All frames a new decoder yields for the chunks, and whether it ends poisoned. -/
def decodeChunks (chunks : List (List UInt8 × UInt8)) : List Frame × Bool :=
  let result := FrameStreamDecoder.feedChunks { limits := limits } chunks
  (result.1, result.2.poisoned)

/-- Applying the one-shot parser again and again, with the given number of rounds. -/
def iterateParseFrameRounds (limits : Limits) : Nat → List UInt8 → List Frame × Bool
  | 0, _ => ([], false)
  | rounds + 1, input =>
    match parseFrame input limits with
    | .parsed consumed frame =>
      let later := iterateParseFrameRounds limits rounds (input.drop consumed)
      (frame :: later.1, later.2)
    | .needMore => ([], false)
    | .invalid _ => ([], true)

/-- The frames at the front of the whole input, and whether the iteration ends
in an invalid verdict.  A frame takes at least one byte, so the rounds suffice. -/
def iterateParseFrame (input : List UInt8) : List Frame × Bool :=
  iterateParseFrameRounds limits (input.length + 1) input

/-! ### Encoding -/

namespace FrameStreamEncoder

/-- The length of the varint and the body; the type and the flags are not used. -/
def encodedSize (channelId : UInt32) (payloadSize : Nat) : Except Error Nat :=
  let bodySize := fixedBodySize + varintSize channelId + payloadSize
  if payloadSize > limits.maxFrameBytes ∨ bodySize > limits.maxFrameBytes ∨
      bodySize > 0xffffffff then
    .error (frameStreamError .protocol "frame_length_limit")
  else .ok (varintSize (UInt32.ofNat bodySize) + bodySize)

variable (output : List UInt8)

/-- The offset is taken before the header is written behind the length. -/
def encodeHeader (type flags : UInt8) (channelId : UInt32) (messageId : MessageId)
    (payloadSize : Nat) : Except Error Nat × List UInt8 :=
  let refuse (detail : String) : Except Error Nat × List UInt8 :=
    (.error (frameStreamError .protocol detail), output)
  match validateLimits limits with
  | .error error => (.error error, output)
  | .ok () =>
    if flags &&& ~~~frameKnownFlags ≠ 0 then refuse "reserved_frame_flags"
    else if messageId.isZero then refuse "zero_message_id"
    else if streamRequiresControl type && channelId != 0 then refuse "control_channel_required"
    else if requiresBusinessChannel type && channelId == 0 then
      refuse "business_channel_required"
    else
      match encodedSize limits channelId payloadSize with
      | .error error => (.error error, output)
      | .ok size =>
        if isControlType type ∧ size > limits.maxControlFrameBytes then
          refuse "control_frame_limit"
        else
          let bodySize := fixedBodySize + varintSize channelId + payloadSize
          let front := output ++ appendVarint (UInt32.ofNat bodySize)
          (.ok front.length, front ++ type :: flags :: (appendVarint channelId ++ messageId.bytes))

def encode (frame : Frame) : Except Error Nat × List UInt8 :=
  match encodeHeader limits output frame.type frame.flags frame.channelId frame.messageId
      frame.payload.length with
  | (.error error, output) => (.error error, output)
  | (.ok offset, output) => (.ok (offset + frame.payload.length), output ++ frame.payload)

end FrameStreamEncoder

end Heyaki
