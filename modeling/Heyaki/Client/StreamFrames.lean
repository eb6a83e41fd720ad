/-
Purpose: the bytes of a stream's frames and the class in which the session is to send
each of them (`send_stream_frame` and its callers in `byte_stream.cpp`).

A data frame starts with the stream id itself; the others have it as their first field.
-/
import Heyaki.Client.ByteStreamService
import Heyaki.Client.PeerSession

namespace Heyaki

open ProtoCodec

/-- Eight bytes, the highest first. -/
def appendU64 (value : UInt64) : List UInt8 :=
  (List.range 8).map fun index => (value >>> UInt64.ofNat (56 - index * 8)).toUInt8

def appendU32 (value : UInt32) : List UInt8 :=
  (List.range 4).map fun index => (value >>> UInt32.ofNat (24 - index * 8)).toUInt8

namespace StreamFrame

def type : StreamFrame → FrameType
  | .streamOpen _ _ _ => .streamOpen
  | .streamData _ _ _ => .streamData
  | .streamWindowUpdate _ _ _ => .streamWindowUpdate
  | .streamFin _ => .streamFin
  | .streamReset _ => .streamReset

def frameClass : StreamFrame → FrameClass
  | .streamOpen _ _ _ => .standard
  | .streamData _ _ _ => .bulk
  | .streamWindowUpdate _ _ _ => .control
  | .streamFin _ => .control
  | .streamReset _ => .control

/-- The fields that follow the stream id.  The encoded target of a gateway stream is
`connect`. -/
def fields (connect : List UInt8) : StreamFrame → List UInt8
  | .streamOpen windowBytes windowFrames gateway =>
    appendUint 2 (UInt64.ofNat windowBytes) ++
      appendUint 3 (UInt64.ofNat windowFrames) ++
        if gateway then appendBytes 4 connect else []
  | .streamData offset length bytes =>
    appendU64 (UInt64.ofNat offset) ++ appendU32 (UInt32.ofNat length) ++ bytes
  | .streamWindowUpdate consumed additionalBytes additionalFrames =>
    appendUint 2 (UInt64.ofNat consumed) ++
      appendUint 3 (UInt64.ofNat additionalBytes) ++
        appendUint 4 (UInt64.ofNat additionalFrames)
  | .streamFin finalOffset => appendUint 2 (UInt64.ofNat finalOffset)
  | .streamReset reason => appendUint 2 (UInt64.ofNat reason)

/-- How the payloads of a stream's frames of a type start. -/
def head (id : StreamId) (type : FrameType) : List UInt8 :=
  if type = .streamData then id.bytes else appendBytes 1 id.bytes

def payload (id : StreamId) (connect : List UInt8) (frame : StreamFrame) : List UInt8 :=
  head id frame.type ++ frame.fields connect

/-- `send_stream_frame`: the session draws the message id. -/
def sendCall (channelId : UInt32) (id : StreamId) (connect : List UInt8) (frame : StreamFrame) :
    PeerSession.LocalCall :=
  .sendFrame channelId frame.frameClass
    ⟨frame.type.code, 0, channelId, .filled 0, frame.payload id connect⟩

end StreamFrame

end Heyaki
