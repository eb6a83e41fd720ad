/-
Purpose: the stream multiplexer of `byte_stream.cpp`, and two of them joined by
channels that deliver every accepted frame once and in order.

A service keeps a slot per stream id: the handle, which its caller may hold on
to after the stream has left the map, and the accepted frames of that stream
that are under way to the peer.  Frames of one stream arrive in the order they
were accepted; nothing is assumed about the order between streams.  What the
session, the clock, the gateway grammar and the installed handlers answer is
part of each event.
-/
import Heyaki.Client.ByteStream
import Heyaki.Core.Gateway

namespace Heyaki

open Function

/-- A stream id: 16 bytes, not all zero. -/
structure StreamId where
  bytes : List UInt8
  size : bytes.length = 16
  nonzero : bytes.any (· != 0) = true
  deriving Repr, DecidableEq

structure Slot where
  handle : Option Handle := none
  out : List StreamFrame := []
  deriving Repr, DecidableEq

structure ByteStreamService where
  limits : ByteStreamLimits
  channelId : Option UInt32 := none
  inboundHandler : Bool := true
  gatewayInboundHandler : Bool := false
  /-- Ids a handle was created for. -/
  ids : List StreamId := []
  slots : StreamId → Slot := fun _ => {}

/-- The replies of the session during a deadline sweep, by stream. -/
structure Sweep where
  now : Nat
  replies : StreamId → List (Option Error) := fun _ => []

/-- What the session, the gateway grammar and the channel manager answer while
an inbound OPEN is handled. -/
structure OpenReplies where
  gatewayNegotiated : Bool := true
  connectParses : Bool := true
  targetValid : Bool := true
  channelUsable : Bool := true
  replies : List (Option Error) := []

namespace ByteStreamService

variable (service : ByteStreamService)

def attached : Bool :=
  service.channelId.isSome

/-- Limits are checked before the service's own channel is opened. -/
def attach (opened : Except Error UInt32) : Except Error Unit × ByteStreamService :=
  match validateByteStreamLimits service.limits with
  | .error error => (.error error, service)
  | .ok () =>
    match opened with
    | .error error => (.error error, service)
    | .ok channel => (.ok (), { service with channelId := some channel })

def registered (slot : Slot) : Bool :=
  slot.handle.any (·.registered)

def activeStreams : Nat :=
  (service.ids.filter fun id => registered (service.slots id)).length

variable (id : StreamId)

def setSlot (slot : Slot) : ByteStreamService :=
  { service with slots := update service.slots id slot }

/-- A new handle's slot, with its id among those known. -/
def addSlot (slot : Slot) : ByteStreamService :=
  { service.setSlot id slot with ids := id :: service.ids }

def newHandle (channelId : UInt32) (windowBytes windowFrames : Nat) :
    Handle where
  channelId := channelId
  maxPendingReads := service.limits.maxPendingReads
  maxPendingWrites := service.limits.maxPendingWrites
  maxPendingWriteBytes := service.limits.pendingWriteBytes
  recv := {
    windowBytes := windowBytes
    windowFrames := windowFrames
    remainingBytes := windowBytes
    remainingFrames := windowFrames }

/-- Runs a call on a stream's handle, if there is one. -/
def onHandle (replies : List (Option Error)) (call : Turn → Turn) : ByteStreamService :=
  match (service.slots id).handle with
  | none => service
  | some handle =>
    let turn := call { handle := handle, out := (service.slots id).out, replies := replies }
    service.setSlot id { handle := some turn.handle, out := turn.out }

/-! ### Opening -/

/-- A locally opened stream: its OPEN is sent before it enters the map. -/
def openWith (handle : Handle) (gateway : Bool) (reply : Option Error) :
    Except Error Unit × ByteStreamService :=
  match reply with
  | some error => (.error error, service)
  | none =>
    (.ok (), service.addSlot id {
      handle := some handle
      out := (service.slots id).out ++
        [.streamOpen handle.recv.windowBytes handle.recv.windowFrames gateway] })

def openStream (windowBytes windowFrames : Nat) (reply : Option Error) :
    Except Error Unit × ByteStreamService :=
  match service.channelId with
  | none => (.error (streamError .configuration "service_not_attached"), service)
  | some channel =>
    if windowBytes = 0 ∨ windowFrames = 0 then
      (.error (streamError .configuration "receive_window_invalid"), service)
    else if service.activeStreams ≥ service.limits.maxConcurrentStreams then
      (.error (streamError .resourceExhausted "stream_limit"), service)
    else
      service.openWith id
        { service.newHandle channel windowBytes windowFrames with state := .open } false reply

/-- A gateway connection: `target` is the outcome of the target's validation,
`channel` that of opening its dedicated channel. -/
def openGatewayStream (windowBytes windowFrames dialDeadline : Nat) (onConnected : Bool)
    (target : Option Error) (negotiated : Bool) (channel : Except Error UInt32)
    (reply : Option Error) : Except Error Unit × ByteStreamService :=
  if !service.attached then
    (.error (streamError .configuration "service_not_attached"), service)
  else if windowBytes = 0 ∨ windowFrames = 0 then
    (.error (streamError .configuration "receive_window_invalid"), service)
  else
    match target with
    | some error => (.error error, service)
    | none =>
      if !negotiated then
        (.error (streamError .protocol "gateway_not_negotiated"), service)
      else if service.activeStreams ≥ service.limits.maxConcurrentStreams then
        (.error (streamError .resourceExhausted "stream_limit"), service)
      else
        match channel with
        | .error error => (.error error, service)
        | .ok channel =>
          service.openWith id
            { service.newHandle channel windowBytes windowFrames with
              state := .opening
              gateway := {
                gateway := true
                initiator := true
                preludePending := true
                dialDeadline := dialDeadline
                connectedHandler := onConnected } } true reply

/-- The opener's first send credit: this side's receive window. -/
def grantInitialCredit (turn : Turn) : Turn :=
  (turn.sendStreamFrame (.streamWindowUpdate 0 turn.handle.recv.windowBytes
    turn.handle.recv.windowFrames)).2

/-- A RESET for a stream that gets no handle. -/
def refuse (slot : Slot) (status : StableStatus) (replies : List (Option Error)) : Slot :=
  match replies with
  | some _ :: _ => slot
  | _ => { slot with out := slot.out ++ [.streamReset status.code] }

/-- An inbound stream: it gets the peer's window as credit, grants its own, and
goes to the handler if one is set; otherwise it is refused. -/
def acceptStream (channelId : UInt32) (windowBytes windowFrames : Nat) (gateway handled : Bool)
    (refusal : StableStatus) (replies : List (Option Error)) : ByteStreamService :=
  let handle := { service.newHandle channelId service.limits.defaultReceiveWindowBytes
      service.limits.defaultReceiveWindowFrames with
    state := .open
    gateway := { gateway := gateway }
    send := { creditBytes := windowBytes, creditFrames := windowFrames } }
  let turn := grantInitialCredit
    { handle := handle, out := (service.slots id).out, replies := replies }
  if handled then service.addSlot id { handle := some turn.handle, out := turn.out }
  else
    service.addSlot id (refuse
      { handle := some { turn.handle with state := .reset, registered := false }, out := turn.out }
      refusal turn.replies)

/-- An OPEN for an id that is not in the map. -/
def handleOpen (channelId : UInt32) (windowBytes windowFrames : Nat) (gateway : Bool)
    (env : OpenReplies) : ByteStreamService :=
  if windowBytes = 0 ∨ windowFrames = 0 ∨ windowFrames > 2 ^ 32 - 1 ∨
      windowBytes > 64 * mib then service
  else if gateway then
    -- an unnegotiated or malformed gateway field fails the channel, not the stream
    if !env.gatewayNegotiated || !env.connectParses then service
    else if !env.targetValid then
      service.setSlot id (refuse (service.slots id)
        (gatewayRefusalStatus .invalidTarget) env.replies)
    else if service.activeStreams ≥ service.limits.maxConcurrentStreams then
      service.setSlot id (refuse (service.slots id)
        (gatewayRefusalStatus .quotaExhausted) env.replies)
    else if !env.channelUsable then service
    else service.acceptStream id channelId windowBytes windowFrames true
      service.gatewayInboundHandler (gatewayRefusalStatus .notEnabled) env.replies
  else if service.activeStreams ≥ service.limits.maxConcurrentStreams then
    service.setSlot id (refuse (service.slots id) .resourceExhausted env.replies)
  else if !env.channelUsable then service
  else service.acceptStream id channelId windowBytes windowFrames false
    service.inboundHandler .permissionDenied env.replies

/-! ### Sweeps and frames -/

/-- The streams in the map, each by itself. -/
def mapRegistered (call : StreamId → Turn → Turn) (replies : StreamId → List (Option Error)) :
    ByteStreamService :=
  { service with slots := fun id =>
    match (service.slots id).handle with
    | none => service.slots id
    | some handle =>
      if handle.registered then
        let turn := call id
          { handle := handle, out := (service.slots id).out, replies := replies id }
        { handle := some turn.handle, out := turn.out }
      else service.slots id }

def sweepDeadlines (sweep : Sweep) : ByteStreamService :=
  service.mapRegistered (fun _ turn => checkDeadlines sweep.now turn) sweep.replies

def failAll (error : Error) : ByteStreamService :=
  service.mapRegistered (fun _ turn => { turn with handle := failStream error turn.handle })
    fun _ => []

/-- Every inbound frame sweeps the deadlines first. -/
def admitFrame (channelId : UInt32) (frame : StreamFrame) (sweep : Sweep) (env : OpenReplies) :
    ByteStreamService :=
  let service := service.sweepDeadlines sweep
  if registered (service.slots id) then
    service.onHandle id env.replies (handleStreamFrame service.limits frame)
  else
    match frame with
    | .streamOpen windowBytes windowFrames gateway =>
      service.handleOpen id channelId windowBytes windowFrames gateway env
    | _ => service

end ByteStreamService

/-! ### Two services -/

inductive Side where
  | left | right
  deriving Repr, DecidableEq

def Side.other : Side → Side
  | .left => .right
  | .right => .left

/-- The two services, each with the frames it has under way to the other. -/
abbrev System := Side → ByteStreamService

/-- What can happen on one side. -/
inductive Op where
  | openStream (id : StreamId) (windowBytes : UInt64) (windowFrames : UInt32)
      (reply : Option Error)
  | openGatewayStream (id : StreamId) (windowBytes : UInt64) (windowFrames : UInt32)
      (dialDeadline : Nat) (onConnected : Bool) (target : Option Error) (negotiated : Bool)
      (channel : Except Error UInt32) (reply : Option Error)
  | asyncReadSome (id : StreamId) (size : Nat) (deadline : Option Nat)
      (replies : List (Option Error))
  | asyncWrite (id : StreamId) (data : List UInt8) (deadline : Option Nat)
      (replies : List (Option Error)) (sweep : Sweep)
  | shutdownWrite (id : StreamId) (replies : List (Option Error))
  | reset (id : StreamId) (reason : StableStatus) (replies : List (Option Error))
  | checkDeadlines (sweep : Sweep)
  | failAll (error : Error)
  /-- The peer's next frame of a stream arrives. -/
  | deliver (id : StreamId) (channelId : UInt32) (sweep : Sweep) (env : OpenReplies)

/-- A local operation on a service; an arrival needs the other side too. -/
def ByteStreamService.apply (service : ByteStreamService) : Op → ByteStreamService
  | .openStream id windowBytes windowFrames reply =>
    (service.openStream id windowBytes.toNat windowFrames.toNat reply).2
  | .openGatewayStream id windowBytes windowFrames dialDeadline onConnected target negotiated
      channel reply =>
    (service.openGatewayStream id windowBytes.toNat windowFrames.toNat dialDeadline onConnected
      target negotiated channel reply).2
  | .asyncReadSome id size deadline replies =>
    service.onHandle id replies (Heyaki.asyncReadSome size deadline)
  | .asyncWrite id data deadline replies sweep =>
    (service.onHandle id replies (Heyaki.asyncWrite service.limits data deadline)).sweepDeadlines
      sweep
  | .shutdownWrite id replies => service.onHandle id replies fun turn => (Heyaki.shutdownWrite turn).2
  | .reset id reason replies => service.onHandle id replies (resetStream reason)
  | .checkDeadlines sweep => service.sweepDeadlines sweep
  | .failAll error => service.failAll error
  | .deliver _ _ _ _ => service

namespace System

/-- A random id has not been used before. -/
def fresh (system : System) (id : StreamId) : Bool :=
  (system .left).slots id = {} && (system .right).slots id = {}

def step (system : System) (side : Side) : Op → System
  | .deliver id channelId sweep env =>
    match ((system side.other).slots id).out with
    | [] => system
    | frame :: rest =>
      update
        (update system side.other
          ((system side.other).setSlot id { (system side.other).slots id with out := rest }))
        side ((system side).admitFrame id channelId frame sweep env)
  | .openStream id windowBytes windowFrames reply =>
    if system.fresh id then
      update system side
        ((system side).apply (.openStream id windowBytes windowFrames reply))
    else system
  | .openGatewayStream id windowBytes windowFrames dialDeadline onConnected target negotiated
      channel reply =>
    if system.fresh id then
      update system side ((system side).apply (.openGatewayStream id windowBytes
        windowFrames dialDeadline onConnected target negotiated channel reply))
    else system
  | op => update system side ((system side).apply op)

/-- Two attached services without streams. -/
structure Initial (system : System) : Prop where
  limitsValid : ∀ side, validateByteStreamLimits (system side).limits = .ok ()
  attached : ∀ side, (system side).attached = true
  noIds : ∀ side, (system side).ids = []
  noSlots : ∀ side id, (system side).slots id = {}

end System

end Heyaki
