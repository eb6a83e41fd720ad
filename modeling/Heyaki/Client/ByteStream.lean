/-
Purpose: one byte stream of `byte_stream.cpp`, from the caller's operations and
the frame handlers down to the two partial-progress loops.

A call on a stream is a `Turn`: the handle, the frames it has sent that are
still under way, and the session's replies to the sends of this call (`none` for
an accepted frame, any error otherwise; accepted once the list is used up).
Completion handlers are entries of the handle's log; what a caller does in
answer to one is a later call.  Offsets are `Nat`; the credit and window
counters follow the 32- and 64-bit arithmetic of the source, and `wrapped`
records any of it that leaves its range.
-/
import Heyaki.Core.Limits

namespace Heyaki

/-! ### Data -/

inductive StreamState where
  | opening | open | halfClosedLocal | halfClosedRemote | closed | reset
  deriving Repr, Inhabited, DecidableEq

/-- The decoded body of a stream frame.  A data frame declares its length next
to the bytes it carries. -/
inductive StreamFrame where
  | streamOpen (windowBytes windowFrames : Nat) (gateway : Bool)
  | streamData (offset length : Nat) (bytes : List UInt8)
  | streamWindowUpdate (consumed additionalBytes additionalFrames : Nat)
  | streamFin (finalOffset : Nat)
  | streamReset (reason : Nat)
  deriving Repr, DecidableEq

structure PendingWrite where
  data : List UInt8
  offset : Nat := 0
  deadline : Option Nat := none
  finAfter : Bool := false
  deriving Repr, DecidableEq

/-- A read waiting for at most `size` bytes. -/
structure PendingRead where
  size : Nat
  deadline : Option Nat := none
  deriving Repr, DecidableEq

/-- One call of a caller's handler: the bytes a read got, the bytes of a write
that were admitted, or the outcome of a gateway connection. -/
inductive Completion where
  | read (bytes : List UInt8) (error : Option Error)
  | write (data : List UInt8) (bytes : Nat) (error : Option Error)
  | connected (error : Option Error)
  deriving Repr, DecidableEq

/-- Strict next-offset acceptance and dual-window accounting. -/
structure ReceiveSide where
  nextReceiveOffset : Nat := 0
  windowBytes : Nat
  windowFrames : Nat
  remainingBytes : Nat
  remainingFrames : Nat
  chunks : List (List UInt8) := []
  bufferedBytes : Nat := 0
  consumedThrough : Nat := 0
  reportedBytes : Nat := 0
  reportedFrames : Nat := 0
  finReceived : Bool := false
  finalOffset : Nat := 0
  reads : List PendingRead := []
  /-- History: data frames taken into the window. -/
  acceptedFrames : Nat := 0
  deriving Repr, DecidableEq

/-- Credit granted by the peer and the writes that wait for it. -/
structure SendSide where
  nextSendOffset : Nat := 0
  consumedByPeer : Nat := 0
  creditBytes : Nat := 0
  creditFrames : Nat := 0
  finSent : Bool := false
  writes : List PendingWrite := []
  deriving Repr, DecidableEq

/-- The gateway part of a stream; all of it unused for an ordinary one. -/
structure GatewaySide where
  gateway : Bool := false
  initiator : Bool := false
  preludePending : Bool := false
  prelude : List UInt8 := []
  dialDeadline : Nat := 0
  connectedHandler : Bool := false
  connectedFired : Bool := false
  deriving Repr, DecidableEq

structure Handle where
  channelId : UInt32
  state : StreamState := .opening
  maxPendingReads : Nat
  maxPendingWrites : Nat
  maxPendingWriteBytes : Nat
  recv : ReceiveSide
  send : SendSide := {}
  gateway : GatewaySide := {}
  resetReason : Option Nat := none
  /-- The stream is in the service's map. -/
  registered : Bool := true
  log : List Completion := []
  /-- History: a dual-window violation or a credit overflow was met. -/
  violated : Bool := false
  /-- History: counter arithmetic left its range. -/
  wrapped : Bool := false
  deriving Repr, DecidableEq

structure ByteStreamLimits where
  maxDataChunkBytes : Nat := 16 * kib
  defaultReceiveWindowBytes : Nat := 256 * kib
  defaultReceiveWindowFrames : Nat := 64
  maxConcurrentStreams : Nat := 16
  pendingWriteBytes : Nat := 512 * kib
  maxPendingReads : Nat := 16
  maxPendingWrites : Nat := 16
  deriving Repr, DecidableEq

def streamError (code : ErrorCode) (detail : String) : Error :=
  { code := code, component := "byte_stream", safeDetail := detail }

variable (limits : ByteStreamLimits)

def validateByteStreamLimits : Except Error Unit :=
  if outside limits.maxDataChunkBytes 1 (1024 * kib) then
    .error (streamError .configuration "data_chunk_limit_invalid")
  else if outside limits.defaultReceiveWindowBytes 1 (64 * mib) then
    .error (streamError .configuration "receive_window_limit_invalid")
  else if outside limits.defaultReceiveWindowFrames 1 65536 then
    .error (streamError .configuration "receive_window_frames_invalid")
  else if outside limits.maxConcurrentStreams 1 1024 then
    .error (streamError .configuration "concurrent_stream_limit_invalid")
  else if outside limits.pendingWriteBytes 1 (64 * mib) ||
      outside limits.maxPendingReads 1 4096 || outside limits.maxPendingWrites 1 4096 then
    .error (streamError .configuration "pending_limit_invalid")
  else .ok ()

/-- What validation promises. -/
structure ByteStreamLimits.Bounds (limits : ByteStreamLimits) : Prop where
  dataChunk : 1 ≤ limits.maxDataChunkBytes
  windowBytes : 1 ≤ limits.defaultReceiveWindowBytes ∧ limits.defaultReceiveWindowBytes ≤ 64 * mib
  windowFrames : 1 ≤ limits.defaultReceiveWindowFrames ∧ limits.defaultReceiveWindowFrames ≤ 65536

theorem validateByteStreamLimits_bounds {limits : ByteStreamLimits}
    (valid : validateByteStreamLimits limits = .ok ()) : limits.Bounds := by
  unfold validateByteStreamLimits at valid
  split at valid
  · cases valid
  rename_i dataChunk
  split at valid
  · cases valid
  rename_i windowBytes
  split at valid
  · cases valid
  rename_i windowFrames
  simp only [outside, Bool.or_eq_true, decide_eq_true_eq, not_or, Nat.not_lt]
    at dataChunk windowBytes windowFrames
  exact ⟨dataChunk.1, windowBytes, windowFrames⟩

/-! ### Machine arithmetic -/

def addU32 (a b : Nat) : Nat := (a + b) % 2 ^ 32
def subU32 (a b : Nat) : Nat := (a + (2 ^ 32 - b % 2 ^ 32)) % 2 ^ 32
def addU64 (a b : Nat) : Nat := (a + b) % 2 ^ 64
def subU64 (a b : Nat) : Nat := (a + (2 ^ 64 - b % 2 ^ 64)) % 2 ^ 64

/-! ### Calls and their sends -/

structure Turn where
  handle : Handle
  out : List StreamFrame := []
  replies : List (Option Error) := []
  deriving Repr, DecidableEq

namespace Turn

/-- Hands a frame to the session: its error if it refuses. -/
def sendStreamFrame (frame : StreamFrame) (turn : Turn) : Option Error × Turn :=
  match turn.replies with
  | some error :: replies => (some error, { turn with replies := replies })
  | none :: replies => (none, { turn with out := turn.out ++ [frame], replies := replies })
  | [] => (none, { turn with out := turn.out ++ [frame] })

end Turn

/-- The call only reports a result. -/
def Turn.complete (completion : Completion) (turn : Turn) : Turn :=
  { turn with handle := { turn.handle with log := turn.handle.log ++ [completion] } }

/-! ### The shared terminal routine -/

def streamResetError : Error := streamError .cancelled "stream_reset"

variable (handle : Handle)

/-- The gateway connection's one-shot failure, if its handler is still waiting. -/
def Handle.failConnected (error : Error) : Handle :=
  if handle.gateway.initiator && !handle.gateway.connectedFired && handle.gateway.connectedHandler then
    { handle with
      gateway := { handle.gateway with connectedFired := true, connectedHandler := false }
      log := handle.log ++ [.connected (some error)] }
  else handle

/-- What a gateway connection reports when the stream ends before it is connected. -/
def connectFailure (terminal : StreamState) (reason : Option Nat) : Error :=
  if terminal = .closed ∨ terminal = .halfClosedRemote then
    streamError .cancelled "gateway_connect_closed"
  else
    streamError .remoteError ("gateway_connect_failed_" ++ toString (reason.getD 0))

def finishStream (terminal : StreamState) (handle : Handle) : Handle :=
  let cleanEnd := terminal = .closed ∨ terminal = .halfClosedRemote
  let handle := handle.failConnected (connectFailure terminal handle.resetReason)
  { handle with
    state := terminal
    recv := { handle.recv with reads := [] }
    send := { handle.send with writes := [] }
    registered := handle.registered && !(terminal == .reset || terminal == .closed)
    log := handle.log ++
      (handle.recv.reads.map fun _ =>
        .read [] (if cleanEnd then none else some streamResetError)) ++
      handle.send.writes.map fun write =>
        .write write.data write.offset (some streamResetError) }

def handleResetFrameFor (reason : StableStatus) (turn : Turn) : Turn :=
  let turn :=
    if turn.handle.state ≠ .reset then (turn.sendStreamFrame (.streamReset reason.code)).2 else turn
  { turn with handle := finishStream .reset turn.handle }

/-! ### The receive side -/

variable (recv : ReceiveSide)

/-- Bytes read since the last report of the window. -/
def ReceiveSide.consumedBytes : Nat :=
  subU64 recv.consumedThrough recv.reportedBytes

/-- Frames free now less those free at the last report. -/
def ReceiveSide.consumedFrames : Nat :=
  subU32 recv.remainingFrames recv.reportedFrames

/-- The window is drained, or a quarter of it has been read. -/
def ReceiveSide.updateDue : Bool :=
  recv.remainingBytes == 0 || decide (recv.windowBytes / 4 ≤ recv.consumedBytes)

def ReceiveSide.updateFrame : StreamFrame :=
  .streamWindowUpdate recv.consumedThrough recv.consumedBytes recv.consumedFrames

/-- The two differences are taken on every call. -/
def noteConsumed : Handle :=
  { handle with
    wrapped := handle.wrapped || decide (handle.recv.consumedThrough < handle.recv.reportedBytes) ||
      decide (handle.recv.remainingFrames < handle.recv.reportedFrames) }

/-- An update was admitted. -/
def reportWindow : Handle :=
  let recv := handle.recv
  { handle with
    wrapped := handle.wrapped || decide (2 ^ 64 ≤ recv.remainingBytes + recv.consumedBytes)
    recv := { recv with
      reportedBytes := recv.consumedThrough
      reportedFrames := recv.remainingFrames
      remainingBytes := min (addU64 recv.remainingBytes recv.consumedBytes) recv.windowBytes } }

variable (turn : Turn)

def maybeSendWindowUpdate : Turn :=
  let recv := turn.handle.recv
  let turn := { turn with handle := noteConsumed turn.handle }
  if recv.updateDue then
    match turn.sendStreamFrame recv.updateFrame with
    | (some _, turn) => turn
    | (none, turn) => { turn with handle := reportWindow turn.handle }
  else turn

/-- The front read takes what it can of the front chunk. -/
def readFront (read : PendingRead) (reads : List PendingRead) (chunk : List UInt8)
    (chunks : List (List UInt8)) (handle : Handle) : Handle :=
  let count := min read.size chunk.length
  let recv := { handle.recv with
    reads := reads
    consumedThrough := handle.recv.consumedThrough + count
    bufferedBytes := handle.recv.bufferedBytes - count }
  let handle : Handle := { handle with
    wrapped := handle.wrapped || decide (handle.recv.bufferedBytes < count)
    log := handle.log ++ [.read (chunk.take count) none] }
  if count = chunk.length then
    { handle with
      recv := { recv with
        chunks := chunks
        remainingFrames := min (addU32 recv.remainingFrames 1) recv.windowFrames }
      wrapped := handle.wrapped || decide (2 ^ 32 ≤ recv.remainingFrames + 1) }
  else { handle with recv := { recv with chunks := chunk.drop count :: chunks } }

/-- A clean end of stream for the front read: zero bytes, no error. -/
def readEnd (reads : List PendingRead) (handle : Handle) : Handle :=
  let handle := { handle with
    recv := { handle.recv with reads := reads }
    log := handle.log ++ [.read [] none] }
  if handle.send.finSent ∧ handle.recv.chunks = [] then finishStream .closed handle else handle

/-- The dispatch loop; every round completes a read, so a round per read suffices. -/
def dispatchRounds : Nat → Turn → Turn
  | 0, turn => turn
  | rounds + 1, turn =>
    match turn.handle.recv.reads, turn.handle.recv.chunks with
    | [], _ => turn
    | _ :: reads, [] =>
      if turn.handle.recv.finReceived ∧
          turn.handle.recv.nextReceiveOffset = turn.handle.recv.finalOffset then
        dispatchRounds rounds { turn with handle := readEnd reads turn.handle }
      else turn
    | read :: reads, chunk :: chunks =>
      dispatchRounds rounds (maybeSendWindowUpdate
        { turn with handle := readFront read reads chunk chunks turn.handle })

def tryDispatchReads : Turn :=
  dispatchRounds turn.handle.recv.reads.length turn

/-! ### The send side -/

def chunkSize (send : SendSide) (write : PendingWrite) : Nat :=
  min (min limits.maxDataChunkBytes (write.data.length - write.offset)) send.creditBytes

/-- The next data frame of the front write. -/
def frontFrame (send : SendSide) (write : PendingWrite) : StreamFrame :=
  .streamData send.nextSendOffset (chunkSize limits send write)
    ((write.data.drop write.offset).take (chunkSize limits send write))

/-- A data frame of `chunk` bytes of the front write was admitted. -/
def chargeChunk (chunk : Nat) (write : PendingWrite) (writes : List PendingWrite)
    (handle : Handle) : Handle :=
  { handle with
    send := { handle.send with
      creditBytes := handle.send.creditBytes - chunk
      creditFrames := handle.send.creditFrames - 1
      nextSendOffset := handle.send.nextSendOffset + chunk
      writes := { write with offset := write.offset + chunk } :: writes }
    wrapped := handle.wrapped || decide (handle.send.creditBytes < chunk) ||
      decide (handle.send.creditFrames = 0) }

/-- The front write leaves the queue with its result. -/
def completeFront (write : PendingWrite) (writes : List PendingWrite) (bytes : Nat)
    (error : Option Error) (handle : Handle) : Handle :=
  { handle with
    send := { handle.send with writes := writes }
    log := handle.log ++ [.write write.data bytes error] }

/-- Ends the local direction: closed if the peer's has ended too. -/
def finishLocal : Handle :=
  finishStream (if handle.recv.finReceived then .closed else .halfClosedLocal) handle

/-- The write loop; every round spends a frame of credit or finishes a write. -/
def pumpRounds (limits : ByteStreamLimits) : Nat → Turn → Turn
  | 0, turn => turn
  | rounds + 1, turn =>
    match turn.handle.send.writes with
    | [] => turn
    | write :: writes =>
      if write.offset < write.data.length then
        if turn.handle.send.creditBytes = 0 ∨ turn.handle.send.creditFrames = 0 then turn
        else
          let chunk := chunkSize limits turn.handle.send write
          match turn.sendStreamFrame (frontFrame limits turn.handle.send write) with
          | (some error, turn) =>
            if error.code = .wouldBlock then turn
            else handleResetFrameFor .unavailable { turn with
              handle := completeFront write writes write.offset (some error) turn.handle }
          | (none, turn) =>
            pumpRounds limits rounds
              { turn with handle := chargeChunk chunk write writes turn.handle }
      else
        let turn := { turn with
          handle := completeFront write writes write.data.length none turn.handle }
        if write.finAfter then
          let turn := (turn.sendStreamFrame (.streamFin turn.handle.send.nextSendOffset)).2
          { turn with handle := finishLocal turn.handle }
        else pumpRounds limits rounds turn

def pumpWrites (turn : Turn) : Turn :=
  if turn.handle.state = .reset ∨ turn.handle.state = .closed then turn
  else pumpRounds limits
    (turn.handle.send.creditFrames + turn.handle.send.writes.length) turn

/-! ### The caller's operations -/

def pushRead (read : PendingRead) (handle : Handle) : Handle :=
  { handle with recv := { handle.recv with reads := handle.recv.reads ++ [read] } }

def asyncReadSome (size : Nat) (deadline : Option Nat) (turn : Turn) : Turn :=
  if size = 0 then
    turn.complete (.read [] (some (streamError .configuration "read_buffer_empty")))
  else if turn.handle.state = .reset then
    turn.complete (.read [] (some streamResetError))
  else if turn.handle.recv.reads.length ≥ turn.handle.maxPendingReads then
    turn.complete (.read [] (some (streamError .resourceExhausted "read_limit")))
  else
    tryDispatchReads { turn with
      handle := pushRead { size := size, deadline := deadline } turn.handle }

def pendingBytes (writes : List PendingWrite) : Nat :=
  (writes.map fun write => write.data.length - write.offset).sum

def pushWrite (data : List UInt8) (deadline : Option Nat) (handle : Handle) : Handle :=
  { handle with send := { handle.send with
    writes := handle.send.writes ++ [{ data := data, deadline := deadline }] } }

/-- Queues a write and pumps; the service's deadline sweep follows. -/
def asyncWrite (data : List UInt8) (deadline : Option Nat) (turn : Turn) : Turn :=
  let refuse := fun error : Error => turn.complete (.write data 0 (some error))
  if turn.handle.state = .reset ∨ turn.handle.state = .closed then
    refuse (streamError .cancelled "stream_not_writable")
  else if turn.handle.send.finSent ∨ turn.handle.state = .halfClosedLocal then
    refuse (streamError .protocol "write_after_fin")
  else if data = [] then
    turn.complete (.write data 0 none)
  else if pendingBytes turn.handle.send.writes + data.length > turn.handle.maxPendingWriteBytes then
    refuse (streamError .wouldBlock "write_backlog_full")
  else if turn.handle.send.writes.length ≥ turn.handle.maxPendingWrites then
    refuse (streamError .resourceExhausted "write_limit")
  else pumpWrites limits { turn with handle := pushWrite data deadline turn.handle }

/-- Marks the last of the queued writes as the one FIN follows. -/
def markFinAfter : List PendingWrite → List PendingWrite
  | [] => []
  | [write] => [{ write with finAfter := true }]
  | write :: writes => write :: markFinAfter writes

def shutdownWrite : Option Error × Turn :=
  if turn.handle.send.finSent ∨ turn.handle.state = .reset ∨ turn.handle.state = .closed then
    (some (streamError .protocol "fin_not_sendable"), turn)
  else if turn.handle.send.writes ≠ [] then
    (none, { turn with handle := { turn.handle with send := { turn.handle.send with
      writes := markFinAfter turn.handle.send.writes
      finSent := true } } })
  else
    let turn := { turn with handle := { turn.handle with
      send := { turn.handle.send with finSent := true } } }
    match turn.sendStreamFrame (.streamFin turn.handle.send.nextSendOffset) with
    | (some error, turn) => (some error, turn)
    | (none, turn) => (none, { turn with handle := finishLocal turn.handle })

def resetStream (reason : StableStatus) (turn : Turn) : Turn :=
  if turn.handle.state = .reset ∨ turn.handle.state = .closed then turn
  else handleResetFrameFor reason turn

/-! ### Frame handlers -/

def gatewayPreludeBytes : Nat := 2

/-- The connected status is zero; there is no other legal prelude. -/
def parseGatewayPrelude (prelude : List UInt8) : Bool :=
  prelude == [0, 0]

def chargeData (bytes : List UInt8) (handle : Handle) : Handle :=
  { handle with
    recv := { handle.recv with
      remainingBytes := handle.recv.remainingBytes - bytes.length
      remainingFrames := handle.recv.remainingFrames - 1
      nextReceiveOffset := handle.recv.nextReceiveOffset + bytes.length
      acceptedFrames := handle.recv.acceptedFrames + 1 }
    wrapped := handle.wrapped || decide (handle.recv.remainingBytes < bytes.length) ||
      decide (handle.recv.remainingFrames = 0) }

/-- Ends the remote direction: closed if the local one has ended too. -/
def finishRemote : Handle :=
  finishStream (if handle.send.finSent then .closed else .halfClosedRemote) handle

def bufferData (deliverable : List UInt8) (handle : Handle) : Handle :=
  { handle with recv := { handle.recv with
    bufferedBytes := handle.recv.bufferedBytes + deliverable.length
    chunks :=
      if deliverable = [] then handle.recv.chunks else handle.recv.chunks ++ [deliverable] } }

/-- Buffers the deliverable bytes and serves waiting reads. -/
def deliverData (deliverable : List UInt8) (turn : Turn) : Turn :=
  let turn := tryDispatchReads { turn with handle := bufferData deliverable turn.handle }
  if turn.handle.recv.finReceived ∧
      turn.handle.recv.nextReceiveOffset = turn.handle.recv.finalOffset ∧
      turn.handle.recv.chunks = [] then
    { turn with handle := finishRemote turn.handle }
  else turn

/-- The first bytes for a gateway initiator are the prelude, never surfaced to
the caller: how many of `bytes` belong to it, and the handle that has them. -/
def takePrelude (bytes : List UInt8) (handle : Handle) : Nat × Handle :=
  let taken := min (gatewayPreludeBytes - handle.gateway.prelude.length) bytes.length
  (taken, { handle with gateway := { handle.gateway with
    prelude := handle.gateway.prelude ++ bytes.take taken } })

/-- A valid prelude: the stream is open and the connected handler fires once. -/
def connectGateway : Handle :=
  let handle := { handle with
    state := if handle.state = .opening then .open else handle.state
    gateway := { handle.gateway with preludePending := false } }
  if handle.gateway.connectedHandler && !handle.gateway.connectedFired then
    { handle with
      gateway := { handle.gateway with connectedFired := true, connectedHandler := false }
      log := handle.log ++ [.connected none] }
  else handle

def handleData (offset length : Nat) (bytes : List UInt8) (turn : Turn) : Turn :=
  let recv := turn.handle.recv
  if turn.handle.state = .reset ∨ turn.handle.state = .closed then turn
  else if length ≠ bytes.length then handleResetFrameFor .protocolError turn
  else if offset < recv.nextReceiveOffset then turn
  else if offset > recv.nextReceiveOffset then handleResetFrameFor .protocolError turn
  else if bytes.length > recv.remainingBytes ∨ recv.remainingFrames = 0 then
    handleResetFrameFor .resourceExhausted
      { turn with handle := { turn.handle with violated := true } }
  else
    let turn := { turn with handle := chargeData bytes turn.handle }
    if turn.handle.gateway.initiator && turn.handle.gateway.preludePending then
      let (taken, handle) := takePrelude bytes turn.handle
      if handle.gateway.prelude.length = gatewayPreludeBytes then
        if parseGatewayPrelude handle.gateway.prelude then
          deliverData (bytes.drop taken) { turn with handle := connectGateway handle }
        else
          handleResetFrameFor .protocolError { turn with handle := { handle with
            gateway := { handle.gateway with preludePending := false } } }
      else deliverData (bytes.drop taken) { turn with handle := handle }
    else deliverData bytes turn

/-- The credit of an update; the frame half saturates. -/
def grantCredit (consumed additionalBytes additionalFrames : Nat) (handle : Handle) : Handle :=
  { handle with
    send := { handle.send with
      consumedByPeer := consumed
      creditBytes := handle.send.creditBytes + additionalBytes
      creditFrames := min (addU64 additionalFrames handle.send.creditFrames) (2 ^ 32 - 1) }
    wrapped := handle.wrapped || decide (2 ^ 64 ≤ additionalFrames + handle.send.creditFrames) }

def handleWindowUpdate (consumed additionalBytes additionalFrames : Nat) (turn : Turn) : Turn :=
  let send := turn.handle.send
  if consumed < send.consumedByPeer then turn
  else if consumed > send.nextSendOffset then handleResetFrameFor .protocolError turn
  else if additionalBytes > 2 ^ 64 - 1 - send.creditBytes then
    handleResetFrameFor .resourceExhausted { turn with handle := { turn.handle with
      send := { send with consumedByPeer := consumed }
      violated := true } }
  else pumpWrites limits
    { turn with handle := grantCredit consumed additionalBytes additionalFrames turn.handle }

def markFin (finalOffset : Nat) (handle : Handle) : Handle :=
  { handle with recv := { handle.recv with finReceived := true, finalOffset := finalOffset } }

def handleFin (finalOffset : Nat) (turn : Turn) : Turn :=
  if turn.handle.state = .reset ∨ turn.handle.state = .closed then turn
  else
    let turn := { turn with handle := markFin finalOffset turn.handle }
    if finalOffset ≠ turn.handle.recv.nextReceiveOffset then
      handleResetFrameFor .protocolError turn
    else
      let turn := tryDispatchReads turn
      if turn.handle.recv.chunks = [] then { turn with handle := finishRemote turn.handle }
      else turn

def handleReset (reason : Nat) (turn : Turn) : Turn :=
  if turn.handle.state = .reset then turn
  else { turn with handle := finishStream .reset { turn.handle with resetReason := some reason } }

/-- A frame for a stream in the service's map, other than its OPEN. -/
def handleStreamFrame (frame : StreamFrame) (turn : Turn) : Turn :=
  match frame with
  | .streamOpen _ _ _ =>
    -- an OPEN for a stream that exists
    if turn.handle.state ≠ .reset then handleResetFrameFor .alreadyExists turn else turn
  | .streamData offset length bytes => handleData offset length bytes turn
  | .streamWindowUpdate consumed bytes frames => handleWindowUpdate limits consumed bytes frames turn
  | .streamFin finalOffset => handleFin finalOffset turn
  | .streamReset reason => handleReset reason turn

/-! ### Deadlines and session loss -/

variable (now : Nat)

def expired : Option Nat → Bool
  | some deadline => now > deadline
  | none => false

def expirePending (handle : Handle) : Handle :=
  { handle with
    recv := { handle.recv with
      reads := handle.recv.reads.filter fun read => !expired now read.deadline }
    send := { handle.send with
      writes := handle.send.writes.filter fun write => !expired now write.deadline }
    log := handle.log ++
      ((handle.recv.reads.filter fun read => expired now read.deadline).map fun _ =>
        .read [] (some (streamError .timeout "read_deadline"))) ++
      (handle.send.writes.filter fun write => expired now write.deadline).map fun write =>
        .write write.data write.offset (some (streamError .timeout "write_deadline")) }

def dialExpired (handle : Handle) : Bool :=
  handle.gateway.initiator && handle.gateway.preludePending &&
    handle.gateway.dialDeadline != 0 && decide (now > handle.gateway.dialDeadline)

/-- One stream's share of the deadline sweep. -/
def checkDeadlines (turn : Turn) : Turn :=
  let late := dialExpired now turn.handle
  let turn := { turn with handle := expirePending now turn.handle }
  if late then handleResetFrameFor .deadlineExceeded turn else turn

/-- One stream's share of a session loss. -/
def failStream (error : Error) (handle : Handle) : Handle :=
  let handle := handle.failConnected (streamError .cancelled "gateway_connect_closed")
  { handle with
    state := .reset
    registered := false
    recv := { handle.recv with reads := [] }
    send := { handle.send with writes := [] }
    log := handle.log ++ (handle.recv.reads.map fun _ => .read [] (some error)) ++
      handle.send.writes.map fun write => .write write.data write.offset (some error) }

end Heyaki
