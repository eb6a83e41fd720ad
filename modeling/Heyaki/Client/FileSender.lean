/-
Purpose: the sending side of a file transfer (`file_service.cpp`).

Everything runs on one strand; a probe, a read and a digest are tasks whose results come
back as events.  What the session does with a frame is an answer of the environment: it
takes it, refuses it, or takes it and is lost in the pump behind it, which ends the sender.
A sender that ends leaves the map at once, so that none is found `terminal`.  Events,
counters and the book of paused transfers are left out; a staged chunk is kept as its data,
without the header.
-/
import Heyaki.Core.Wire

namespace Heyaki

def minFileChunkSize : Nat := 4096
def empiricalSctpMessageCap : Nat := 60 * 1024

structure FileSendConfig where
  limits : Limits := {}
  sendWindowBytes : Nat := 2 * mib
  offerTimeoutMilliseconds : Nat := 30000
  /-- What the session negotiated for the file channel. -/
  maxMessageBytes : Nat
  /-- The transfer id and the joined name pass the check of the manifest. -/
  nameFits : Bool := true

inductive SendAnswer where
  | sent | refused | lost
  deriving Repr, DecidableEq

structure SendEnv where
  now : Nat := 0
  /-- Whether the executor takes the task. -/
  dispatched : Bool := true
  /-- The answers to the frames, in the order in which they are sent. -/
  answers : List SendAnswer := []

structure FileSender where
  size : Nat := 0
  chunkSize : Nat := 0
  chunkCount : Nat := 0
  presentChunks : List Nat := []
  nextReadChunk : Nat := 0
  window : List (Nat × List UInt8) := []
  windowBytes : Nat := 0
  bytesAdmitted : Nat := 0
  probeInFlight : Bool := true
  readInFlight : Bool := false
  completeSent : Bool := false
  completeDeferred : Bool := false
  chunksHashed : Nat := 0
  paused : Bool := false
  accepted : Bool := false
  offerDeadline : Nat := 0
  /-- Not in the source: how many FILE_COMPLETE frames the session took. -/
  completeFrames : Nat := 0
  deriving DecidableEq

/-- A digest task, with the sender that it was made for. -/
structure HashTask where
  sender : Nat
  offset : Nat
  data : List UInt8
  deriving DecidableEq

/-- What belongs to one transfer id.  Digest tasks outlive their sender and find its
successor; `serial` tells the senders apart. -/
structure FileSendSlot where
  serial : Nat := 0
  sender : Option FileSender := none
  hashing : List HashTask := []
  deriving DecidableEq

/-- In 64 bits. -/
def chunkCountOf (size chunkSize : Nat) : Nat :=
  (size + chunkSize - 1) % 2 ^ 64 / chunkSize

/-- Without an answer the queue is full. -/
def nextAnswer : List SendAnswer → SendAnswer × List SendAnswer
  | [] => (.refused, [])
  | answer :: answers => (answer, answers)

namespace FileSender

variable (sender : FileSender)

def sendComplete (answers : List SendAnswer) : Option (FileSender × List SendAnswer) :=
  match nextAnswer answers with
  | (.sent, answers) =>
    some ({ sender with completeDeferred := false, completeFrames := sender.completeFrames + 1 },
      answers)
  | (.refused, answers) => some ({ sender with completeDeferred := true }, answers)
  | (.lost, _) => none

/-- The end of `drain_window`, once the window is empty. -/
def finishDrain (answers : List SendAnswer) : Option (FileSender × List SendAnswer) :=
  if sender.size ≠ 0 ∧ sender.chunksHashed ≥ sender.chunkCount ∧ sender.completeSent = false then
    { sender with completeSent := true }.sendComplete answers
  else some (sender, answers)

def drainFrom (sender : FileSender) :
    List (Nat × List UInt8) → List SendAnswer → Option (FileSender × List SendAnswer)
  | [], answers => { sender with window := [] }.finishDrain answers
  | (offset, data) :: staged, answers =>
    match nextAnswer answers with
    | (.refused, answers) => some ({ sender with window := (offset, data) :: staged }, answers)
    | (.lost, _) => none
    | (.sent, answers) =>
      { sender with
        windowBytes := sender.windowBytes - (data.length + fileChunkHeaderBytes)
        bytesAdmitted := sender.bytesAdmitted + data.length }.drainFrom staged answers

def drainWindow (answers : List SendAnswer) : Option (FileSender × List SendAnswer) :=
  sender.drainFrom sender.window answers

/-- The receiver has the chunks of its bitmap: they are not read. -/
def skipPresent (present : List Nat) : Nat → Nat → Nat
  | 0, next => next
  | left + 1, next => if present.contains next then skipPresent present left (next + 1) else next

def chunkLength : Nat :=
  min sender.chunkSize (sender.size - sender.nextReadChunk * sender.chunkSize)

variable (config : FileSendConfig)

def startNextRead (dispatched : Bool) (sender : FileSender) (answers : List SendAnswer) :
    Option (FileSender × List SendAnswer) :=
  if !sender.accepted || sender.paused || sender.readInFlight || sender.probeInFlight ||
      sender.size == 0 then
    some (sender, answers)
  else
    let left := sender.chunkCount - sender.nextReadChunk
    let sender := { sender with
      nextReadChunk := skipPresent sender.presentChunks left sender.nextReadChunk }
    if sender.nextReadChunk ≥ sender.chunkCount then sender.drainWindow answers
    else if sender.windowBytes + sender.chunkLength > config.sendWindowBytes ∧
        sender.window ≠ [] then
      some (sender, answers)
    else if dispatched then some ({ sender with readInFlight := true }, answers)
    else none

def drainAndRead (dispatched : Bool) (sender : FileSender) (answers : List SendAnswer) :
    Option (FileSender × List SendAnswer) := do
  let (sender, answers) ← sender.drainWindow answers
  sender.startNextRead config dispatched answers

def offerDeadlineAt (now : Nat) : Nat :=
  if config.offerTimeoutMilliseconds ≠ 0 then now + config.offerTimeoutMilliseconds else 0

/-- The chunk size, bounded by what the transport carries. -/
def chunkSizeFor (size : Nat) : Nat :=
  let transportCap := (min config.maxMessageBytes empiricalSctpMessageCap + 2 ^ 64 -
    fileChunkHeaderBytes) % 2 ^ 64
  min (min config.limits.maxFileChunkBytes transportCap) (max minFileChunkSize size)

/-- `finish_probe` with `send_manifest`: only a manifest that is encoded and sent leaves a
sender. -/
def finishProbe (sender : FileSender) (result : Option Nat) (env : SendEnv) : Option FileSender :=
  if !sender.probeInFlight then some sender
  else do
    let size ← result
    let chunkSize := chunkSizeFor config size
    if chunkSize < minFileChunkSize ∨ !config.nameFits ∨ size = 0 ∨
        size > config.limits.maxFileBytes then none
    else if (nextAnswer env.answers).1 ≠ .sent then none
    else
      some { sender with
        probeInFlight := false, size := size, chunkSize := chunkSize
        chunkCount := chunkCountOf size chunkSize, offerDeadline := offerDeadlineAt config env.now }

def handleInboundAccept (sender : FileSender) (present : List Nat) (env : SendEnv) :
    Option FileSender :=
  if present.any (· ≥ sender.chunkCount) then none
  else
    (startNextRead config env.dispatched
      { sender with accepted := true, offerDeadline := 0, presentChunks := present }
      env.answers).map (·.1)

def resume (sender : FileSender) (env : SendEnv) : Option FileSender :=
  if !sender.paused then some sender
  else
    (drainAndRead config env.dispatched
      { sender with
        paused := false
        offerDeadline :=
          if sender.accepted then sender.offerDeadline else offerDeadlineAt config env.now }
      env.answers).map (·.1)

def prune (sender : FileSender) (env : SendEnv) : Option FileSender :=
  if sender.paused then some sender
  else if !sender.accepted ∧ sender.offerDeadline ≠ 0 ∧ env.now ≥ sender.offerDeadline then none
  else do
    let (sender, answers) ← sender.drainAndRead config env.dispatched env.answers
    if sender.completeDeferred then (sender.sendComplete answers).map (·.1) else some sender

end FileSender

namespace FileSendSlot

inductive Event where
  /-- `push_file`, or `attach` for a transfer that was paused with this bitmap. -/
  | push (present : List Nat) (dispatched : Bool)
  | probed (size : Option Nat) (env : SendEnv)
  /-- The probe of an earlier sender of the same id. -/
  | staleProbe
  | accept (present : List Nat) (env : SendEnv)
  | read (data : Option (List UInt8)) (env : SendEnv)
  | hashed (task : Nat) (env : SendEnv)
  | pause
  | resume (env : SendEnv)
  | prune (env : SendEnv)
  /-- A verdict, a rejection, a cancellation or the loss of the session. -/
  | ended

/-- A read that came back in full goes to the digest. -/
def finishRead (slot : FileSendSlot) (sender : FileSender) (data : Option (List UInt8))
    (dispatched : Bool) : FileSendSlot :=
  if !sender.readInFlight then slot
  else
    match data with
    | none => { slot with sender := none }
    | some data =>
      if data.length ≠ sender.chunkLength ∨ !dispatched then { slot with sender := none }
      else
        { slot with
          sender := some { sender with
            readInFlight := false, nextReadChunk := sender.nextReadChunk + 1 }
          hashing := slot.hashing ++
            [⟨slot.serial, sender.nextReadChunk * sender.chunkSize, data⟩] }

/-- The digest of a chunk comes back to whatever sender the id has now. -/
def finishSendHash (config : FileSendConfig) (sender : FileSender) (task : HashTask)
    (env : SendEnv) : Option FileSender :=
  (FileSender.drainAndRead config env.dispatched
    { sender with
      chunksHashed := sender.chunksHashed + 1
      window := sender.window ++ [(task.offset, task.data)]
      windowBytes := sender.windowBytes + (task.data.length + fileChunkHeaderBytes) }
    env.answers).map (·.1)

def step (config : FileSendConfig) (slot : FileSendSlot) (event : Event) : FileSendSlot :=
  match event, slot.sender with
  | .push present dispatched, none =>
    { slot with
      serial := slot.serial + 1
      sender := if dispatched then some { presentChunks := present } else none }
  | .hashed index env, owner =>
    match slot.hashing[index]? with
    | none => slot
    | some task =>
      { slot with
        hashing := slot.hashing.eraseIdx index
        sender := owner.bind (finishSendHash config · task env) }
  | _, none => slot
  | .push .., some _ => slot
  | .probed size env, some sender => { slot with sender := sender.finishProbe config size env }
  | .staleProbe, some sender =>
    { slot with sender := some { sender with probeInFlight := false } }
  | .accept present env, some sender =>
    { slot with sender := sender.handleInboundAccept config present env }
  | .read data env, some sender => slot.finishRead sender data env.dispatched
  | .pause, some sender => { slot with sender := some { sender with paused := true } }
  | .resume env, some sender => { slot with sender := sender.resume config env }
  | .prune env, some sender => { slot with sender := sender.prune config env }
  | .ended, some _ => { slot with sender := none }

end FileSendSlot

end Heyaki
