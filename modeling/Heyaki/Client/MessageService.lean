/-
Purpose: the point-to-point message service of `message_service.cpp`.

The service is a machine over the frames that arrive, the sends of its owner,
the pruning timer, the loss of the session and the clock.  What the session,
the scope check and the executor answer is part of each event.  Sending hands
a frame to the session, which may call back into the service before it returns;
a send is therefore two events, with the calls in progress on a stack.

The log lists what the service does, in order.  Each counter of the source is
the number of the log's entries of one kind.
-/
import Heyaki.Core.MessageProtocol
import Heyaki.Foundation.Machine
import Heyaki.Foundation.SortedMap

namespace Heyaki

open Foundation

structure MessageServiceConfig where
  dedupCapacity : Nat := 512
  pendingAckCapacity : Nat := 256
  channelFrameCapacity : Nat := 256
  channelByteCapacity : Nat := 1024 * 1024
  deriving Repr, Inhabited, DecidableEq

/-- An accepted envelope, kept until it expires.  `order` is history: the number
of envelopes accepted before it. -/
structure DedupEntry where
  expires : Nat
  digest : List UInt8
  order : Nat
  deriving Repr, DecidableEq

/-- A send whose acknowledgement is awaited.  `send` is history: the number of
acknowledged sends that succeeded before it. -/
structure PendingAck where
  expires : Nat
  send : Nat
  deriving Repr, DecidableEq

inductive MessageDeliveryEvent where
  | queued | sendFailed | acked | peerRejected | ackTimeout | sessionClosed
  deriving Repr, Inhabited, DecidableEq

/-- The events after which a send is finished. -/
def MessageDeliveryEvent.terminal : MessageDeliveryEvent → Bool
  | .acked | .peerRejected | .ackTimeout | .sessionClosed => true
  | .queued | .sendFailed => false

inductive MessageRecord where
  | invalidEnvelope
  | duplicate (id : MessageId)
  | conflict (id : MessageId) (channelId : UInt32)
  | accepted (id : MessageId)
  | scopeRejected (id : MessageId)
  | scopePassed (id : MessageId)
  | ackSent (id : MessageId)
  | ackSendFailed (id : MessageId)
  | received (id : MessageId)
  | dispatched (envelope : MessageEnvelope) (time : Nat)
  | dispatchRejected (id : MessageId)
  | unknownAck (id : MessageId)
  | sendRejected (id : MessageId)
  | sentBestEffort (id : MessageId)
  | sentPeerAcked (id : MessageId)
  /-- A delivery event handed to the ack sink, with the send it is about. -/
  | delivery (send : Option Nat) (id : MessageId) (event : MessageDeliveryEvent)
      (error : Option Error)
  deriving Repr, DecidableEq

/-- An acknowledged send that returned success: its id, when and for how long. -/
structure SentMessage where
  id : MessageId
  time : Nat
  ttl : Nat
  deriving Repr, DecidableEq

structure MessageService where
  config : MessageServiceConfig := {}
  limits : Limits := {}
  attached : Bool := false
  channelId : UInt32 := 0
  inboundSink : Bool := false
  ackSink : Bool := false
  /-- History: the session has been lost. -/
  closed : Bool := false
  clock : Nat := 0
  dedup : SortedMap MessageId DedupEntry := {}
  pendingAcks : SortedMap MessageId PendingAck := {}
  /-- Calls of `send` that have handed their frame to the session, innermost first. -/
  sends : List MessageEnvelope := []
  /-- History: the acknowledged sends that returned success. -/
  sent : List SentMessage := []
  log : List MessageRecord := []

def messageServiceError (code : ErrorCode) (detail : String) : Error :=
  { code := code, component := "message", safeDetail := detail }

/-- Milliseconds since the epoch are 64-bit. -/
def addMilliseconds (now ttl : Nat) : Nat :=
  (now + ttl) % 2 ^ 64

namespace MessageService

def record (records : List MessageRecord) (service : MessageService) : MessageService :=
  { service with log := service.log ++ records }

/-! ### Attaching -/

def configInvalid (config : MessageServiceConfig) : Bool :=
  config.dedupCapacity == 0 || config.dedupCapacity > 65536 ||
    config.pendingAckCapacity == 0 || config.pendingAckCapacity > 65536 ||
    config.channelFrameCapacity == 0 || config.channelFrameCapacity > 65536 ||
    config.channelByteCapacity == 0 || config.channelByteCapacity > 256 * 1024 * 1024

/-- `opened` is the session's answer to opening the message channel. -/
def attach (dispatch : Bool) (opened : Except Error UInt32) (service : MessageService) :
    Except Error MessageService :=
  if service.attached then .ok service
  else if configInvalid service.config then
    .error (messageServiceError .configuration "message_config_invalid")
  else if !dispatch then .error (messageServiceError .configuration "dispatch_missing")
  else
    match opened with
    | .error error => .error error
    | .ok channelId => .ok { service with attached := true, channelId := channelId }

/-! ### Expiry -/

def observeAck (send : Option Nat) (id : MessageId) (event : MessageDeliveryEvent)
    (error : Option Error) (service : MessageService) : MessageService :=
  if service.ackSink then service.record [.delivery send id event error] else service

/-- The delivery events of a list of tracked sends that all end the same way. -/
def observeAll (event : MessageDeliveryEvent) (error : Option Error)
    (entries : List (MessageId × PendingAck)) (service : MessageService) : MessageService :=
  entries.foldl (fun service entry => service.observeAck (some entry.2.send) entry.1 event error)
    service

variable (service : MessageService)

def expiredAcks : List (MessageId × PendingAck) :=
  service.pendingAcks.entries.filter fun entry => decide (entry.2.expires ≤ service.clock)

/-- Expired entries leave both tables; an expired send is reported as timed out. -/
def pruneExpired : MessageService :=
  observeAll .ackTimeout (some (messageServiceError .timeout "ack_ttl_expired"))
    service.expiredAcks
    { service with
      dedup := service.dedup.filter fun _ entry => decide (service.clock < entry.expires)
      pendingAcks := service.pendingAcks.filter fun _ entry =>
        decide (service.clock < entry.expires) }

/-- The source also merges finished dispatch records, which only feed its counters. -/
def prune : MessageService :=
  service.pruneExpired

def handleSessionClosed : MessageService :=
  observeAll .sessionClosed (some (messageServiceError .transport "session_closed"))
    service.pendingAcks.entries
    { service with closed := true, pendingAcks := {} }

/-! ### Inbound messages -/

/-- What the session, the scope check and the executor answer to one inbound frame. -/
structure FrameReplies where
  adopted : Option Error := none
  scopeCovers : Bool := true
  ackAccepted : Bool := true
  dispatched : Bool := true
  deriving Repr, Inhabited, DecidableEq

/-- The first pass over a full table erases expired entries until there is room. -/
def dropExpired (capacity now : Nat) : Nat → List (MessageId × DedupEntry) →
    List (MessageId × DedupEntry)
  | _, [] => []
  | size, entry :: entries =>
    if entry.2.expires ≤ now then
      if size - 1 < capacity then entries else dropExpired capacity now (size - 1) entries
    else entry :: dropExpired capacity now size entries

theorem dropExpired_sublist (capacity now size : Nat) (entries : List (MessageId × DedupEntry)) :
    (dropExpired capacity now size entries).Sublist entries := by
  induction entries generalizing size with
  | nil => exact .slnil
  | cons entry entries ih =>
    unfold dropExpired
    split
    · split
      · exact List.sublist_cons_self entry entries
      · exact (ih _).cons entry
    · exact (ih _).cons_cons entry

/-- The second pass erases from the beginning of the table until there is room. -/
def dropFromBegin (capacity : Nat) : Nat → SortedMap MessageId DedupEntry →
    SortedMap MessageId DedupEntry
  | 0, table => table
  | rounds + 1, table =>
    if table.size ≥ capacity ∧ table.size ≠ 0 then dropFromBegin capacity rounds table.dropFirst
    else table

/-- Room for one more envelope in a table that is full. -/
def makeRoom (capacity now : Nat) (table : SortedMap MessageId DedupEntry) :
    SortedMap MessageId DedupEntry :=
  if table.size ≥ capacity then
    let kept : SortedMap MessageId DedupEntry :=
      ⟨dropExpired capacity now table.size table.entries,
        table.sorted.sublist (dropExpired_sublist capacity now table.size table.entries)⟩
    dropFromBegin capacity kept.size kept
  else table

def acceptedIds (log : List MessageRecord) : List MessageId :=
  log.filterMap fun entry =>
    match entry with
    | .accepted id => some id
    | _ => none

variable (envelope : MessageEnvelope)

def storeEnvelope (digest : List UInt8) (service : MessageService) : MessageService :=
  record [.accepted envelope.messageId] { service with
    dedup := service.dedup.insert envelope.messageId {
      expires := addMilliseconds service.clock envelope.ttlMilliseconds.toNat
      digest := digest
      order := (acceptedIds service.log).length } }

/-- An envelope that was validated has a non-zero id, so that its
acknowledgement always encodes. -/
def sendAckFor (accepted : Bool) (service : MessageService) : MessageService :=
  service.record [if accepted then .ackSent envelope.messageId else .ackSendFailed envelope.messageId]

def deliverToHandler (dispatched : Bool) (service : MessageService) : MessageService :=
  if !service.inboundSink then service
  else
    service.record [if dispatched then .dispatched envelope service.clock
      else .dispatchRejected envelope.messageId]

/-- The envelope is new: it is stored first and only then checked for scope. -/
def admitEnvelope (digest : List UInt8) (replies : FrameReplies) (service : MessageService) :
    MessageService :=
  let service := { service with
    dedup := makeRoom service.config.dedupCapacity service.clock service.dedup }
  let service := service.storeEnvelope envelope digest
  if !replies.scopeCovers then service.record [.scopeRejected envelope.messageId]
  else
    let service := service.record [.scopePassed envelope.messageId]
    let service :=
      if envelope.deliveryMode = .peerAcked then service.sendAckFor envelope replies.ackAccepted
      else service
    (service.record [.received envelope.messageId]).deliverToHandler envelope replies.dispatched

/-- `digest` is the hash of the payload as it arrived. -/
def handleEnvelope (digest : List UInt8) (channelId : UInt32) (replies : FrameReplies)
    (service : MessageService) : MessageService :=
  match service.dedup.find? envelope.messageId with
  | some entry =>
    if entry.expires > service.clock then
      if entry.digest = digest then
        let service := service.record [.duplicate envelope.messageId]
        if envelope.deliveryMode = .peerAcked then service.sendAckFor envelope replies.ackAccepted
        else service
      else service.record [.conflict envelope.messageId channelId]
    else
      admitEnvelope envelope digest replies
        { service with dedup := service.dedup.erase envelope.messageId }
  | none => admitEnvelope envelope digest replies service

variable (hash : List UInt8 → List UInt8)

def handleInboundMessage (frame : Frame) (replies : FrameReplies) (service : MessageService) :
    MessageService :=
  let service := service.pruneExpired
  match parseMessageEnvelope frame.payload service.limits with
  | .error _ => service.record [.invalidEnvelope]
  | .ok envelope =>
    handleEnvelope envelope (hash frame.payload) frame.channelId replies service

def handleInboundAck (frame : Frame) (service : MessageService) : MessageService :=
  match parseMessageAck frame.payload with
  | .error _ => service.record [.invalidEnvelope]
  | .ok ack =>
    match service.pendingAcks.find? ack.messageId with
    | none => service.record [.unknownAck ack.messageId]
    | some pending =>
      let service := { service with pendingAcks := service.pendingAcks.erase ack.messageId }
      if ack.protocolAccepted then
        service.observeAck (some pending.send) ack.messageId .acked none
      else
        service.observeAck (some pending.send) ack.messageId .peerRejected
          (some (messageServiceError .protocol "peer_rejected_envelope"))

def admitFrame (frame : Frame) (replies : FrameReplies) (service : MessageService) :
    Except Error MessageService :=
  if !service.attached then .error (messageServiceError .configuration "service_not_attached")
  else if frame.type = FrameType.message.code then
    match replies.adopted with
    | some error => .error error
    | none => .ok (service.handleInboundMessage hash frame replies)
  else if frame.type = FrameType.messageAck.code then .ok (service.handleInboundAck frame)
  else .error (messageServiceError .protocol "message_domain_frame_unknown")

def handleFrame (frame : Frame) (replies : FrameReplies) (service : MessageService) :
    MessageService :=
  match service.admitFrame hash frame replies with
  | .error _ => service
  | .ok after => after

/-! ### Sending -/

/-- The part of `send` before the session takes the frame; a zero id is replaced
by the random one. -/
def sendBegin (random : MessageId) (service : MessageService) : MessageService :=
  if !service.attached then service
  else
    let envelope :=
      if envelope.messageId.isZero then { envelope with messageId := random } else envelope
    match encodeMessageEnvelope envelope service.limits with
    | .error error =>
      (service.record [.sendRejected envelope.messageId]).observeAck none envelope.messageId
        .sendFailed (some error)
    | .ok _ => { service with sends := envelope :: service.sends }

/-- A full table of tracked sends gives up the one at its beginning. -/
def ageOut : MessageService :=
  if service.pendingAcks.size ≥ service.config.pendingAckCapacity then
    match service.pendingAcks.first? with
    | none => service
    | some (oldest, pending) =>
      { service.observeAck (some pending.send) oldest .ackTimeout
          (some (messageServiceError .timeout "ack_tracking_capacity")) with
        pendingAcks := service.pendingAcks.erase oldest }
  else service

def trackSend (service : MessageService) : MessageService :=
  let service := service.ageOut
  let ttl := envelope.ttlMilliseconds.toNat
  observeAck (some service.sent.length) envelope.messageId .queued none { service with
    pendingAcks := service.pendingAcks.insert envelope.messageId
      { expires := addMilliseconds service.clock ttl, send := service.sent.length }
    sent := service.sent ++ [{ id := envelope.messageId, time := service.clock, ttl := ttl }] }

/-- The part of `send` after the session has answered. -/
def sendEnd (refusal : Option Error) (service : MessageService) : MessageService :=
  match service.sends with
  | [] => service
  | envelope :: sends =>
    let service := { service with sends := sends }
    match refusal with
    | some error =>
      (service.record [.sendRejected envelope.messageId]).observeAck none envelope.messageId
        .sendFailed (some error)
    | none =>
      if envelope.deliveryMode = .peerAcked then
        (service.record [.sentPeerAcked envelope.messageId]).pruneExpired.trackSend envelope
      else service.record [.sentBestEffort envelope.messageId]

/-! ### The machine -/

inductive Event where
  | advance (milliseconds : Nat)
  | frame (frame : Frame) (replies : FrameReplies)
  | sendBegin (envelope : MessageEnvelope) (random : MessageId)
  | sendEnd (refusal : Option Error)
  | prune
  | sessionClosed
  deriving Repr, DecidableEq

def step (service : MessageService) : Event → MessageService
  | .advance milliseconds => { service with clock := service.clock + milliseconds }
  | .frame frame replies => service.handleFrame hash frame replies
  | .sendBegin envelope random => service.sendBegin envelope random
  | .sendEnd refusal => service.sendEnd refusal
  | .prune => service.prune
  | .sessionClosed => service.handleSessionClosed

/-- A service right after it was attached and given its sinks. -/
def Initial : Prop :=
  ∃ (config : MessageServiceConfig) (limits : Limits) (channelId : UInt32) (clock : Nat)
    (attached : MessageService),
    attach true (.ok channelId) { config := config, limits := limits, clock := clock } =
      .ok attached ∧
    service = { attached with inboundSink := true, ackSink := true }

/-- A run of the service in which every event is allowed when it happens. -/
abbrev Run (allowed : MessageService → Event → Prop) : MessageService → Prop :=
  Machine.Reaches (step hash) Initial allowed

end MessageService

end Heyaki
