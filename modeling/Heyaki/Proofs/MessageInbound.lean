/-
Purpose: what one event does to the receiving side of the message service.

`step_inbound` is the only place where the handlers are unfolded: an event adds
records of no interest here, answers a copy of a live envelope, or admits a new
one.
-/
import Heyaki.Client.MessageService

namespace Heyaki

open Foundation List

/-- The records of the sending side and of frames that were not admitted. -/
def MessageRecord.Quiet : MessageRecord → Prop
  | .accepted _ | .scopePassed _ | .ackSent _ | .received _ | .dispatched _ _ => False
  | _ => True

namespace MessageService

variable {event : Event} {service : MessageService}

/-! ### Pruning -/

theorem observeAck_eq (send : Option Nat) (id : MessageId) (event : MessageDeliveryEvent)
    (error : Option Error) :
    service.observeAck send id event error = { service with
      log := service.log ++
        if service.ackSink then [.delivery send id event error] else [] } := by
  unfold observeAck
  split
  · rfl
  · rw [append_nil]

/-- The delivery events of a list of tracked sends, as the sink sees them. -/
def endings (sink : Bool) (event : MessageDeliveryEvent) (error : Option Error)
    (entries : List (MessageId × PendingAck)) : List MessageRecord :=
  if sink then entries.map fun entry => .delivery (some entry.2.send) entry.1 event error else []

theorem observeAll_eq (event : MessageDeliveryEvent) (error : Option Error)
    (entries : List (MessageId × PendingAck)) :
    observeAll event error entries service = { service with
      log := service.log ++ endings service.ackSink event error entries } := by
  induction entries generalizing service with
  | nil =>
    have none : endings service.ackSink event error [] = [] := by
      unfold endings
      split <;> rfl
    rw [none, append_nil]
    rfl
  | cons entry entries ih =>
    show observeAll event error entries (service.observeAck _ _ _ _) = _
    rw [ih, observeAck_eq]
    unfold endings
    split <;> simp

/-- The accepted envelopes that have not expired. -/
def live (service : MessageService) : SortedMap MessageId DedupEntry :=
  service.dedup.filter fun _ entry => decide (service.clock < entry.expires)

def expiryRecords (service : MessageService) : List MessageRecord :=
  endings service.ackSink .ackTimeout (some (messageServiceError .timeout "ack_ttl_expired"))
    service.expiredAcks

theorem pruneExpired_eq :
    service.pruneExpired = { service with
      dedup := service.live
      pendingAcks := service.pendingAcks.filter fun _ entry =>
        decide (service.clock < entry.expires)
      log := service.log ++ service.expiryRecords } :=
  observeAll_eq ..

theorem quiet_endings {sink : Bool} {event : MessageDeliveryEvent} {error : Option Error}
    {entries : List (MessageId × PendingAck)} :
    ∀ record ∈ endings sink event error entries, record.Quiet := by
  intro record member
  unfold endings at member
  split at member
  · obtain ⟨entry, -, same⟩ := mem_map.mp member
    exact same ▸ trivial
  · cases member

theorem find?_live {id : MessageId} {entry : DedupEntry} :
    service.live.find? id = some entry ↔
      service.dedup.find? id = some entry ∧ service.clock < entry.expires := by
  rw [live, SortedMap.find?_filter, Option.filter_eq_some_iff, decide_eq_true_iff]

/-! ### What an event does to the receiving side -/

/-- The event brings a well-formed envelope to the service. -/
structure Arrives (service : MessageService) (frame : Frame) (replies : FrameReplies)
    (envelope : MessageEnvelope) : Prop where
  attached : service.attached = true
  type : frame.type = FrameType.message.code
  adopted : replies.adopted = none
  parses : parseMessageEnvelope frame.payload service.limits = .ok envelope

variable (envelope : MessageEnvelope)

def ackRecords (accepted : Bool) : List MessageRecord :=
  if envelope.deliveryMode = .peerAcked then
    [if accepted then .ackSent envelope.messageId else .ackSendFailed envelope.messageId]
  else []

def dispatchRecords (dispatched sink : Bool) (clock : Nat) : List MessageRecord :=
  if sink then
    [if dispatched then .dispatched envelope clock else .dispatchRejected envelope.messageId]
  else []

def admissionRecords (replies : FrameReplies) (sink : Bool) (clock : Nat) : List MessageRecord :=
  if replies.scopeCovers then
    .scopePassed envelope.messageId :: (ackRecords envelope replies.ackAccepted ++
      .received envelope.messageId :: dispatchRecords envelope replies.dispatched sink clock)
  else [.scopeRejected envelope.messageId]

/-- The event is not a copy of a live envelope. -/
def Unheard (hash : List UInt8 → List UInt8) (service : MessageService) (event : Event) : Prop :=
  ∀ frame replies envelope entry, event = .frame frame replies →
    service.Arrives frame replies envelope →
    service.live.find? envelope.messageId = some entry → entry.digest ≠ hash frame.payload

inductive InboundStep (hash : List UInt8 → List UInt8) (service : MessageService) :
    Event → MessageService → Prop
  | quiet {event : Event} {after : MessageService} (records : List MessageRecord)
      (unheard : service.Unheard hash event)
      (quiet : ∀ record ∈ records, record.Quiet) (log : after.log = service.log ++ records)
      (dedup : after.dedup = service.dedup ∨ after.dedup = service.live)
      (clock : service.clock ≤ after.clock) (config : after.config = service.config) :
      InboundStep hash service event after
  | duplicate {frame : Frame} {replies : FrameReplies} {after : MessageService}
      {envelope : MessageEnvelope} {entry : DedupEntry} (records : List MessageRecord)
      (arrives : service.Arrives frame replies envelope)
      (held : service.live.find? envelope.messageId = some entry)
      (same : entry.digest = hash frame.payload)
      (quiet : ∀ record ∈ records, record.Quiet)
      (log : after.log = service.log ++ (records ++ ackRecords envelope replies.ackAccepted))
      (dedup : after.dedup = service.live) (clock : after.clock = service.clock)
      (config : after.config = service.config) :
      InboundStep hash service (.frame frame replies) after
  | admitted {frame : Frame} {replies : FrameReplies} {after : MessageService}
      {envelope : MessageEnvelope} (records : List MessageRecord)
      (arrives : service.Arrives frame replies envelope)
      (absent : service.live.find? envelope.messageId = none)
      (quiet : ∀ record ∈ records, record.Quiet)
      (log : after.log = service.log ++ (records ++ .accepted envelope.messageId ::
        admissionRecords envelope replies service.inboundSink service.clock))
      (dedup : after.dedup =
        (makeRoom service.config.dedupCapacity service.clock service.live).insert
          envelope.messageId {
            expires := addMilliseconds service.clock envelope.ttlMilliseconds.toNat
            digest := hash frame.payload
            order := (acceptedIds (service.log ++ records)).length })
      (clock : after.clock = service.clock) (config : after.config = service.config) :
      InboundStep hash service (.frame frame replies) after

theorem sendAckFor_eq (accepted : Bool) :
    (if envelope.deliveryMode = .peerAcked then service.sendAckFor envelope accepted
      else service) =
    service.record (ackRecords envelope accepted) := by
  unfold ackRecords
  split
  · rfl
  · simp [record]

theorem admitEnvelope_eq (digest : List UInt8) (replies : FrameReplies) :
    service.admitEnvelope envelope digest replies = { service with
      dedup := (makeRoom service.config.dedupCapacity service.clock service.dedup).insert
        envelope.messageId {
          expires := addMilliseconds service.clock envelope.ttlMilliseconds.toNat
          digest := digest
          order := (acceptedIds service.log).length }
      log := service.log ++ .accepted envelope.messageId ::
        admissionRecords envelope replies service.inboundSink service.clock } := by
  unfold admitEnvelope admissionRecords dispatchRecords
  dsimp only
  rw [sendAckFor_eq]
  cases replies.scopeCovers with
  | false => simp [storeEnvelope, record]
  | true =>
    unfold deliverToHandler
    cases service.inboundSink with
    | false | true => simp [storeEnvelope, record]

/-- The receiving side of a call that only adds quiet records. -/
structure Quietly (service after : MessageService) : Prop where
  log : ∃ records, after.log = service.log ++ records ∧ ∀ record ∈ records, record.Quiet
  dedup : after.dedup = service.dedup
  clock : after.clock = service.clock
  config : after.config = service.config

theorem Quietly.refl (service : MessageService) : service.Quietly service :=
  ⟨⟨[], (append_nil _).symm, nofun⟩, rfl, rfl, rfl⟩

theorem Quietly.trans {one two three : MessageService} (first : one.Quietly two)
    (second : two.Quietly three) : one.Quietly three := by
  obtain ⟨early, logEarly, quietEarly⟩ := first.log
  obtain ⟨late, logLate, quietLate⟩ := second.log
  exact ⟨⟨early ++ late, by rw [logLate, logEarly, append_assoc],
      forall_mem_append.mpr ⟨quietEarly, quietLate⟩⟩,
    second.dedup.trans first.dedup, second.clock.trans first.clock,
    second.config.trans first.config⟩

theorem quietly_record (entry : MessageRecord) (quiet : entry.Quiet) :
    service.Quietly (service.record [entry]) :=
  ⟨⟨[entry], rfl, forall_mem_singleton.mpr quiet⟩, rfl, rfl, rfl⟩

theorem quietly_observeAck (send : Option Nat) (id : MessageId) (event : MessageDeliveryEvent)
    (error : Option Error) (service : MessageService) :
    service.Quietly (service.observeAck send id event error) := by
  unfold observeAck
  split
  · exact quietly_record (.delivery ..) trivial
  · exact .refl service

theorem quietly_ageOut (service : MessageService) : service.Quietly service.ageOut := by
  unfold ageOut
  split
  · split
    · exact .refl service
    rename_i oldest pending _
    have observed := quietly_observeAck (some pending.send) oldest .ackTimeout
      (some (messageServiceError .timeout "ack_tracking_capacity")) service
    exact { observed with }
  · exact .refl service

theorem quietly_trackSend (service : MessageService) :
    service.Quietly (service.trackSend envelope) := by
  have aged := quietly_ageOut service
  refine Quietly.trans ?_ (quietly_observeAck ..)
  exact { aged with }

theorem quietly_handleInboundAck (frame : Frame) :
    service.Quietly (service.handleInboundAck frame) := by
  unfold handleInboundAck
  split
  · exact quietly_record .invalidEnvelope trivial
  rename_i ack _
  split
  · exact quietly_record (.unknownAck _) trivial
  have erased : service.Quietly
      { service with pendingAcks := service.pendingAcks.erase ack.messageId } :=
    { Quietly.refl service with }
  split
  · exact erased.trans (quietly_observeAck ..)
  · exact erased.trans (quietly_observeAck ..)

theorem quietly_sendBegin (random : MessageId) :
    service.Quietly (service.sendBegin envelope random) := by
  unfold sendBegin
  split
  · exact .refl service
  dsimp only
  split
  · exact (quietly_record (.sendRejected _) trivial).trans (quietly_observeAck ..)
  · exact { Quietly.refl service with }

variable (hash : List UInt8 → List UInt8) {after : MessageService}

theorem Quietly.inbound (quietly : service.Quietly after) (unheard : service.Unheard hash event) :
    InboundStep hash service event after := by
  obtain ⟨records, log, quiet⟩ := quietly.log
  exact .quiet records unheard quiet log (.inl quietly.dedup) (Nat.le_of_eq quietly.clock.symm)
    quietly.config

/-- A pruning followed by a call that only adds quiet records. -/
theorem Quietly.inbound_pruned {acks : SortedMap MessageId PendingAck}
    (quietly : Quietly { service with
      dedup := service.live, pendingAcks := acks, log := service.log ++ service.expiryRecords } after)
    (unheard : service.Unheard hash event) : InboundStep hash service event after := by
  obtain ⟨records, log, quiet⟩ := quietly.log
  exact .quiet (service.expiryRecords ++ records) unheard
    (forall_mem_append.mpr ⟨quiet_endings, quiet⟩) (log.trans (append_assoc ..))
    (.inr quietly.dedup) (Nat.le_of_eq quietly.clock.symm) quietly.config

theorem handleInboundMessage_inbound {frame : Frame} {replies : FrameReplies}
    (attached : service.attached = true) (type : frame.type = FrameType.message.code)
    (adopted : replies.adopted = none) :
    InboundStep hash service (.frame frame replies)
      (service.handleInboundMessage hash frame replies) := by
  unfold handleInboundMessage
  rw [pruneExpired_eq]
  dsimp only
  split
  · rename_i fails
    refine (quietly_record .invalidEnvelope trivial).inbound_pruned hash ?_
    rintro _ _ _ _ ⟨⟩ arrives
    exact absurd (arrives.parses.symm.trans fails) nofun
  · rename_i envelope parses
    have arrives : service.Arrives frame replies envelope := ⟨attached, type, adopted, parses⟩
    unfold handleEnvelope
    split
    · rename_i entry held
      -- Nothing expired survives the pruning, so that an entry found is live.
      rw [if_pos (find?_live.mp held).2]
      split
      · rename_i same
        have quiet : (MessageRecord.duplicate envelope.messageId).Quiet := trivial
        rw [sendAckFor_eq]
        exact .duplicate (service.expiryRecords ++ [_]) arrives held same
          (forall_mem_append.mpr ⟨quiet_endings, forall_mem_singleton.mpr quiet⟩)
          (by simp [record]) rfl rfl rfl
      · rename_i different
        refine (quietly_record (.conflict ..) trivial).inbound_pruned hash ?_
        rintro _ _ other found ⟨⟩ again isLive
        cases again.parses.symm.trans parses
        cases isLive.symm.trans held
        exact different
    · rename_i absent
      rw [admitEnvelope_eq]
      exact .admitted service.expiryRecords arrives absent quiet_endings (append_assoc ..)
        rfl rfl rfl

theorem sendEnd_inbound (refusal : Option Error) :
    InboundStep hash service (.sendEnd refusal) (service.sendEnd refusal) := by
  have unheard : service.Unheard hash (.sendEnd refusal) := nofun
  unfold sendEnd
  split
  · exact (Quietly.refl service).inbound hash unheard
  rename_i envelope sends _
  have popped : service.Quietly { service with sends := sends } := { Quietly.refl service with }
  dsimp only
  split
  · have rejected := popped.trans (quietly_record (.sendRejected envelope.messageId) trivial)
    exact (rejected.trans (quietly_observeAck ..)).inbound hash unheard
  split
  · -- The pruning comes after a record of the send; live entries do not depend on it.
    have tracked := quietly_trackSend envelope
      (({ service with sends := sends } : MessageService).record
        [.sentPeerAcked envelope.messageId]).pruneExpired
    rw [pruneExpired_eq] at tracked
    obtain ⟨records, log, quiet⟩ := tracked.log
    rw [pruneExpired_eq]
    refine .quiet (.sentPeerAcked envelope.messageId :: (service.expiryRecords ++ records))
      unheard ?_ (log.trans ?_) (.inr tracked.dedup)
      (Nat.le_of_eq tracked.clock.symm) tracked.config
    · exact forall_mem_cons.mpr ⟨trivial, forall_mem_append.mpr ⟨quiet_endings, quiet⟩⟩
    · simp only [record, append_assoc, cons_append, nil_append]
      rfl
  · exact (popped.trans (quietly_record (.sentBestEffort _) trivial)).inbound hash unheard

theorem handleFrame_inbound (frame : Frame) (replies : FrameReplies) :
    InboundStep hash service (.frame frame replies) (service.handleFrame hash frame replies) := by
  unfold handleFrame admitFrame
  by_cases attached : service.attached = true
  · simp only [attached, Bool.not_true, Bool.false_eq_true, if_false]
    by_cases type : frame.type = FrameType.message.code
    · rw [if_pos type]
      cases adopted : replies.adopted with
      | some error =>
        refine (Quietly.refl service).inbound hash ?_
        rintro _ _ _ _ ⟨⟩ arrives
        exact absurd (arrives.adopted.symm.trans adopted) nofun
      | none => exact handleInboundMessage_inbound hash attached type adopted
    · have unheard : service.Unheard hash (.frame frame replies) := by
        rintro _ _ _ _ ⟨⟩ arrives
        exact absurd arrives.type type
      rw [if_neg type]
      by_cases ack : frame.type = FrameType.messageAck.code
      · rw [if_pos ack]
        exact (quietly_handleInboundAck frame).inbound hash unheard
      · rw [if_neg ack]
        exact (Quietly.refl service).inbound hash unheard
  · have unheard : service.Unheard hash (.frame frame replies) := by
      rintro _ _ _ _ ⟨⟩ arrives
      exact absurd arrives.attached attached
    simp only [attached, Bool.not_false, if_true]
    exact (Quietly.refl service).inbound hash unheard

theorem unheard_of_ne (other : ∀ frame replies, event ≠ .frame frame replies) :
    service.Unheard hash event :=
  fun frame replies _ _ same => absurd same (other frame replies)

theorem step_inbound (event : Event) :
    InboundStep hash service event (step hash service event) := by
  cases event with
  | advance milliseconds =>
    exact .quiet [] (unheard_of_ne hash nofun) nofun (append_nil _).symm (.inl rfl)
      (Nat.le_add_right ..) rfl
  | frame frame replies => exact handleFrame_inbound hash frame replies
  | sendBegin envelope random =>
    exact (quietly_sendBegin envelope random).inbound hash (unheard_of_ne hash nofun)
  | sendEnd refusal => exact sendEnd_inbound hash refusal
  | prune =>
    show InboundStep hash service .prune service.pruneExpired
    rw [pruneExpired_eq]
    exact (Quietly.refl _).inbound_pruned hash (unheard_of_ne hash nofun)
  | sessionClosed =>
    have quietly : service.Quietly service.handleSessionClosed := by
      unfold handleSessionClosed
      rw [observeAll_eq]
      exact ⟨⟨_, rfl, quiet_endings⟩, rfl, rfl, rfl⟩
    exact quietly.inbound hash (unheard_of_ne hash nofun)

theorem initial_eq (initial : Initial service) :
    ∃ config limits channelId clock, configInvalid config = false ∧
      service = { config, limits, channelId, clock, attached := true, inboundSink := true
                  ackSink := true } := by
  obtain ⟨config, limits, channelId, clock, attached, attachedEq, rfl⟩ := initial
  simp only [attach, Bool.false_eq_true, if_false, Bool.not_true] at attachedEq
  split at attachedEq
  · cases attachedEq
  · rename_i valid
    cases attachedEq
    exact ⟨config, limits, channelId, clock, Bool.eq_false_iff.mpr valid, rfl⟩

end MessageService

end Heyaki
