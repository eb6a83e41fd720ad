/-
Purpose: every acknowledged send that succeeds is finished exactly once.

An event is a sequence of moves of the sending side: tracked sends are finished
with one event each, or a new send is tracked.  For each send, the terminal
events reported and the entries still tracked add up to one.

Main exports: `Move`, `message_delivery_disciplined`
-/
import Heyaki.Proofs.MessageDedup

namespace Heyaki

open Foundation SortedMap MessageRecord History List

def MessageRecord.Untracked : MessageRecord → Prop
  | .delivery (some _) _ _ _ => False
  | _ => True

def MessageRecord.ends (send : Nat) : MessageRecord → Bool
  | .delivery (some other) _ event _ => other == send && event.terminal
  | _ => false

def MessageRecord.queues (send : Nat) : MessageRecord → Bool
  | .delivery (some other) _ event _ => other == send && event == .queued
  | _ => false

namespace MessageService

variable {replies : FrameReplies} {service after : MessageService} {records : List MessageRecord}
  (send : Nat)

def terminals (log : List MessageRecord) : Nat := log.countP (·.ends send)

def announcements (log : List MessageRecord) : Nat := log.countP (·.queues send)

def trackedAs (entries : List (MessageId × PendingAck)) : Nat :=
  entries.countP fun entry => entry.2.send == send

/-- The sends whose acknowledgement is still awaited. -/
def tracked (service : MessageService) : SortedMap MessageId PendingAck :=
  service.pendingAcks.filter fun _ entry => decide (service.clock < entry.expires)

def ageOutError : Error := messageServiceError .timeout "ack_tracking_capacity"

/-! ### Moves of the sending side -/

inductive Move (service : MessageService) : MessageService → Prop
  | idle {after : MessageService} (records : List MessageRecord)
      (untracked : ∀ record ∈ records, record.Untracked)
      (log : after.log = service.log ++ records) (pending : after.pendingAcks = service.pendingAcks)
      (sent : after.sent = service.sent) (clock : service.clock ≤ after.clock)
      (closed : after.closed = service.closed) (sink : after.ackSink = service.ackSink) :
      Move service after
  | finish {after : MessageService} (gone : MessageId → PendingAck → Bool)
      (event : MessageDeliveryEvent) (error : Option Error) (terminal : event.terminal = true)
      (oldest : error = some ageOutError → ∀ id pending, service.pendingAcks.find? id = some pending →
        gone id pending = true → ∀ other later, service.pendingAcks.find? other = some later →
        pending.send ≤ later.send)
      (log : after.log = service.log ++ endings service.ackSink event error
        (service.pendingAcks.entries.filter fun entry => gone entry.1 entry.2))
      (pending : after.pendingAcks = service.pendingAcks.filter fun id entry => !gone id entry)
      (sent : after.sent = service.sent) (clock : after.clock = service.clock)
      (closed : after.closed = true → service.closed = true ∨ ∀ id entry, gone id entry = true)
      (sink : after.ackSink = service.ackSink) :
      Move service after
  | track {after : MessageService} (id : MessageId) (ttl : Nat)
      (absent : service.pendingAcks.find? id = none) (noWrap : service.clock + ttl < 2 ^ 64)
      (running : service.closed = false)
      (log : after.log = service.log ++
        if service.ackSink then [.delivery (some service.sent.length) id .queued none] else [])
      (pending : after.pendingAcks = service.pendingAcks.insert id
        { expires := service.clock + ttl, send := service.sent.length })
      (sent : after.sent = service.sent ++ [{ id := id, time := service.clock, ttl := ttl }])
      (clock : after.clock = service.clock) (closed : after.closed = service.closed)
      (sink : after.ackSink = service.ackSink) :
      Move service after

abbrev Moves : MessageService → MessageService → Prop := Relation.ReflTransGen Move

theorem move_record (record : MessageRecord) (untracked : record.Untracked) :
    service.Move (service.record [record]) :=
  .idle [record] (fun _ member => mem_singleton.mp member ▸ untracked) rfl rfl rfl
    (Nat.le_refl _) rfl rfl

theorem move_of_same (log : after.log = service.log)
    (pending : after.pendingAcks = service.pendingAcks) (sent : after.sent = service.sent)
    (clock : after.clock = service.clock) (closed : after.closed = service.closed)
    (sink : after.ackSink = service.ackSink) : service.Move after :=
  .idle [] nofun (by rw [log, append_nil]) pending sent (Nat.le_of_eq clock.symm) closed sink

theorem move_sendFailed (id : MessageId) (error : Option Error) :
    service.Move (service.observeAck none id .sendFailed error) := by
  rw [observeAck_eq]
  refine .idle _ ?_ rfl rfl rfl (Nat.le_refl _) rfl rfl
  intro record member
  split at member
  · exact mem_singleton.mp member ▸ trivial
  · cases member

theorem move_pruneExpired : service.Move service.pruneExpired := by
  have kept : service.tracked = service.pendingAcks.filter
      fun _ entry => !decide (entry.expires ≤ service.clock) :=
    filter_congr fun _ entry => by
      rw [← decide_not, decide_eq_decide]
      exact Nat.not_le.symm
  rw [pruneExpired_eq]
  exact .finish (fun _ entry => decide (entry.expires ≤ service.clock)) .ackTimeout
    (some (messageServiceError .timeout "ack_ttl_expired")) rfl nofun rfl kept rfl rfl .inl rfl

theorem move_handleSessionClosed : service.Move service.handleSessionClosed := by
  unfold handleSessionClosed
  rw [observeAll_eq]
  refine .finish (fun _ _ => true) .sessionClosed
    (some (messageServiceError .transport "session_closed")) rfl nofun ?_ ?_ rfl rfl
    (fun _ => .inr fun _ _ => rfl) rfl
  · simp
  · exact (filter_eq_empty fun _ _ => rfl).symm

theorem move_finishOne {id : MessageId} {pending : PendingAck}
    (found : service.pendingAcks.find? id = some pending) (event : MessageDeliveryEvent)
    (error : Option Error) (terminal : event.terminal = true)
    (oldest : error = some ageOutError → ∀ other later,
      service.pendingAcks.find? other = some later → pending.send ≤ later.send) :
    service.Move (observeAck (some pending.send) id event error
      { service with pendingAcks := service.pendingAcks.erase id }) := by
  have kept : service.pendingAcks.erase id =
      service.pendingAcks.filter fun other _ => !decide (other = id) :=
    filter_congr fun other _ => by rw [← decide_not, decide_eq_decide]
  rw [observeAck_eq]
  refine .finish (fun other _ => decide (other = id)) event error terminal ?_ ?_ kept rfl rfl .inl rfl
  · intro aged other later otherFound isGone
    have same : other = id := of_decide_eq_true isGone
    subst same
    cases found.symm.trans otherFound
    exact oldest aged
  · rw [filter_entries_key found fun _ => decide_eq_true_iff]
    rfl

/-! ### Events as moves -/

variable (envelope : MessageEnvelope)

theorem untracked_of_admission {clock : Nat} {record : MessageRecord}
    (own : OfAdmission envelope clock record) : record.Untracked := by
  cases record with
  | delivery => exact own.elim
  | _ => trivial

theorem untracked_admission (sink : Bool) (clock : Nat) :
    ∀ record ∈ accepted envelope.messageId ::
      admissionRecords envelope replies sink clock, record.Untracked := by
  intro record member
  rcases mem_cons.mp member with first | member
  · exact first ▸ trivial
  · exact untracked_of_admission envelope (ofAdmission_of_mem member)

theorem move_admitEnvelope (digest : List UInt8) :
    service.Move (service.admitEnvelope envelope digest replies) := by
  rw [admitEnvelope_eq]
  exact .idle _ (untracked_admission _ _ _) rfl rfl rfl (Nat.le_refl _) rfl rfl

theorem move_handleEnvelope (digest : List UInt8) (channelId : UInt32) :
    service.Move (service.handleEnvelope envelope digest channelId replies) := by
  unfold handleEnvelope
  split
  · split
    · split
      · rw [sendAckFor_eq]
        refine .idle (.duplicate envelope.messageId ::
          ackRecords envelope replies.ackAccepted) ?_ (append_assoc ..) rfl rfl
          (Nat.le_refl _) rfl rfl
        intro record member
        rcases mem_cons.mp member with first | ack
        · exact first ▸ trivial
        · have own : OfAdmission envelope service.clock record :=
            ofAdmission_of_ack (ofAck_of_mem ack)
          exact untracked_of_admission envelope own
      · exact move_record (.conflict _ _) trivial
    · rw [admitEnvelope_eq]
      exact .idle _ (untracked_admission _ _ _) rfl rfl rfl (Nat.le_refl _) rfl rfl
  · exact move_admitEnvelope envelope digest

variable (hash : List UInt8 → List UInt8)

theorem move_handleInboundAck (frame : Frame) : service.Move (service.handleInboundAck frame) := by
  unfold handleInboundAck
  split
  · exact move_record .invalidEnvelope trivial
  split
  · exact move_record (.unknownAck _) trivial
  rename_i pending found
  split
  · exact move_finishOne found .acked none rfl nofun
  · exact move_finishOne found .peerRejected _ rfl nofun

theorem moves_handleFrame (frame : Frame) :
    Moves service (service.handleFrame hash frame replies) := by
  unfold handleFrame admitFrame
  split
  · exact .refl
  rename_i admitted
  split at admitted
  · cases admitted
  split at admitted
  · split at admitted
    · cases admitted
    · cases admitted
      refine .head move_pruneExpired (.single ?_)
      unfold handleInboundMessage
      dsimp only
      split
      · exact move_record .invalidEnvelope trivial
      · exact move_handleEnvelope ..
  · split at admitted
    · cases admitted
      exact .single (move_handleInboundAck ..)
    · cases admitted

theorem moves_sendBegin (random : MessageId) :
    Moves service (service.sendBegin envelope random) := by
  unfold sendBegin
  split
  · exact .refl
  dsimp only
  split
  · exact .head (move_record (.sendRejected _) trivial) (.single (move_sendFailed ..))
  · exact .single (move_of_same rfl rfl rfl rfl rfl rfl)

/-- An acknowledged send is accepted only while the session runs, for an id that
is not tracked, with a table whose beginning is its oldest entry if it is full,
and its expiry does not wrap. -/
def TracksInOrder (service : MessageService) : Event → Prop
  | .sendEnd none => ∀ envelope rest, service.sends = envelope :: rest →
      envelope.deliveryMode = .peerAcked →
      service.closed = false ∧
      service.clock + envelope.ttlMilliseconds.toNat < 2 ^ 64 ∧
      service.tracked.find? envelope.messageId = none ∧
      (service.config.pendingAckCapacity ≤ service.tracked.size →
        ∀ id first, service.tracked.first? = some (id, first) →
        ∀ other later, service.tracked.find? other = some later → first.send ≤ later.send)
  | _ => True

theorem find?_ageOut {id : MessageId} (absent : service.pendingAcks.find? id = none) :
    service.ageOut.pendingAcks.find? id = none := by
  unfold ageOut
  split
  · split
    · exact absent
    · rw [find?_erase, absent]
      split <;> rfl
  · exact absent

theorem ageOut_closed (service : MessageService) : service.ageOut.closed = service.closed := by
  unfold ageOut
  split
  · split
    · rfl
    · rw [observeAck_eq]
  · rfl

section

variable (oldest : service.config.pendingAckCapacity ≤ service.pendingAcks.size →
  ∀ id first, service.pendingAcks.first? = some (id, first) →
  ∀ other later, service.pendingAcks.find? other = some later → first.send ≤ later.send)

include oldest

theorem moves_ageOut : Moves service service.ageOut := by
  unfold ageOut
  split
  · rename_i full
    split
    · exact .refl
    rename_i id pending first
    have move := move_finishOne (find?_of_first? first) .ackTimeout
      (some ageOutError) rfl fun _ => oldest full id pending first
    rw [observeAck_eq] at move ⊢
    exact .single move
  · exact .refl

theorem moves_trackSend {envelope : MessageEnvelope} (running : service.closed = false)
    (noWrap : service.clock + envelope.ttlMilliseconds.toNat < 2 ^ 64)
    (absent : service.pendingAcks.find? envelope.messageId = none) :
    Moves service (service.trackSend envelope) := by
  refine (moves_ageOut oldest).tail ?_
  unfold trackSend
  rw [observeAck_eq]
  have fits : service.ageOut.clock + envelope.ttlMilliseconds.toNat < 2 ^ 64 :=
    (quietly_ageOut service).clock ▸ noWrap
  refine .track envelope.messageId envelope.ttlMilliseconds.toNat (find?_ageOut absent) fits
    ((ageOut_closed service).trans running) rfl ?_ rfl rfl rfl rfl
  rw [addMilliseconds, Nat.mod_eq_of_lt fits]

end

theorem moves_sendEnd {refusal : Option Error} (safe : service.TracksInOrder (.sendEnd refusal)) :
    Moves service (service.sendEnd refusal) := by
  unfold sendEnd
  split
  · exact .refl
  rename_i envelope sends waiting
  have popped : service.Move { service with sends := sends } := move_of_same rfl rfl rfl rfl rfl rfl
  refine .head popped ?_
  dsimp only
  split
  · exact .head (move_record (.sendRejected _) trivial) (.single (move_sendFailed ..))
  split
  · rename_i mode
    obtain ⟨running, noWrap, absent, oldest⟩ := safe envelope sends waiting mode
    refine .head (move_record (.sentPeerAcked envelope.messageId) trivial) (.head move_pruneExpired ?_)
    rw [pruneExpired_eq]
    exact moves_trackSend oldest running noWrap absent
  · exact .single (move_record (.sentBestEffort _) trivial)

theorem step_moves {event : Event} (safe : service.TracksInOrder event) :
    Moves service (step hash service event) := by
  cases event with
  | advance milliseconds =>
    exact .single (.idle [] nofun (append_nil _).symm rfl rfl (Nat.le_add_right ..) rfl rfl)
  | frame frame replies => exact moves_handleFrame hash frame
  | sendBegin envelope random => exact moves_sendBegin envelope random
  | sendEnd refusal => exact moves_sendEnd safe
  | prune => exact .single move_pruneExpired
  | sessionClosed => exact .single move_handleSessionClosed

/-! ### Counting -/

theorem terminals_append (one two : List MessageRecord) :
    terminals send (one ++ two) = terminals send one + terminals send two :=
  countP_append

theorem announcements_append (one two : List MessageRecord) :
    announcements send (one ++ two) = announcements send one + announcements send two :=
  countP_append

theorem terminals_untracked (untracked : ∀ record ∈ records, record.Untracked) (send : Nat) :
    terminals send records = 0 := by
  refine countP_eq_zero.mpr fun record member => ?_
  have quiet := untracked record member
  unfold ends
  split
  · exact quiet.elim
  · nofun

theorem announcements_untracked (untracked : ∀ record ∈ records, record.Untracked) (send : Nat) :
    announcements send records = 0 := by
  refine countP_eq_zero.mpr fun record member => ?_
  have quiet := untracked record member
  unfold queues
  split
  · exact quiet.elim
  · nofun

variable {event : MessageDeliveryEvent} {error : Option Error}

theorem terminals_endings (terminal : event.terminal = true) (send : Nat)
    (entries : List (MessageId × PendingAck)) :
    terminals send (endings true event error entries) = trackedAs send entries := by
  unfold terminals endings trackedAs
  rw [if_pos rfl, countP_map]
  congr 1
  funext entry
  simp [ends, terminal]

theorem announcements_endings (terminal : event.terminal = true) (send : Nat)
    (entries : List (MessageId × PendingAck)) :
    announcements send (endings true event error entries) = 0 := by
  refine countP_eq_zero.mpr fun record member => ?_
  obtain ⟨entry, -, rfl⟩ := mem_map.mp member
  have notQueued : event ≠ .queued := by
    rintro rfl
    cases terminal
  simp [queues, notQueued]

theorem trackedAs_filter (gone : MessageId → PendingAck → Bool)
    (entries : List (MessageId × PendingAck)) :
    trackedAs send (entries.filter fun entry => gone entry.1 entry.2) +
      trackedAs send (entries.filter fun entry => !gone entry.1 entry.2) =
    trackedAs send entries :=
  (countP_eq_countP_filter_add entries _ _).symm

/-! ### The account of every send -/

structure Accounts (service : MessageService) : Prop where
  sink : service.ackSink = true
  entry : ∀ id pending, service.pendingAcks.find? id = some pending →
    ∃ sent, service.sent[pending.send]? = some sent ∧ pending.expires = sent.time + sent.ttl ∧
      .delivery (some pending.send) id .queued none ∈ service.log
  balance : ∀ send, terminals send service.log + trackedAs send service.pendingAcks.entries =
    if send < service.sent.length then 1 else 0
  announced : ∀ send, announcements send service.log =
    if send < service.sent.length then 1 else 0
  ordered : ∀ before send id event error after,
    service.log = before ++ .delivery (some send) id event error :: after →
    event.terminal = true → .delivery (some send) id .queued none ∈ before
  aged : ∀ before send id event after,
    service.log = before ++ .delivery (some send) id event (some ageOutError) :: after →
    ∀ earlier < send, terminals earlier before = 1
  closed : service.closed = true → service.pendingAcks.entries = []

section

variable (accounts : service.Accounts)

include accounts

theorem Accounts.finish {gone : MessageId → PendingAck → Bool} (terminal : event.terminal = true)
    (oldest : error = some ageOutError → ∀ id pending, service.pendingAcks.find? id = some pending →
      gone id pending = true → ∀ other later, service.pendingAcks.find? other = some later →
      pending.send ≤ later.send)
    (log : after.log = service.log ++ endings service.ackSink event error
      (service.pendingAcks.entries.filter fun entry => gone entry.1 entry.2))
    (pending : after.pendingAcks = service.pendingAcks.filter fun id entry => !gone id entry)
    (sent : after.sent = service.sent)
    (closed : after.closed = true → service.closed = true ∨ ∀ id entry, gone id entry = true)
    (sink : after.ackSink = service.ackSink) : after.Accounts := by
  have kept : after.pendingAcks.entries =
      service.pendingAcks.entries.filter fun entry => !gone entry.1 entry.2 := by
    rw [pending]
    rfl
  rw [accounts.sink] at log
  refine ⟨sink.trans accounts.sink, ?_, ?_, ?_, ?_, ?_, ?_⟩
  · intro id entry found
    rw [pending, SortedMap.find?_filter, Option.filter_eq_some_iff] at found
    obtain ⟨message, position, expires, queued⟩ := accounts.entry id entry found.1
    exact ⟨message, sent ▸ position, expires, log ▸ List.mem_append_left _ queued⟩
  · intro send
    have conserved := trackedAs_filter send gone service.pendingAcks.entries
    have balance := accounts.balance send
    rw [log, kept, sent, terminals_append, terminals_endings terminal]
    omega
  · intro send
    rw [log, sent, announcements_append, announcements_endings terminal, Nat.add_zero]
    exact accounts.announced send
  · rw [log]
    intro before send id other otherError rest split isTerminal
    rcases split_append split with ⟨old, oldLog, -⟩ | ⟨front, beforeEq, new⟩
    · exact accounts.ordered before send id other otherError old oldLog isTerminal
    obtain ⟨entry, inEntries, same⟩ :=
      List.mem_map.mp (new ▸ List.mem_append_right front (.head rest))
    cases same
    have found := mem_entries_iff.mp (List.mem_filter.mp inEntries).1
    obtain ⟨-, -, -, queued⟩ := accounts.entry _ _ found
    exact beforeEq ▸ List.mem_append_left front queued
  · rw [log]
    intro before send id other rest split earlier below
    rcases split_append split with ⟨old, oldLog, -⟩ | ⟨front, beforeEq, new⟩
    · exact accounts.aged before send id other old oldLog earlier below
    obtain ⟨entry, inEntries, same⟩ :=
      List.mem_map.mp (new ▸ List.mem_append_right front (.head rest))
    cases same
    obtain ⟨inTable, isGone⟩ := List.mem_filter.mp inEntries
    have found := mem_entries_iff.mp inTable
    -- Everything tracked is at least as young as the send that is aged out.
    have untracked : trackedAs earlier service.pendingAcks.entries = 0 := by
      refine List.countP_eq_zero.mpr fun later member => ?_
      have younger := oldest rfl _ _ found isGone _ _ (mem_entries_iff.mp member)
      simp only [beq_iff_eq]
      omega
    have noneFront : terminals earlier front = 0 := by
      have whole := trackedAs_filter earlier gone service.pendingAcks.entries
      have total : terminals earlier (endings true _ (some ageOutError) _) = _ :=
        terminals_endings terminal earlier
          (service.pendingAcks.entries.filter fun entry => gone entry.1 entry.2)
      rw [new, terminals_append] at total
      omega
    have balance := accounts.balance earlier
    obtain ⟨_, position, -, -⟩ := accounts.entry _ _ found
    rw [if_pos (Nat.lt_trans below (List.getElem?_eq_some_iff.mp position).1)] at balance
    rw [beforeEq, terminals_append]
    omega
  · intro isClosed
    rw [kept]
    rcases closed isClosed with before | all
    · rw [accounts.closed before]
      rfl
    · exact List.filter_eq_nil_iff.mpr fun entry _ => by simp [all entry.1 entry.2]

theorem Accounts.track {id : MessageId} {ttl : Nat}
    (absent : service.pendingAcks.find? id = none) (running : service.closed = false)
    (log : after.log = service.log ++
      if service.ackSink then [.delivery (some service.sent.length) id .queued none] else [])
    (pending : after.pendingAcks = service.pendingAcks.insert id
      { expires := service.clock + ttl, send := service.sent.length })
    (sent : after.sent = service.sent ++ [{ id := id, time := service.clock, ttl := ttl }])
    (closed : after.closed = service.closed) (sink : after.ackSink = service.ackSink) :
    after.Accounts := by
  rw [accounts.sink, if_pos rfl] at log
  have longer : after.sent.length = service.sent.length + 1 := by
    rw [sent, length_append]
    rfl
  have newTracked (send : Nat) : trackedAs send after.pendingAcks.entries =
      trackedAs send service.pendingAcks.entries +
        if service.sent.length = send then 1 else 0 := by
    unfold trackedAs
    rw [pending, (entries_insert_perm _ absent).countP_eq, countP_cons]
    simp only [beq_iff_eq]
  refine ⟨sink.trans accounts.sink, ?_, ?_, ?_, ?_, ?_, ?_⟩
  · intro other entry found
    rw [pending] at found
    rcases find?_of_insert found with ⟨rfl, rfl⟩ | ⟨-, old⟩
    · refine ⟨_, sent ▸ getElem?_concat_length .., rfl, ?_⟩
      rw [log]
      exact mem_append_right _ (.head _)
    · obtain ⟨message, position, expires, queued⟩ := accounts.entry other entry old
      refine ⟨message, ?_, expires, log ▸ mem_append_left _ queued⟩
      rw [sent, List.getElem?_append_left (List.getElem?_eq_some_iff.mp position).1]
      exact position
  · intro send
    have balance := accounts.balance send
    have none : terminals send [delivery (some service.sent.length) id .queued none] = 0 := by
      simp [terminals, ends, MessageDeliveryEvent.terminal]
    rw [log, newTracked, longer, terminals_append, none]
    split at balance <;> split <;> split <;> omega
  · intro send
    have announced := accounts.announced send
    have one : announcements send
        [delivery (some service.sent.length) id .queued none] =
        if service.sent.length = send then 1 else 0 := by
      simp [announcements, queues, countP_cons]
    rw [log, longer, announcements_append, one]
    split at announced <;> split <;> split <;> omega
  · rw [log]
    intro before send other event error rest split isTerminal
    rcases split_append split with ⟨old, oldLog, -⟩ | ⟨front, -, new⟩
    · exact accounts.ordered before send other event error old oldLog isTerminal
    · have same := mem_singleton.mp (new ▸ mem_append_right front (.head rest))
      cases same
      cases isTerminal
  · rw [log]
    intro before send other event rest split
    rcases split_append split with ⟨old, oldLog, -⟩ | ⟨front, -, new⟩
    · exact accounts.aged before send other event old oldLog
    · cases mem_singleton.mp (new ▸ mem_append_right front (.head rest))
  · rw [closed, running]
    nofun

theorem Accounts.move (move : service.Move after) : after.Accounts := by
  cases move with
  | idle records untracked log pending sent clock closed sink =>
    have noDelivery : ∀ send id event error,
        delivery (some send) id event error ∉ records :=
      fun _ _ _ _ member => untracked _ member
    refine ⟨sink.trans accounts.sink, ?_, ?_, ?_, ?_, ?_, ?_⟩
    · rw [pending, sent, log]
      intro id entry found
      obtain ⟨message, position, expires, queued⟩ := accounts.entry id entry found
      exact ⟨message, position, expires, mem_append_left records queued⟩
    · intro send
      rw [log, pending, sent, terminals_append, terminals_untracked untracked, Nat.add_zero]
      exact accounts.balance send
    · intro send
      rw [log, sent, announcements_append, announcements_untracked untracked, Nat.add_zero]
      exact accounts.announced send
    · rw [log]
      intro before send id event error rest split terminal
      obtain ⟨old, oldLog, -⟩ := split_append_of_not_mem split (noDelivery send id event error)
      exact accounts.ordered before send id event error old oldLog terminal
    · rw [log]
      intro before send id event rest split
      obtain ⟨old, oldLog, -⟩ :=
        split_append_of_not_mem split (noDelivery send id event (some ageOutError))
      exact accounts.aged before send id event old oldLog
    · rw [closed, pending]
      exact accounts.closed
  | finish gone event error terminal oldest log pending sent clock closed sink =>
    exact accounts.finish terminal oldest log pending sent closed sink
  | track id ttl absent noWrap running log pending sent clock closed sink =>
    exact accounts.track absent running log pending sent closed sink

theorem Accounts.moves (moves : Moves service after) : after.Accounts := by
  induction moves with
  | refl => exact accounts
  | tail _ move ih => exact ih.move move

end

theorem accounts_initial (initial : Initial service) : service.Accounts := by
  obtain ⟨config, limits, channelId, clock, -, rfl⟩ := initial_eq initial
  exact {
    sink := rfl
    entry := fun _ _ found => by cases found
    balance := fun _ => rfl
    announced := fun _ => rfl
    ordered := fun before _ _ _ _ _ split => by cases before <;> cases split
    aged := fun before _ _ _ _ split => by cases before <;> cases split
    closed := fun _ => rfl }

theorem accounts_run {hash : List UInt8 → List UInt8} (run : Run hash TracksInOrder service) :
    service.Accounts :=
  run.invariant (fun _ => accounts_initial) fun _ _ accounts safe =>
    accounts.moves (step_moves hash safe)

/-- Nothing is tracked past its time to live once the table was pruned. -/
theorem Accounts.trackedAs_prune (accounts : service.Accounts) {send : Nat} {message : SentMessage}
    (sent : service.sent[send]? = some message)
    (expired : message.time + message.ttl ≤ service.clock) :
    trackedAs send service.prune.pendingAcks.entries = 0 := by
  refine List.countP_eq_zero.mpr fun entry member same => ?_
  have found := mem_entries_iff.mp member
  rw [prune, pruneExpired_eq, SortedMap.find?_filter, Option.filter_eq_some_iff] at found
  obtain ⟨other, position, expires, -⟩ := accounts.entry _ _ found.1
  have running := of_decide_eq_true found.2
  rw [eq_of_beq same, sent] at position
  cases position
  omega

/-- What the sender of acknowledged messages can rely on. -/
structure DeliveryDisciplined (service : MessageService) : Prop where
  /-- A send that was accepted is announced once and finished at most once. -/
  once : ∀ send < service.sent.length,
    announcements send service.log = 1 ∧ terminals send service.log ≤ 1
  /-- It is finished when the session has closed. -/
  closed : service.closed = true → ∀ send < service.sent.length, terminals send service.log = 1
  /-- It is finished by the first sweep behind its time to live. -/
  expired : ∀ send message, service.sent[send]? = some message →
    message.time + message.ttl ≤ service.clock → terminals send service.prune.log = 1
  /-- It is finished behind its announcement. -/
  ordered : ∀ before send id event error after,
    service.log = before ++ .delivery (some send) id event error :: after →
    event.terminal = true → .delivery (some send) id .queued none ∈ before
  /-- It is given up for want of room only if all earlier ones are finished. -/
  aged : ∀ before send id event after,
    service.log = before ++ .delivery (some send) id event (some ageOutError) :: after →
    ∀ earlier < send, terminals earlier before = 1

theorem message_delivery_disciplined {hash : List UInt8 → List UInt8} {service : MessageService}
    (run : Run hash TracksInOrder service) : service.DeliveryDisciplined := by
  have accounts := accounts_run run
  have swept : Run hash TracksInOrder (step hash service .prune) := .next Event.prune run trivial
  have pruned := accounts_run swept
  refine ⟨?_, ?_, ?_, accounts.ordered, accounts.aged⟩
  · intro send below
    have announced := accounts.announced send
    have balance := accounts.balance send
    rw [if_pos below] at announced balance
    exact ⟨announced, by omega⟩
  · intro closed send below
    have balance := accounts.balance send
    rw [if_pos below, accounts.closed closed] at balance
    exact balance
  · intro send message sent expired
    have balance := pruned.balance send
    have same : service.prune.sent = service.sent := by
      rw [prune, pruneExpired_eq]
    have below : send < service.sent.length := (List.getElem?_eq_some_iff.mp sent).1
    have final : terminals send service.prune.log +
        trackedAs send service.prune.pendingAcks.entries =
        if send < service.prune.sent.length then 1 else 0 := balance
    rw [same, if_pos below, accounts.trackedAs_prune sent expired] at final
    exact final

/-- The sample envelope is sent and the session accepts it. -/
def sampleSend (last : UInt8) : List Event :=
  [.sendBegin (sampleEnvelope last) (sampleId 9), .sendEnd none]

/-- Two sends, the first of which times out while the session closes on the second. -/
def sending : List Event := sampleSend 5 ++ [.advance 30000] ++ sampleSend 3 ++ [.sessionClosed]

/-- With room in the table and an id that is not tracked, a send is in order. -/
theorem tracksInOrder_of_room (waiting : service.sends = [envelope])
    (running : service.closed = false)
    (noWrap : service.clock + envelope.ttlMilliseconds.toNat < 2 ^ 64)
    (absent : service.tracked.find? envelope.messageId = none)
    (room : service.tracked.size < service.config.pendingAckCapacity) :
    service.TracksInOrder (.sendEnd none) := by
  intro other rest same _
  cases waiting.symm.trans same
  exact ⟨running, noWrap, absent, fun full => absurd full (Nat.not_le.mpr room)⟩

theorem sending_run : Run id TracksInOrder (sending.foldl (step id) (sampleService 2)) := by
  refine (Machine.Reaches.start (sampleService_initial 2 (by decide) (by decide))).foldl ?_
  refine ⟨trivial, ?_, trivial, trivial, ?_, trivial, trivial⟩
  · exact tracksInOrder_of_room (sampleEnvelope 5) (by decide +kernel)
      (by decide +kernel) (by decide +kernel) (by decide +kernel) (by decide +kernel)
  · exact tracksInOrder_of_room (sampleEnvelope 3) (by decide +kernel)
      (by decide +kernel) (by decide +kernel) (by decide +kernel) (by decide +kernel)

theorem message_delivery_disciplined_sending :
    (sending.foldl (step id) (sampleService 2)).sent.length = 2 ∧
      (sending.foldl (step id) (sampleService 2)).closed = true ∧
      DeliveryDisciplined (sending.foldl (step id) (sampleService 2)) :=
  ⟨by decide +kernel, by decide +kernel, message_delivery_disciplined sending_run⟩

/-- With room for two sends, the third makes the second time out: its id is the
smallest, although the first is older and still tracked. -/
theorem message_aged_out_early :
    Initial (sampleService 2) ∧
      ((sampleSend 5 ++ sampleSend 3 ++ sampleSend 7).foldl (step id) (sampleService 2)).log =
        [.sentPeerAcked (sampleId 5), .delivery (some 0) (sampleId 5) .queued none,
          .sentPeerAcked (sampleId 3), .delivery (some 1) (sampleId 3) .queued none,
          .sentPeerAcked (sampleId 7),
          .delivery (some 1) (sampleId 3) .ackTimeout (some ageOutError),
          .delivery (some 2) (sampleId 7) .queued none] ∧
      ¬ DeliveryDisciplined
        ((sampleSend 5 ++ sampleSend 3 ++ sampleSend 7).foldl (step id) (sampleService 2)) := by
  have log : ((sampleSend 5 ++ sampleSend 3 ++ sampleSend 7).foldl (step id)
      (sampleService 2)).log =
      [.sentPeerAcked (sampleId 5), .delivery (some 0) (sampleId 5) .queued none,
        .sentPeerAcked (sampleId 3), .delivery (some 1) (sampleId 3) .queued none,
        .sentPeerAcked (sampleId 7)] ++
        .delivery (some 1) (sampleId 3) .ackTimeout (some ageOutError) ::
        [.delivery (some 2) (sampleId 7) .queued none] := by
    decide +kernel
  refine ⟨sampleService_initial 2 (by decide) (by decide), log, fun disciplined => ?_⟩
  have finished := disciplined.aged _ _ _ _ _ log 0 Nat.one_pos
  revert finished
  decide +kernel

end MessageService

end Heyaki
