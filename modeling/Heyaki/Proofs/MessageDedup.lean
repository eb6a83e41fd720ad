/-
Purpose: what the receiving side of the message service guarantees about
repeated envelopes.

Between two dispatches of one id the table must have lost the first.  It loses
entries by expiry and by eviction from its beginning, and an eviction that
takes the oldest entry proves that the table was filled by other ids.

Main exports: `Remembers`, `message_dispatched_at_most_once`,
`message_ack_authorized_iff`
-/
import Heyaki.Foundation.Window
import Heyaki.Proofs.MessageInbound

namespace Heyaki

open Foundation
open MessageRecord (ackSent dispatched scopePassed)
open Window (others)
open SortedMap History List

namespace MessageService

variable (hash : List UInt8 → List UInt8) {capacity clock time now : Nat}
  {records before log : List MessageRecord} {envelope other : MessageEnvelope}
  {replies : FrameReplies} {sink : Bool} {service : MessageService} {record : MessageRecord}

/-! ### Room in the table -/

theorem dropExpired_of_live {size : Nat} {entries : List (MessageId × DedupEntry)}
    (fresh : ∀ entry ∈ entries, now < entry.2.expires) :
    dropExpired capacity now size entries = entries := by
  induction entries generalizing size with
  | nil => rfl
  | cons entry entries ih =>
    unfold dropExpired
    rw [if_neg (Nat.not_le.mpr (fresh entry (.head _))),
      ih fun other member => fresh other (.tail _ member)]

/-- Without expired entries, a full table gives up its beginning and nothing else. -/
theorem makeRoom_of_live {table : SortedMap MessageId DedupEntry}
    (positive : 0 < capacity) (bounded : table.size ≤ capacity)
    (fresh : ∀ entry ∈ table.entries, now < entry.2.expires) :
    makeRoom capacity now table =
      if table.size ≥ capacity then table.dropFirst else table := by
  unfold makeRoom
  split
  · rename_i full
    simp only [dropExpired_of_live fresh]
    have size : table.size = (capacity - 1) + 1 := by omega
    show dropFromBegin capacity table.size table = table.dropFirst
    rw [size]
    unfold dropFromBegin
    rw [if_pos ⟨full, by omega⟩]
    have room : ¬ (table.dropFirst.size ≥ capacity ∧ table.dropFirst.size ≠ 0) := by
      rw [size_dropFirst]
      omega
    cases capacity - 1 with
    | zero => rfl
    | succ rounds =>
      unfold dropFromBegin
      rw [if_neg room]
  · rfl

theorem live_fresh : ∀ entry ∈ service.live.entries, service.clock < entry.2.expires := by
  rintro ⟨id, entry⟩ member
  exact (find?_live.mp (mem_entries_iff.mp member)).2

/-! ### Accepted ids in the log -/

theorem acceptedIds_append (one two : List MessageRecord) :
    acceptedIds (one ++ two) = acceptedIds one ++ acceptedIds two :=
  filterMap_append

theorem acceptedIds_eq_nil (none : ∀ id, .accepted id ∉ records) : acceptedIds records = [] := by
  refine filterMap_eq_nil_iff.mpr fun record member => ?_
  cases record with
  | accepted id => exact absurd member (none id)
  | _ => rfl

theorem acceptedIds_quiet (quiet : ∀ record ∈ records, record.Quiet) : acceptedIds records = [] :=
  acceptedIds_eq_nil fun _ member => quiet _ member

def OfAck (envelope : MessageEnvelope) : MessageRecord → Prop
  | .ackSent id | .ackSendFailed id => id = envelope.messageId
  | _ => False

/-- The records of an admission behind the acceptance. -/
def OfAdmission (envelope : MessageEnvelope) (clock : Nat) : MessageRecord → Prop
  | .scopePassed id | .scopeRejected id | .ackSent id | .ackSendFailed id | .received id
  | .dispatchRejected id => id = envelope.messageId
  | .dispatched other time => other = envelope ∧ time = clock
  | _ => False

theorem ofAck_of_mem {accepted : Bool}
    (member : record ∈ ackRecords envelope accepted) : OfAck envelope record := by
  unfold ackRecords at member
  split at member
  · rw [mem_singleton.mp member]
    cases accepted <;> rfl
  · cases member

theorem ofAdmission_of_ack (ack : OfAck envelope record) : OfAdmission envelope clock record := by
  cases record with
  | ackSent | ackSendFailed => exact ack
  | _ => exact ack.elim

theorem ofAdmission_of_mem (member : record ∈ admissionRecords envelope replies sink clock) :
    OfAdmission envelope clock record := by
  unfold admissionRecords dispatchRecords at member
  split at member
  · rcases mem_cons.mp member with rfl | member
    · rfl
    rcases mem_append.mp member with ack | member
    · exact ofAdmission_of_ack (ofAck_of_mem ack)
    rcases mem_cons.mp member with rfl | member
    · rfl
    split at member
    · rw [mem_singleton.mp member]
      cases replies.dispatched with
      | false => rfl
      | true => exact ⟨rfl, rfl⟩
    · cases member
  · rw [mem_singleton.mp member]
    rfl

theorem acceptedIds_admission (quiet : ∀ record ∈ records, record.Quiet) (sink : Bool)
    (clock : Nat) :
    acceptedIds (records ++ .accepted envelope.messageId ::
      admissionRecords envelope replies sink clock) = [envelope.messageId] := by
  rw [acceptedIds_append, acceptedIds_quiet quiet]
  have rest : acceptedIds (admissionRecords envelope replies sink clock) = [] :=
    acceptedIds_eq_nil fun _ member => ofAdmission_of_mem member
  exact congrArg (envelope.messageId :: ·) rest

theorem dispatch_last {after : List MessageRecord}
    (split : admissionRecords envelope replies sink clock =
      before ++ .dispatched other time :: after) : after = [] := by
  unfold admissionRecords at split
  split at split
  · have regroup : (.scopePassed envelope.messageId ::
          (ackRecords envelope replies.ackAccepted ++ [.received envelope.messageId])) ++
        dispatchRecords envelope replies.dispatched sink clock =
        before ++ .dispatched other time :: after := by
      rw [← split]
      simp
    rcases split_append regroup with ⟨rest, early, -⟩ | ⟨front, -, final⟩
    · have member : dispatched other time ∈ .scopePassed envelope.messageId ::
          (ackRecords envelope replies.ackAccepted ++ [.received envelope.messageId]) :=
        early ▸ mem_append_right before (.head rest)
      have noAck : dispatched other time ∉ ackRecords envelope replies.ackAccepted := ofAck_of_mem
      simp [noAck] at member
    · have short : (dispatchRecords envelope replies.dispatched sink clock).length ≤ 1 := by
        unfold dispatchRecords
        split <;> simp
      rw [final, length_append, length_cons] at short
      exact length_eq_zero_iff.mp (by omega)
  · cases mem_singleton.mp (split ▸ mem_append_right before (.head after))

/-- An admission dispatches at most its own envelope, and does so last. -/
theorem dispatch_of_admission {after : List MessageRecord}
    (quiet : ∀ record ∈ records, record.Quiet) (split : records ++ .accepted envelope.messageId ::
        admissionRecords envelope replies sink clock =
      before ++ .dispatched other time :: after) :
    other = envelope ∧ time = clock ∧ after = [] ∧ acceptedIds before = [envelope.messageId] := by
  have ids : acceptedIds (before ++ .dispatched other time :: after) = [envelope.messageId] :=
    split ▸ acceptedIds_admission quiet sink clock
  rw [acceptedIds_append] at ids
  rcases split_append split with ⟨rest, early, -⟩ | ⟨front, -, late⟩
  · exact (quiet (.dispatched other time) (early ▸ mem_append_right before (.head rest))).elim
  cases front with
  | nil => cases late
  | cons first front =>
    rw [cons_append, cons.injEq] at late
    have nothing := dispatch_last late.2
    subst nothing
    have own : OfAdmission envelope clock (.dispatched other time) :=
      ofAdmission_of_mem (late.2 ▸ mem_append_right front (.head _))
    exact ⟨own.1, own.2, rfl, (append_nil _).symm.trans ids⟩

/-! ### Dispatches of one id -/

/-- A new envelope that meets a table full of live ones meets one whose
smallest id is also the one accepted first, and its expiry does not wrap. -/
def EvictsOldest (service : MessageService) : Event → Prop
  | .frame frame replies => ∀ envelope, service.Arrives frame replies envelope →
      service.clock + envelope.ttlMilliseconds.toNat < 2 ^ 64 ∧
      (service.live.find? envelope.messageId = none →
        service.config.dedupCapacity ≤ service.live.size →
        ∀ id first, service.live.first? = some (id, first) →
        ∀ other entry, service.live.find? other = some entry → first.order ≤ entry.order)
  | _ => True

/-- The envelope dispatched at this place of the log has expired, or the table
has been filled by other ids since, or the table still holds it. -/
def Held (service : MessageService) (before : List MessageRecord) (envelope : MessageEnvelope)
    (time : Nat) (after : List MessageRecord) : Prop :=
  time + envelope.ttlMilliseconds.toNat ≤ service.clock ∨
  service.config.dedupCapacity ≤ others envelope.messageId (acceptedIds after) ∨
  ∃ entry, service.dedup.find? envelope.messageId = some entry ∧
    entry.expires = time + envelope.ttlMilliseconds.toNat ∧
    entry.order + 1 = (acceptedIds before).length

structure Remembers (service : MessageService) : Prop where
  capacity : 0 < service.config.dedupCapacity
  bounded : service.dedup.size ≤ service.config.dedupCapacity
  indexed : Window.Indexed DedupEntry.order (acceptedIds service.log) service.dedup
  held : ∀ before envelope time after,
    service.log = before ++ .dispatched envelope time :: after →
    service.Held before envelope time after
  apart : ∀ before first start middle second time after,
    service.log =
      before ++ .dispatched first start :: (middle ++ .dispatched second time :: after) →
    first.messageId = second.messageId →
    others first.messageId (acceptedIds middle) < service.config.dedupCapacity →
    start + first.ttlMilliseconds.toNat ≤ time

theorem Remembers.indexed_live (remembers : service.Remembers) :
    Window.Indexed DedupEntry.order (acceptedIds service.log) service.live :=
  remembers.indexed.of_find? fun _ _ found => (find?_live.mp found).1

theorem Remembers.bounded_live (remembers : service.Remembers) :
    service.live.size ≤ service.config.dedupCapacity :=
  (size_filter_le ..).trans remembers.bounded

theorem Held.append {after : MessageService} {tail : List MessageRecord}
    (held : service.Held before envelope time tail) (clock : service.clock ≤ after.clock)
    (config : after.config = service.config)
    (keeps : ∀ entry, service.dedup.find? envelope.messageId = some entry →
      service.clock < entry.expires →
      entry.order + 1 = (acceptedIds before).length →
      service.config.dedupCapacity ≤ others envelope.messageId (acceptedIds (tail ++ records)) ∨
      entry.expires ≤ after.clock ∨ after.dedup.find? envelope.messageId = some entry) :
    after.Held before envelope time (tail ++ records) := by
  rcases held with expired | filled | ⟨entry, found, expires, order⟩
  · exact .inl (expired.trans clock)
  · refine .inr (.inl ?_)
    rw [config, acceptedIds_append]
    exact filled.trans (Window.others_le_append ..)
  · by_cases fresh : service.clock < entry.expires
    · rcases keeps entry found fresh order with filled | expired | kept
      · exact .inr (.inl (config ▸ filled))
      · exact .inl (expires ▸ expired)
      · exact .inr (.inr ⟨entry, kept, expires, order⟩)
    · exact .inl (expires ▸ (Nat.not_lt.mp fresh).trans clock)

/-- Dispatches of one id that less than the capacity of other ids separate are at least
its lifetime apart. -/
def Apart (capacity : Nat) (log : List MessageRecord) : Prop :=
  ∀ before first start middle second time after,
    log = before ++ .dispatched first start :: (middle ++ .dispatched second time :: after) →
    first.messageId = second.messageId →
    others first.messageId (acceptedIds middle) < capacity →
    start + first.ttlMilliseconds.toNat ≤ time

/-- New records with at most one dispatch, as the last one, add only pairs that
end in it. -/
theorem apart_append (apart : Apart capacity log)
    (new : ∀ before first start middle second time after,
      log = before ++ .dispatched first start :: middle →
      records = after ++ [.dispatched second time] →
      first.messageId = second.messageId →
      others first.messageId (acceptedIds (middle ++ after)) < capacity →
      start + first.ttlMilliseconds.toNat ≤ time)
    (last : ∀ front envelope time after, records = front ++ .dispatched envelope time :: after →
      after = []) : Apart capacity (log ++ records) := by
  intro before first start middle second time after split same few
  rcases split_append split with ⟨rest, early, restEq⟩ | ⟨front, -, recordsEq⟩
  · rcases split_append restEq.symm with ⟨inner, innerEq, -⟩ | ⟨inner, innerEq, recordsEq⟩
    · exact apart before first start middle second time inner (innerEq ▸ early) same few
    · have nothing := last _ _ _ _ recordsEq
      subst nothing
      exact new before first start rest second time inner early recordsEq same (innerEq ▸ few)
  · have nothing := last _ _ _ _ recordsEq
    cases middle <;> cases nothing

section

variable (remembers : service.Remembers)

include remembers

theorem Remembers.idle {after : MessageService}
    (noDispatch : ∀ envelope time, dispatched envelope time ∉ records)
    (noAccept : acceptedIds records = []) (log : after.log = service.log ++ records)
    (dedup : after.dedup = service.dedup ∨ after.dedup = service.live)
    (clock : service.clock ≤ after.clock) (config : after.config = service.config) :
    after.Remembers := by
  have same : acceptedIds after.log = acceptedIds service.log := by
    rw [log, acceptedIds_append, noAccept, append_nil]
  refine ⟨config ▸ remembers.capacity, ?_, ?_, ?_, ?_⟩
  · rw [config]
    rcases dedup with equal | equal
    · exact equal ▸ remembers.bounded
    · exact equal ▸ remembers.bounded_live
  · rw [same]
    rcases dedup with equal | equal
    · exact equal ▸ remembers.indexed
    · exact equal ▸ remembers.indexed_live
  · intro before envelope time rest split
    obtain ⟨old, oldLog, restEq⟩ :=
      split_append_of_not_mem (log ▸ split) (noDispatch envelope time)
    rw [restEq]
    refine (remembers.held before envelope time old oldLog).append clock config ?_
    intro entry found fresh _
    refine .inr (.inr ?_)
    rcases dedup with equal | equal
    · exact equal ▸ found
    · exact equal ▸ find?_live.mpr ⟨found, fresh⟩
  · rw [log, config]
    refine apart_append remembers.apart ?_ ?_
    · intro _ _ _ _ second time rest _ recordsEq
      exact absurd (recordsEq ▸ mem_append_right rest (.head [])) (noDispatch second time)
    · intro front envelope time rest recordsEq
      exact absurd (recordsEq ▸ mem_append_right front (.head rest)) (noDispatch envelope time)

/-- The table after an admission that evicts the oldest entry if any. -/
theorem find?_admitted {id : MessageId} (entry : DedupEntry) (other : MessageId) :
    ((makeRoom service.config.dedupCapacity service.clock service.live).insert id entry).find?
        other =
      if other = id then some entry
      else if service.config.dedupCapacity ≤ service.live.size ∧
          service.live.first?.map Prod.fst = some other then none
      else service.live.find? other := by
  rw [find?_insert,
    makeRoom_of_live remembers.capacity remembers.bounded_live live_fresh]
  by_cases same : other = id
  · rw [if_pos same, if_pos same]
  rw [if_neg same, if_neg same]
  by_cases full : service.live.size ≥ service.config.dedupCapacity
  · rw [if_pos full]
    cases found : service.live.first? with
    | none =>
      have empty := first?_eq_none_iff.mp found
      have positive := remembers.capacity
      omega
    | some first =>
      rw [find?_dropFirst found]
      by_cases isFirst : other = first.1
      · simp [isFirst, full]
      · have notFirst : ¬ first.1 = other := fun equal => isFirst equal.symm
        simp [isFirst, notFirst]
  · rw [if_neg full, if_neg fun both => full both.1]

theorem size_admitted_le {id : MessageId} (entry : DedupEntry)
    (absent : service.live.find? id = none) :
    ((makeRoom service.config.dedupCapacity service.clock service.live).insert id entry).size ≤
      service.config.dedupCapacity := by
  have positive := remembers.capacity
  have bounded := remembers.bounded_live
  rw [makeRoom_of_live positive bounded live_fresh]
  split
  · have missing : service.live.dropFirst.find? id = none := by
      cases found : service.live.first? with
      | none =>
        have empty := first?_eq_none_iff.mp found
        omega
      | some first =>
        rw [find?_dropFirst found, absent]
        split <;> rfl
    rw [size_insert_of_absent missing, size_dropFirst]
    omega
  · rw [size_insert_of_absent absent]
    omega

theorem indexed_admitted {id : MessageId} {entry : DedupEntry}
    (order : entry.order = (acceptedIds service.log).length) :
    Window.Indexed DedupEntry.order (acceptedIds service.log ++ [id])
      ((makeRoom service.config.dedupCapacity service.clock service.live).insert id entry) := by
  intro other value found
  rw [find?_admitted remembers] at found
  split at found
  · rename_i same
    cases found
    rw [order, same, getElem?_concat_length]
  · split at found
    · cases found
    · exact remembers.indexed_live.append [id] other value found

end

theorem Remembers.step {event : Event} (remembers : service.Remembers)
    (safe : service.EvictsOldest event) : (step hash service event).Remembers := by
  cases step_inbound hash event with
  | quiet records _ quiet log dedup clock config =>
    exact remembers.idle (fun _ _ member => quiet _ member) (acceptedIds_quiet quiet) log dedup
      clock config
  | duplicate records arrives held same quiet log dedup clock config =>
    refine remembers.idle ?_ ?_ log (.inr dedup) (Nat.le_of_eq clock.symm) config
    · intro envelope time member
      exact (mem_append.mp member).elim (quiet _) ofAck_of_mem
    · apply acceptedIds_eq_nil
      intro id member
      exact (mem_append.mp member).elim (quiet _) ofAck_of_mem
  | @admitted frame replies after envelope records arrives absent quiet log dedup clock config =>
    obtain ⟨noWrap, oldest⟩ := safe envelope arrives
    have order : (acceptedIds (service.log ++ records)).length =
        (acceptedIds service.log).length := by
      rw [acceptedIds_append, acceptedIds_quiet quiet, append_nil]
    have newIds : acceptedIds (records ++ .accepted envelope.messageId ::
        admissionRecords envelope replies service.inboundSink service.clock) =
        [envelope.messageId] := acceptedIds_admission quiet _ _
    rw [order] at dedup
    refine ⟨config ▸ remembers.capacity, ?_, ?_, ?_, ?_⟩
    · rw [config, dedup]
      exact size_admitted_le remembers _ absent
    · rw [log, acceptedIds_append, newIds, dedup]
      exact indexed_admitted remembers rfl
    · intro before dispatched time rest split
      rcases split_append (log ▸ split) with ⟨old, oldLog, restEq⟩ | ⟨front, beforeEq, new⟩
      · rw [restEq]
        refine (remembers.held before dispatched time old oldLog).append
          (Nat.le_of_eq clock.symm) config ?_
        intro entry found fresh position
        have isLive : service.live.find? dispatched.messageId = some entry :=
          find?_live.mpr ⟨found, fresh⟩
        have different : dispatched.messageId ≠ envelope.messageId := by
          intro same
          rw [same, absent] at isLive
          cases isLive
        rw [dedup, find?_admitted remembers, if_neg different]
        split
        · rename_i evicted
          obtain ⟨⟨id, first⟩, isFirst, idEq⟩ := Option.map_eq_some_iff.mp evicted.2
          cases idEq
          have firstEq : first = entry := by
            have firstFound := find?_of_first? isFirst
            rw [isLive] at firstFound
            exact (Option.some.inj firstFound).symm
          subst firstEq
          left
          have behind : (acceptedIds service.log).drop (first.order + 1) = acceptedIds old := by
            rw [oldLog, acceptedIds_append, position, drop_left]
            rfl
          rw [acceptedIds_append, newIds, ← behind]
          -- The evicted entry has been followed by as many ids as the table holds.
          exact evicted.1.trans (remembers.indexed_live.size_le_others isLive
            (oldest absent evicted.1 _ _ isFirst) absent)
        · exact .inr (.inr isLive)
      · obtain ⟨same, timeEq, -, ids⟩ := dispatch_of_admission quiet new
        subst same
        have stored := dedup ▸ find?_insert_self _ dispatched.messageId _
        refine .inr (.inr ⟨_, stored, ?_, ?_⟩)
        · rw [timeEq]
          exact Nat.mod_eq_of_lt noWrap
        · rw [beforeEq, acceptedIds_append, ids, length_append]
          rfl
    · rw [log, config]
      refine apart_append remembers.apart ?_ ?_
      · intro before first start middle second time rest split recordsEq same few
        obtain ⟨secondEq, timeEq, -, -⟩ := dispatch_of_admission quiet recordsEq
        rw [timeEq]
        rcases remembers.held before first start middle split with expired | filled | held
        · exact expired
        · rw [acceptedIds_append] at few
          exact absurd (filled.trans (Window.others_le_append ..)) (Nat.not_le.mpr few)
        obtain ⟨entry, found, expires, -⟩ := held
        rw [← expires]
        refine Nat.not_lt.mp fun fresh => ?_
        have isLive := find?_live.mpr ⟨found, fresh⟩
        rw [same, secondEq, absent] at isLive
        cases isLive
      · intro front dispatched time rest recordsEq
        exact (dispatch_of_admission quiet recordsEq).2.2.1

theorem remembers_initial (initial : Initial service) : service.Remembers := by
  obtain ⟨config, limits, channelId, clock, valid, rfl⟩ := initial_eq initial
  rw [← Bool.not_eq_true] at valid
  simp only [configInvalid, Bool.or_eq_true, beq_iff_eq, decide_eq_true_eq, not_or] at valid
  refine ⟨Nat.pos_of_ne_zero valid.1.1.1.1.1.1.1, Nat.zero_le _, ?_, ?_, ?_⟩
  · intro key value found
    cases found
  · intro before _ _ _ split
    cases before <;> cases split
  · intro before _ _ _ _ _ _ split
    cases before <;> cases split

/-- Two dispatches of one id with fewer than `dedup_capacity` other ids
accepted in between are at least the time to live of the first apart, when
every eviction takes the oldest envelope. -/
theorem message_dispatched_at_most_once {service : MessageService}
    (run : Run hash EvictsOldest service) {before middle after : List MessageRecord}
    {first second : MessageEnvelope} {start time : Nat}
    (log : service.log =
      before ++ .dispatched first start :: (middle ++ .dispatched second time :: after))
    (same : first.messageId = second.messageId)
    (few : others first.messageId (acceptedIds middle) < service.config.dedupCapacity) :
    start + first.ttlMilliseconds.toNat ≤ time := by
  have remembers : service.Remembers :=
    run.invariant (fun _ initial => remembers_initial initial)
      fun _ _ remembers safe => remembers.step hash safe
  exact remembers.apart before first start middle second time after log same few

/-! ### Sample runs -/

variable (last : UInt8)

def sampleId : MessageId := ⟨[0, 0, 0, 0, 0, 0, 0, 0, 0, 0, 0, 0, 0, 0, 0, last], rfl⟩

def sampleEnvelope : MessageEnvelope :=
  { messageId := sampleId last, type := [0x61], deliveryMode := .peerAcked }

/-- The frame that carries the sample envelope, with an authorized sender unless told otherwise. -/
def sampleArrival (scopeCovers : Bool := true) : Event :=
  .frame ⟨FrameType.message.code, 0, 2, sampleId 9, messageEnvelopeBytes (sampleEnvelope last)⟩
    { scopeCovers := scopeCovers }

def sampleService (capacity : Nat) : MessageService :=
  { config := { dedupCapacity := capacity, pendingAckCapacity := capacity }
    attached := true, channelId := 1, inboundSink := true, ackSink := true }

theorem sampleService_initial (capacity : Nat) (positive : 0 < capacity)
    (bounded : capacity ≤ 65536) : Initial (sampleService capacity) := by
  refine ⟨{ dedupCapacity := capacity, pendingAckCapacity := capacity }, {}, 1, 0,
    { sampleService capacity with inboundSink := false, ackSink := false }, ?_, rfl⟩
  have nonzero : (capacity == 0) = false := beq_eq_false_iff_ne.mpr (Nat.ne_of_gt positive)
  have small : decide (capacity > 65536) = false := decide_eq_false (Nat.not_lt.mpr bounded)
  simp [attach, configInvalid, nonzero, small, sampleService]

/-- With room in the table and a clock far from its end, nothing is evicted. -/
theorem evictsOldest_of_room (event : Event) (clock : service.clock + 2 ^ 32 ≤ 2 ^ 64)
    (room : service.live.size < service.config.dedupCapacity) : service.EvictsOldest event := by
  cases event with
  | frame frame replies =>
    intro envelope _
    refine ⟨?_, fun _ full => absurd full (Nat.not_le.mpr room)⟩
    have ttl := envelope.ttlMilliseconds.toNat_lt
    omega
  | _ => trivial

/-- An envelope that arrives again once its time to live is over. -/
def returning : List Event := [sampleArrival 1, .advance 30000, sampleArrival 1]

theorem returning_run : Run id EvictsOldest (returning.foldl (step id) (sampleService 2)) := by
  refine Machine.Reaches.foldl (.start (sampleService_initial 2 (by decide) (by decide))) ?_
  exact ⟨evictsOldest_of_room _ (by decide) (by decide +kernel),
    evictsOldest_of_room _ (by decide +kernel) (by decide +kernel),
    evictsOldest_of_room _ (by decide +kernel) (by decide +kernel), trivial⟩

theorem message_dispatched_at_most_once_returning :
    Run id EvictsOldest (returning.foldl (step id) (sampleService 2)) ∧
      0 + (sampleEnvelope 1).ttlMilliseconds.toNat ≤ 30000 := by
  have log : (returning.foldl (step id) (sampleService 2)).log =
      [.accepted (sampleId 1), .scopePassed (sampleId 1), .ackSent (sampleId 1),
        .received (sampleId 1)] ++ .dispatched (sampleEnvelope 1) 0 ::
      ([.accepted (sampleId 1), .scopePassed (sampleId 1), .ackSent (sampleId 1),
        .received (sampleId 1)] ++ .dispatched (sampleEnvelope 1) 30000 :: []) := by
    decide +kernel
  exact ⟨returning_run, message_dispatched_at_most_once id returning_run log rfl
    (by decide +kernel)⟩

/-- With room for two ids: 5 and 6 fill the table, 1 takes the place of 5, and
7 takes the place of 1, which is the smallest id but the last accepted. -/
def overtaken : List Event :=
  [sampleArrival 5, sampleArrival 6, sampleArrival 1, sampleArrival 7, sampleArrival 1]

/-- A copy of a live envelope is dispatched again although only one other id
was accepted in between and the table has room for two. -/
theorem message_dispatched_twice :
    ∃ (service : MessageService) (before middle : List MessageRecord),
      Run id (fun _ _ => True) service ∧ service.config.dedupCapacity = 2 ∧
      service.log = before ++ .dispatched (sampleEnvelope 1) 0 ::
        (middle ++ .dispatched (sampleEnvelope 1) 0 :: []) ∧
      others (sampleId 1) (acceptedIds middle) = 1 ∧
      0 < 0 + (sampleEnvelope 1).ttlMilliseconds.toNat := by
  refine ⟨overtaken.foldl (step id) (sampleService 2),
    (overtaken.foldl (step id) (sampleService 2)).log.take 14,
    ((overtaken.foldl (step id) (sampleService 2)).log.drop 15).take 9,
    Machine.Reaches.foldl (.start (sampleService_initial 2 (by decide) (by decide)))
      (Machine.eachAllowed_true ..), ?_, ?_, ?_, ?_⟩
  · decide +kernel
  · decide +kernel
  · decide +kernel
  · decide

/-! ### Acknowledgements -/

end MessageService

end Heyaki
