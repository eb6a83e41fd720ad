/-
Purpose: when a subscription is cut off as conflicting although its publisher runs the
same code.

A publisher numbers its events per topic, a subscriber expects them to increase per
subscription.  The two agree as long as no item is staged for a subscription with a
number at or below the last one staged for it, which happens when a prefix matches
several topics.

Main exports: `TurnOrdered`, `conforming_publisher_not_cut_off`, `prefix_subscription_cut_off`
-/
import Heyaki.Foundation.Machine
import Heyaki.Proofs.EventFlow

namespace Heyaki

open Foundation
open EventRecord (conflictingItem)
open SortedMap Function

/-! ### Calls in progress -/

structure SameTables (before after : EventService) : Prop where
  remote : after.remoteSubscriptions = before.remoteSubscriptions
  own : after.localSubscriptions = before.localSubscriptions
  limits : after.limits = before.limits
  config : after.config = before.config
  calm : ∀ id, conflictingItem id ∈ after.log → .conflictingItem id ∈ before.log

theorem SameTables.refl (service : EventService) : SameTables service service :=
  ⟨rfl, rfl, rfl, rfl, fun _ member => member⟩

namespace EventTurn

theorem record_same {records : List EventRecord} (turn : EventTurn)
    (calm : ∀ id, conflictingItem id ∉ records) :
    SameTables turn.service (turn.record records).service := by
  refine ⟨rfl, rfl, rfl, rfl, fun id member => ?_⟩
  rcases List.mem_append.mp member with before | new
  · exact before
  · exact absurd new (calm id)

theorem sendFrame_cases (frame : EventFrame) (turn : EventTurn) :
    (∃ replies, turn.sendFrame frame =
      (none, { turn with out := turn.out ++ [frame], replies := replies })) ∨
    ∃ error replies, turn.sendFrame frame = (some error, { turn with replies := replies }) := by
  unfold sendFrame
  cases turn.replies with
  | nil => exact .inl ⟨_, rfl⟩
  | cons reply replies =>
    cases reply with
    | none => exact .inl ⟨_, rfl⟩
    | some error => exact .inr ⟨error, _, rfl⟩

/-- Nothing but unsubscribe frames goes out. -/
structure Notifies (before after : EventTurn) : Prop where
  same : SameTables before.service after.service
  out : ∃ frames, after.out = before.out ++ frames ∧ ∀ frame ∈ frames, frame.type = .unsubscribe

theorem notifies_sendUnsubscribe (id : EventSubscriptionId) (turn : EventTurn) :
    Notifies turn (turn.sendUnsubscribe id) := by
  unfold sendUnsubscribe
  cases encodeEventUnsubscribe id with
  | error error => exact ⟨.refl _, [], by simp, nofun⟩
  | ok payload =>
    dsimp only
    rcases turn.sendFrame_cases ⟨.unsubscribe, payload⟩ with ⟨replies, sent⟩ | ⟨error, replies, refused⟩
    · rw [sent]
      refine ⟨record_same _ (by simp), [⟨.unsubscribe, payload⟩], rfl, ?_⟩
      intro frame member
      cases List.mem_singleton.mp member
      rfl
    · rw [refused]
      exact ⟨.refl _, [], by simp, nofun⟩

end EventTurn

/-! ### Draining -/

namespace EventService

/-- Draining moves a first part of what is staged into the channel. -/
theorem drainStaged_spec (id : EventSubscriptionId) (staged : List (List UInt8)) (turn : EventTurn) :
    ∃ sent, staged = sent ++ (drainStaged id staged turn).1 ∧
      (drainStaged id staged turn).2.out = turn.out ++ sent.map (EventFrame.mk .item) ∧
      (drainStaged id staged turn).2.service =
        (turn.record (sent.map fun _ => .itemSent id)).service := by
  induction staged generalizing turn with
  | nil => exact ⟨[], rfl, by simp [drainStaged], by simp [drainStaged, EventTurn.record]⟩
  | cons payload rest ih =>
    unfold drainStaged
    rcases turn.sendFrame_cases ⟨.item, payload⟩ with ⟨replies, sent⟩ | ⟨error, replies, refused⟩
    · rw [sent]
      obtain ⟨moved, split, out, service⟩ := ih (EventTurn.record [.itemSent id]
        { turn with out := turn.out ++ [⟨.item, payload⟩], replies := replies })
      refine ⟨payload :: moved, ?_, ?_, ?_⟩
      · rw [List.cons_append, ← split]
      · rw [out]
        simp [EventTurn.record]
      · rw [service]
        simp [EventTurn.record]
    · rw [refused]
      exact ⟨[], rfl, by simp, by simp [EventTurn.record]⟩

end EventService

open EventService

/-! ### Both directions -/

/-- A call at one side: `queue` is under way from it and `incoming` to it. -/
structure TurnOrdered (other : EventService) (queue incoming : List EventFrame)
    (drawn : List EventSubscriptionId) (turn : EventTurn) : Prop where
  publishes : EventFlow other.limits turn.service.remoteSubscriptions other.localSubscriptions
    (queue ++ turn.out) incoming drawn
  subscribes : EventFlow turn.service.limits other.remoteSubscriptions
    turn.service.localSubscriptions incoming (queue ++ turn.out) drawn
  calm : ∀ id, conflictingItem id ∉ turn.service.log
  fits : turn.service.limits.maxEventPayloadBytes < 18446744073709551616

variable {other : EventService} {queue incoming : List EventFrame}
  {drawn : List EventSubscriptionId} {turn : EventTurn} {topic payload : List UInt8}
  {frame : EventFrame}

namespace TurnOrdered

theorem notifies (ordered : TurnOrdered other queue incoming drawn turn) {after : EventTurn}
    (notifies : turn.Notifies after) : TurnOrdered other queue incoming drawn after := by
  obtain ⟨same, frames, out, unsubscribes⟩ := notifies
  refine ⟨?_, ?_, fun id member => ordered.calm id (same.calm id member), ?_⟩
  · rw [same.remote, out, ← List.append_assoc]
    apply ordered.publishes.forward_append
    intro frame member
    rw [unsubscribes frame member]
    exact nofun
  · rw [same.limits, same.own, out, ← List.append_assoc]
    apply ordered.subscribes.backward_append
    intro frame member
    rw [unsubscribes frame member]
    exact nofun
  · rw [same.limits]
    exact ordered.fits

section

variable (ordered : TurnOrdered other queue incoming drawn turn)

include ordered

theorem record {records : List EventRecord} (calm : ∀ id, conflictingItem id ∉ records) :
    TurnOrdered other queue incoming drawn (turn.record records) :=
  ordered.notifies ⟨turn.record_same calm, [], by simp [EventTurn.record], nofun⟩

theorem sendUnsubscribe (id : EventSubscriptionId) :
    TurnOrdered other queue incoming drawn (turn.sendUnsubscribe id) :=
  ordered.notifies (turn.notifies_sendUnsubscribe id)

theorem eraseLocal (id : EventSubscriptionId) :
    TurnOrdered other queue incoming drawn (eraseLocal id turn) :=
  ⟨ordered.publishes, ordered.subscribes.own_erase, ordered.calm, ordered.fits⟩

theorem unsubscribeEntries (pattern : List UInt8)
    (entries : List (EventSubscriptionId × LocalSubscription)) :
    TurnOrdered other queue incoming drawn
      (unsubscribeEntries pattern entries turn).2 := by
  induction entries generalizing turn with
  | nil => exact ordered
  | cons entry rest ih =>
    unfold unsubscribeEntries
    split_ifs
    · exact ih ((ordered.sendUnsubscribe _).eraseLocal _)
    · exact ih ordered

theorem unsubscribeId (id : EventSubscriptionId) :
    TurnOrdered other queue incoming drawn (unsubscribeId id turn).2 := by
  unfold EventService.unsubscribeId
  cases turn.service.localSubscriptions.find? id with
  | none => exact ordered
  | some subscription =>
    dsimp only
    split_ifs
    · exact ordered
    · exact (ordered.sendUnsubscribe id).eraseLocal id

/-- A new subscription: its id is drawn, and goes out unless the frame is refused. -/
theorem subscribe {id : EventSubscriptionId} (fresh : id ∉ drawn) (pattern : List UInt8)
    (prefixMatch : Bool) (qos : EventQos) :
    TurnOrdered other queue incoming (id :: drawn)
      (subscribe pattern prefixMatch qos id turn).2 := by
  have unchanged : TurnOrdered other queue incoming (id :: drawn) turn :=
    ⟨ordered.publishes.drawn_cons, ordered.subscribes.drawn_cons, ordered.calm, ordered.fits⟩
  unfold EventService.subscribe
  split_ifs
  · exact unchanged
  · exact unchanged
  cases encoded : encodeEventSubscribe ⟨id, pattern, prefixMatch, qos⟩ with
  | error error => exact unchanged
  | ok payload =>
    have names : (EventFrame.mk .subscribe payload).subscribed? = some id := by
      simp [EventFrame.subscribed?, parseEventSubscribe_encode encoded, Except.toOption]
    dsimp only
    rcases turn.sendFrame_cases ⟨.subscribe, payload⟩ with ⟨replies, sent⟩ | ⟨error, replies, refused⟩
    · rw [sent]
      apply TurnOrdered.record _ (by simp)
      refine ⟨?_, ?_, ordered.calm, ordered.fits⟩
      · rw [← List.append_assoc]
        exact unchanged.publishes.forward_append (by simp)
      · rw [← List.append_assoc]
        exact ordered.subscribes.subscribe fresh rfl names
    · rw [refused]
      exact { unchanged with }

/-! ### Publishing -/

theorem drainEntries {entries : List (EventSubscriptionId × RemoteSubscription)}
    (distinct : (entries.map Prod.fst).Nodup)
    (present : ∀ entry ∈ entries, turn.service.remoteSubscriptions.find? entry.1 = some entry.2) :
    TurnOrdered other queue incoming drawn (drainEntries entries turn) := by
  induction entries generalizing turn with
  | nil => exact ordered
  | cons entry rest ih =>
    obtain ⟨id, subscription⟩ := entry
    rw [List.map_cons, List.nodup_cons] at distinct
    have found : turn.service.remoteSubscriptions.find? id = some subscription :=
      present (id, subscription) (List.mem_cons_self ..)
    obtain ⟨sent, split, out, logged⟩ := drainStaged_spec id subscription.staged turn
    have same : SameTables turn.service (drainStaged id subscription.staged turn).2.service := by
      rw [logged]
      exact turn.record_same (by simp)
    apply ih
    · refine ⟨?_, ?_, fun id member => ordered.calm id (same.calm id member), ?_⟩
      · rw [same.remote, out, ← List.append_assoc]
        exact ordered.publishes.drain found split
      · rw [same.limits, same.own, out, ← List.append_assoc]
        apply ordered.subscribes.backward_append
        intro frame member
        obtain ⟨payload, -, rfl⟩ := List.mem_map.mp member
        exact nofun
      · rw [same.limits]
        exact ordered.fits
    · exact distinct.2
    · intro entry member
      rw [same.remote, find?_insert, if_neg]
      · exact present entry (List.mem_cons_of_mem _ member)
      · intro equal
        exact distinct.1 (List.mem_map.mpr ⟨entry, member, equal⟩)

theorem drainAll : TurnOrdered other queue incoming drawn (drainAll turn) :=
  ordered.drainEntries turn.service.remoteSubscriptions.keys_nodup fun _ member =>
    mem_entries_iff.mp member

theorem terminate (ids : List EventSubscriptionId) :
    TurnOrdered other queue incoming drawn
      (ids.foldl terminateRemoteSubscription turn) := by
  induction ids generalizing turn with
  | nil => exact ordered
  | cons id rest ih =>
    rw [List.foldl_cons]
    apply ih
    apply TurnOrdered.sendUnsubscribe
    apply TurnOrdered.record _ (by simp)
    exact ⟨ordered.publishes.remote_erase id, ordered.subscribes, ordered.calm, ordered.fits⟩

end

end TurnOrdered

/-- The next number of a topic is above the last one staged for each subscription that
matches the topic. -/
def EventService.InOrder (service : EventService) (topic : List UInt8) : Prop :=
  ∀ id subscription, service.remoteSubscriptions.find? id = some subscription →
    eventTopicMatches subscription.pattern subscription.prefixMatch topic = true →
    subscription.stagedValid = true →
      subscription.lastStagedSequence < service.topicSequences topic + 1

instance (service : EventService) (topic : List UInt8) : Decidable (service.InOrder topic) :=
  decidable_of_iff (∀ entry ∈ service.remoteSubscriptions.entries,
      eventTopicMatches entry.2.pattern entry.2.prefixMatch topic = true →
      entry.2.stagedValid = true → entry.2.lastStagedSequence < service.topicSequences topic + 1)
    ⟨fun each _ _ found => each _ (mem_entries_iff.mpr found),
      fun each entry member => each entry.1 entry.2 (mem_entries_iff.mp member)⟩

/-- The body of the publishing loop stages the item behind what is staged. -/
theorem EventService.stage_stages {config : EventServiceConfig} {limits : Limits}
    {item : EventItemBody} {subscription : RemoteSubscription}
    (id : EventSubscriptionId) (reader : Limits)
    (short : item.payload.length < 18446744073709551616)
    (above : eventTopicMatches subscription.pattern subscription.prefixMatch topic = true →
      subscription.stagedValid = true → subscription.lastStagedSequence < item.publisherSequence) :
    EventFlow.Stages reader id item.publisherSequence.toNat subscription
      ((stage config limits topic item id subscription).apply subscription) := by
  unfold stage
  split
  · exact .same
  rename_i matched
  have above := fun valid => UInt64.lt_iff_toNat_lt.mp (above (by simpa using matched) valid)
  split
  · exact .same
  rename_i bytes encoded
  have reads : ∀ read, parseEventItem bytes reader = .ok read → read.subscriptionId = id ∧
      read.publisherSequence.toNat = item.publisherSequence.toNat := by
    intro read parsed
    rw [parseEventItem_encode encoded short] at parsed
    split_ifs at parsed
    cases parsed
    exact ⟨rfl, rfl⟩
  dsimp only
  split
  · exact .push (List.tail_sublist _) rfl reads rfl rfl above
  · split_ifs
    · exact .same
    · exact .push (List.Sublist.refl _) rfl reads rfl rfl above

theorem EventService.Staging.records_calm (id other : EventSubscriptionId) (staging : Staging) :
    conflictingItem other ∉ staging.records id := by
  cases staging with
  | staged subscription overwrites => cases overwrites <;> simp [records]
  | unmatched | failed | overflowed => simp [records]

namespace TurnOrdered

theorem publish (ordered : TurnOrdered other queue incoming drawn turn)
    (inOrder : turn.service.InOrder topic) (payload : List UInt8) (schemaVersion : UInt32)
    (wallTime : Option Int64) (eventId : EventId) :
    TurnOrdered other queue incoming drawn
      (publish topic payload schemaVersion wallTime eventId turn).2 := by
  unfold EventService.publish
  split_ifs with attached valid oversized
  · exact ordered
  · exact ordered
  · exact ordered
  extract_lets service sequence item staging results overflowed outcome staged terminated
  apply TurnOrdered.drainAll
  apply TurnOrdered.record _ (by simp)
  apply TurnOrdered.terminate
  apply TurnOrdered.record
  · refine ⟨?_, ordered.subscribes, ordered.calm, ordered.fits⟩
    dsimp only
    apply ordered.publishes.stage
    intro id subscription found
    apply stage_stages
    · exact lt_of_le_of_lt (Nat.not_lt.mp oversized) ordered.fits
    · exact inOrder id subscription found
  · intro id member
    rcases List.mem_append.mp member with published | recorded
    · simp at published
    · obtain ⟨result, -, logged⟩ := List.mem_flatMap.mp recorded
      exact EventService.Staging.records_calm _ _ _ logged

/-! ### Frames of the peer -/

theorem pop (ordered : TurnOrdered other queue (frame :: incoming) drawn turn) :
    TurnOrdered other queue incoming drawn turn :=
  ⟨ordered.publishes.backward_pop, ordered.subscribes.forward_pop, ordered.calm, ordered.fits⟩

theorem handleInboundSubscribe
    (ordered : TurnOrdered other queue (⟨.subscribe, payload⟩ :: incoming) drawn turn)
    (scopeCheck : List UInt8 → Bool) :
    TurnOrdered other queue incoming drawn (handleInboundSubscribe scopeCheck payload turn) := by
  unfold EventService.handleInboundSubscribe
  cases parsed : parseEventSubscribe payload with
  | error error => exact (ordered.pop.record (by simp)).record (by simp)
  | ok body =>
    have names : (EventFrame.mk .subscribe payload).subscribed? = some body.subscriptionId := by
      simp [EventFrame.subscribed?, parsed, Except.toOption]
    dsimp only
    cases turn.service.remoteSubscriptions.find? body.subscriptionId with
    | some existing =>
      dsimp only
      split_ifs
      · exact ordered.pop.record (by simp)
      · exact ordered.pop.record (by simp)
    | none =>
      split_ifs
      · exact (ordered.pop.record (by simp)).sendUnsubscribe _
      · exact (ordered.pop.record (by simp)).sendUnsubscribe _
      · apply TurnOrdered.record _ (by simp)
        exact ⟨ordered.publishes.accept names rfl, ordered.pop.subscribes, ordered.calm,
          ordered.fits⟩

theorem handleInboundUnsubscribe (ordered : TurnOrdered other queue incoming drawn turn)
    (payload : List UInt8) :
    TurnOrdered other queue incoming drawn (handleInboundUnsubscribe payload turn) := by
  have counted : TurnOrdered other queue incoming drawn (turn.record [.unsubscribeReceived]) :=
    ordered.record (by simp)
  unfold EventService.handleInboundUnsubscribe
  cases parseEventUnsubscribe payload with
  | error error => exact counted
  | ok id =>
    dsimp only
    split_ifs
    · exact ⟨counted.publishes.remote_erase id, counted.subscribes, counted.calm, counted.fits⟩
    · exact counted.record (by simp)

theorem handleInboundItem
    (ordered : TurnOrdered other queue (⟨.item, payload⟩ :: incoming) drawn turn) :
    TurnOrdered other queue incoming drawn (handleInboundItem payload turn) := by
  unfold EventService.handleInboundItem
  cases parsed : parseEventItem payload turn.service.limits with
  | error error => exact ordered.pop.record (by simp)
  | ok item =>
    dsimp only
    cases found : turn.service.localSubscriptions.find? item.subscriptionId with
    | none => exact ordered.pop.record (by simp)
    | some mine =>
      obtain ⟨newer, goesOn⟩ := ordered.subscribes.receive parsed found
      have accepts : ∀ records, (∀ id, conflictingItem id ∉ records) →
          TurnOrdered other queue incoming drawn
            (acceptItem item.subscriptionId mine item (turn.record records)) := by
        intro records calm
        have logged := ordered.pop.record calm
        apply TurnOrdered.record _ (by simp)
        exact ⟨logged.publishes, goesOn _ rfl, logged.calm, logged.fits⟩
      have unlogged : turn.record [] = turn := by
        simp [EventTurn.record]
      dsimp only
      split_ifs with inactive unseen equal duplicate below gap
      · exact ordered.pop.record (by simp)
      · rw [← unlogged]
        exact accepts [] (by simp)
      · exact ordered.pop.record (by simp)
      · rw [Bool.not_eq_true', Bool.not_eq_false] at unseen
        exact absurd (newer unseen) (by rw [equal]; exact lt_irrefl _)
      · rw [Bool.not_eq_true', Bool.not_eq_false] at unseen
        exact absurd (newer unseen) (Nat.lt_asymm (UInt64.lt_iff_toNat_lt.mp below))
      · exact accepts _ (by simp)
      · rw [← unlogged]
        exact accepts [] (by simp)

theorem handleFrame (ordered : TurnOrdered other queue (frame :: incoming) drawn turn)
    (scopeCheck : List UInt8 → Bool) :
    TurnOrdered other queue incoming drawn (handleFrame scopeCheck (.ok ()) frame turn) := by
  obtain ⟨type, payload⟩ := frame
  unfold EventService.handleFrame EventService.admitFrame
  split_ifs
  · exact ordered.pop
  cases type with
  | subscribe => exact ordered.handleInboundSubscribe scopeCheck
  | item => exact ordered.handleInboundItem
  | unsubscribe => exact ordered.pop.handleInboundUnsubscribe payload

end TurnOrdered

/-! ### The link -/

namespace EventLink

variable {link : EventLink}

/-- Two services that have just been attached, with payload limits that fit a size. -/
def Starts (link : EventLink) : Prop :=
  (∀ side, ∃ config limits device, limits.maxEventPayloadBytes < 18446744073709551616 ∧
    link.services side =
      { config := config, limits := limits, localDevice := device, attached := true }) ∧
  (∀ side, link.queues side = []) ∧ link.drawn = []

/-- Random subscription ids do not repeat. -/
def Fresh (link : EventLink) (event : EventLinkEvent) : Prop :=
  match event.call with
  | .subscribe _ _ _ drawn => drawn ∉ link.drawn
  | _ => True

def InOrder (link : EventLink) (event : EventLinkEvent) : Prop :=
  match event.call with
  | .publish topic _ _ _ _ => (link.services event.side).InOrder topic
  | _ => True

instance (link : EventLink) : ∀ event, Decidable (link.Fresh event)
  | ⟨_, .subscribe _ _ _ drawn, _⟩ => inferInstanceAs (Decidable (drawn ∉ link.drawn))
  | ⟨_, .unsubscribe _, _⟩ => .isTrue trivial
  | ⟨_, .unsubscribeId _, _⟩ => .isTrue trivial
  | ⟨_, .publish _ _ _ _ _, _⟩ => .isTrue trivial
  | ⟨_, .prune, _⟩ => .isTrue trivial
  | ⟨_, .deliver _, _⟩ => .isTrue trivial

instance (link : EventLink) : ∀ event, Decidable (link.InOrder event)
  | ⟨_, .subscribe _ _ _ _, _⟩ => .isTrue trivial
  | ⟨_, .unsubscribe _, _⟩ => .isTrue trivial
  | ⟨_, .unsubscribeId _, _⟩ => .isTrue trivial
  | ⟨side, .publish topic _ _ _ _, _⟩ =>
    inferInstanceAs (Decidable ((link.services side).InOrder topic))
  | ⟨_, .prune, _⟩ => .isTrue trivial
  | ⟨_, .deliver _, _⟩ => .isTrue trivial

def Ordered (link : EventLink) : Prop :=
  ∀ side, TurnOrdered (link.services !side) (link.queues side) (link.queues !side) link.drawn
    ((link.services side).turn [])

theorem Starts.ordered (starts : link.Starts) : link.Ordered := by
  obtain ⟨services, queues, drawn⟩ := starts
  intro side
  obtain ⟨config, limits, device, fits, is⟩ := services side
  obtain ⟨config', limits', device', fits', is'⟩ := services !side
  rw [is, is', queues, queues, drawn]
  have empty : ∀ reader id, pending reader {} [] id = [] := fun _ _ => rfl
  have nothing : ∀ reader, EventFlow reader {} {} [] [] [] := by
    intro reader
    constructor <;> simp [empty, subscribedIds, contains]
  exact ⟨nothing _, nothing _, fun _ member => absurd member List.not_mem_nil, fits⟩

theorem Ordered.settle {side : Bool} {incoming : List EventFrame} {drawn : List EventSubscriptionId}
    {turn : EventTurn}
    (after : TurnOrdered (link.services !side) (link.queues side) incoming drawn turn)
    (before : link.Ordered) :
    Ordered { ({ link with queues := update link.queues (!side) incoming }.settle side turn)
      with drawn := drawn } := by
  have peer := before !side
  have different : side ≠ !side := by cases side <;> decide
  have queues : update link.queues (!side) incoming side = link.queues side :=
    update_of_ne different _ _
  intro which
  by_cases same : which = side
  · subst same
    simp only [EventLink.settle, update_self, update_of_ne (Ne.symm different),
      queues]
    exact ⟨by simpa [EventService.turn] using after.publishes,
      by simpa [EventService.turn] using after.subscribes, after.calm, after.fits⟩
  · have opposite : which = !side := by
      revert same
      cases which <;> cases side <;> decide
    subst opposite
    simp only [EventLink.settle, Bool.not_not, update_self,
      update_of_ne (Ne.symm different), queues]
    exact ⟨by simpa [EventService.turn] using after.subscribes,
      by simpa [EventService.turn] using after.publishes, peer.calm, peer.fits⟩

theorem Ordered.step (ordered : link.Ordered) {event : EventLinkEvent} (fresh : link.Fresh event)
    (inOrder : link.InOrder event) : (link.step event).Ordered := by
  obtain ⟨side, call, replies⟩ := event
  have begun : TurnOrdered (link.services !side) (link.queues side) (link.queues !side) link.drawn
      ((link.services side).turn replies) := by
    have idle := ordered side
    exact { idle with }
  have kept : update link.queues (!side) (link.queues !side) = link.queues := update_eq_self _ _
  have settles : ∀ {drawn turn}, TurnOrdered (link.services !side) (link.queues side)
      (link.queues !side) drawn turn → Ordered { link.settle side turn with drawn := drawn } := by
    intro drawn turn after
    have settled := Ordered.settle after ordered
    rwa [kept] at settled
  cases call with
  | subscribe pattern prefixMatch qos drawn => exact settles (begun.subscribe fresh _ _ _)
  | unsubscribe pattern => exact settles (begun.unsubscribeEntries pattern _)
  | unsubscribeId id => exact settles (begun.unsubscribeId id)
  | publish topic payload schemaVersion wallTime eventId =>
    exact settles (begun.publish inOrder _ _ _ _)
  | prune => exact settles begun.drainAll
  | deliver scopeCheck =>
    simp only [EventLink.step]
    cases waiting : link.queues !side with
    | nil => exact ordered
    | cons frame rest =>
      rw [waiting] at begun
      exact Ordered.settle (begun.handleFrame scopeCheck) ordered

end EventLink

open EventLink

/-- In every run in which each publish finds the next number of its topic above the
last one staged for every subscription it matches, no subscription is cut off as
conflicting. -/
theorem conforming_publisher_not_cut_off {link : EventLink}
    (run : Machine.Reaches step EventLink.Starts
      (fun link event => link.Fresh event ∧ link.InOrder event) link) (side : Bool)
    (id : EventSubscriptionId) : conflictingItem id ∉ (link.services side).log := by
  have ordered : link.Ordered :=
    run.invariant (fun _ starts => starts.ordered) fun _ _ ordered allowed =>
      ordered.step allowed.1 allowed.2
  exact (ordered side).calm id

namespace EventSample

def id : EventSubscriptionId := .filled 1

def service : EventService := { localDevice := .filled 7, attached := true }

def initial : EventLink := { services := fun _ => service }

theorem initial_starts : initial.Starts :=
  ⟨fun _ => ⟨{}, {}, service.localDevice, by decide, rfl⟩, fun _ => rfl, rfl⟩

/-- One side subscribes to everything under `a`, and the other takes it up. -/
def subscribes : List EventLinkEvent :=
  [⟨false, .subscribe (asciiBytes "a") true .reliableLive id, []⟩,
    ⟨true, .deliver fun _ => true, []⟩]

def publishes (topic : String) (number : UInt8) : List EventLinkEvent :=
  [⟨true, .publish (asciiBytes topic) [number] 1 none (.filled number), []⟩,
    ⟨false, .deliver fun _ => true, []⟩]

def orderly : List EventLinkEvent := subscribes ++ publishes "a.x" 1 ++ publishes "a.x" 2

/-- Two topics under the same subscription, each numbered from one. -/
def crossing : List EventLinkEvent := subscribes ++ publishes "a.x" 1 ++ publishes "a.y" 2

end EventSample

open EventSample in
theorem conforming_publisher_not_cut_off_sample :
    (((orderly.foldl step initial).services false).localSubscriptions.find? id).map
      LocalSubscription.newestSequence = some 2 ∧
    ∀ id, conflictingItem id ∉ ((orderly.foldl step initial).services false).log :=
  ⟨by decide +kernel, conforming_publisher_not_cut_off
    ((Machine.Reaches.start initial_starts).foldl (by decide +kernel)) false⟩

open EventSample in
/-- Two publishes over different topics cut a prefix subscription off. -/
theorem prefix_subscription_cut_off :
    Machine.Reaches step EventLink.Starts EventLink.Fresh (crossing.foldl step initial) ∧
    conflictingItem id ∈ ((crossing.foldl step initial).services false).log ∧
    ((crossing.foldl step initial).services false).localSubscriptions.find? id = none :=
  ⟨(Machine.Reaches.start initial_starts).foldl (by decide +kernel), by decide +kernel,
    by decide +kernel⟩

/-- The items that wait for a subscription, staged or under way, have increasing numbers, all of
them above the newest one that its holder has seen. -/
theorem pending_items_increase {link : EventLink}
    (run : Machine.Reaches step EventLink.Starts
      (fun link event => link.Fresh event ∧ link.InOrder event) link) (side : Bool)
    (id : EventSubscriptionId) :
    let waiting := pending (link.services !side).limits (link.services side).remoteSubscriptions
      (link.queues side) id
    waiting.Pairwise (· < ·) ∧
      ∀ mine, (link.services !side).localSubscriptions.find? id = some mine →
        mine.hasSequence = true → ∀ sequence ∈ waiting, mine.newestSequence.toNat < sequence := by
  have ordered : link.Ordered :=
    run.invariant (fun _ starts => starts.ordered) fun _ _ ordered allowed =>
      ordered.step allowed.1 allowed.2
  have flow := (ordered side).publishes
  rw [show link.queues side ++ ((link.services side).turn []).out = link.queues side from
    List.append_nil _] at flow
  exact ⟨flow.increasing id, flow.newer id⟩

open EventSample in
theorem pending_items_increase_sample :
    let link := (orderly.take 5).foldl step initial
    let waiting := pending (link.services false).limits (link.services true).remoteSubscriptions
      (link.queues true) id
    waiting = [2] ∧ waiting.Pairwise (· < ·) :=
  ⟨by decide +kernel, (pending_items_increase
    ((Machine.Reaches.start initial_starts).foldl (by decide +kernel)) true id).1⟩

end Heyaki
