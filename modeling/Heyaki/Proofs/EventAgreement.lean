/-
Purpose: what two event services agree on about the subscriptions between them.

A service looks an unsubscribe frame up among the subscriptions of its peer only, so
the holder of a subscription never learns that it was refused or ended.  The services
therefore refine the general protocol of subscriptions in those runs in which a refusal
meets a subscription that its holder no longer lists.

Main exports: `EventTurn.pair`, `refusals_meet_given_up_subscriptions`, `refusal_stays_unnoticed`
-/
import Heyaki.Foundation.Subscription
import Heyaki.Proofs.EventOrder

namespace Heyaki

open Foundation
open Foundation.Subscription (Notice Party Pair Step Steps Agrees)
open SortedMap EventTurn Function

/-! ### The services as parties of the protocol -/

def EventFrame.notice? (frame : EventFrame) : Option (Notice EventSubscriptionId) :=
  match frame.type with
  | .subscribe => (parseEventSubscribe frame.payload).toOption.map (.subscribe ·.subscriptionId)
  | .unsubscribe => (parseEventUnsubscribe frame.payload).toOption.map .unsubscribe
  | .item => none

/-- The subscription of the peer that a record refuses or ends. -/
def EventRecord.refusal? : EventRecord → Option EventSubscriptionId
  | .scopeRejected id | .limitHit id | .overflowed id => some id
  | _ => none

namespace EventService

variable (service : EventService)

def refused : List EventSubscriptionId := service.log.filterMap EventRecord.refusal?

def Lists (id : EventSubscriptionId) : Prop :=
  ∃ subscription, service.localSubscriptions.find? id = some subscription ∧
    subscription.active = true

instance (service : EventService) (id : EventSubscriptionId) : Decidable (service.Lists id) :=
  inferInstanceAs (Decidable (∃ subscription ∈ service.localSubscriptions.find? id,
    subscription.active = true))

def party (frames : List EventFrame) : Party EventSubscriptionId where
  listed := {id | id ∈ service.localSubscriptions.keys}
  live := {id | id ∈ service.remoteSubscriptions.keys}
  refused := {id | id ∈ service.refused}
  outgoing := frames.filterMap EventFrame.notice?

end EventService

open EventService

/-- A call at one side: `queue` is under way from it and `incoming` to it. -/
def EventTurn.pair (other : EventService) (queue incoming : List EventFrame)
    (drawn : List EventSubscriptionId) (turn : EventTurn) : Pair EventSubscriptionId where
  acting := turn.service.party (queue ++ turn.out)
  peer := other.party incoming
  drawn := {id | id ∈ drawn}

open EventFrame (notice?)
open EventRecord (refusal?)

/-- What a part of a call does is something that the protocol allows. -/
structure TurnRefines (other : EventService) (queue incoming : List EventFrame)
    (drawn : List EventSubscriptionId) (before after : EventTurn) : Prop where
  steps : Steps (before.pair other queue incoming drawn) (after.pair other queue incoming drawn)
  attached : after.service.attached = before.service.attached

variable {other : EventService} {queue incoming : List EventFrame}
  {drawn : List EventSubscriptionId} {turn : EventTurn} {topic : List UInt8}

namespace TurnRefines

theorem refl : TurnRefines other queue incoming drawn turn turn := ⟨.refl, rfl⟩

theorem trans {one two three : EventTurn} (first : TurnRefines other queue incoming drawn one two)
    (second : TurnRefines other queue incoming drawn two three) :
    TurnRefines other queue incoming drawn one three :=
  ⟨first.steps.trans second.steps, second.attached.trans first.attached⟩

theorem same {before after : EventTurn}
    (own : ∀ id, id ∈ after.service.localSubscriptions.keys ↔
      id ∈ before.service.localSubscriptions.keys)
    (remote : ∀ id, id ∈ after.service.remoteSubscriptions.keys ↔
      id ∈ before.service.remoteSubscriptions.keys)
    (refused : after.service.refused = before.service.refused)
    (out : after.out.filterMap notice? = before.out.filterMap notice?)
    (attached : after.service.attached = before.service.attached) :
    TurnRefines other queue incoming drawn before after := by
  refine ⟨?_, attached⟩
  have equal : after.pair other queue incoming drawn = before.pair other queue incoming drawn := by
    simp only [pair, party, own, remote, refused, List.filterMap_append, out]
  rw [equal]

theorem record {records : List EventRecord} (plain : records.filterMap refusal? = []) :
    TurnRefines other queue incoming drawn turn (turn.record records) := by
  have refused : (turn.record records).service.refused = turn.service.refused := by
    simp [EventTurn.record, refused, plain]
  exact same (fun _ => .rfl) (fun _ => .rfl) refused rfl rfl

end TurnRefines

/-! ### Unsubscribe frames -/

theorem keys_erase {β : Type} {map : SortedMap EventSubscriptionId β} {id : EventSubscriptionId} :
    {other | other ∈ (map.erase id).keys} = {other | other ∈ map.keys} \ {id} := by
  ext other
  exact mem_keys_erase

theorem EventTurn.sendUnsubscribe_spec (id : EventSubscriptionId) (turn : EventTurn) :
    ∃ frames replies records, turn.sendUnsubscribe id =
        record records { turn with out := turn.out ++ frames, replies } ∧
      (∀ notice ∈ frames.filterMap notice?, notice = Notice.unsubscribe id) ∧
      records.filterMap refusal? = [] := by
  unfold sendUnsubscribe
  cases encoded : encodeEventUnsubscribe id with
  | error error => exact ⟨[], turn.replies, [], by simp [record], nofun, rfl⟩
  | ok payload =>
    have named : (EventFrame.mk .unsubscribe payload).notice? = some (.unsubscribe id) := by
      simp [notice?, parseEventUnsubscribe_encode encoded, Except.toOption]
    dsimp only
    rcases turn.sendFrame_cases ⟨.unsubscribe, payload⟩ with
      ⟨replies, sent⟩ | ⟨error, replies, refused⟩
    · rw [sent]
      exact ⟨_, replies, _, rfl, by simp [named], rfl⟩
    · rw [refused]
      exact ⟨[], replies, [], by simp [record], nofun, rfl⟩

namespace TurnRefines

theorem withdraw {id : EventSubscriptionId}
    (listed : id ∈ turn.service.localSubscriptions.keys) :
    TurnRefines other queue incoming drawn turn
      (EventService.eraseLocal id (turn.sendUnsubscribe id)) := by
  obtain ⟨frames, replies, records, sent, told, plain⟩ := turn.sendUnsubscribe_spec id
  rw [sent]
  refine ⟨?_, rfl⟩
  simp only [pair, party, EventService.eraseLocal, EventTurn.record, refused, keys_erase,
    ← List.append_assoc, List.filterMap_append, plain, List.append_nil]
  exact .single (.withdraw listed told)

theorem tell {id : EventSubscriptionId} (refused : id ∈ turn.service.refused) :
    TurnRefines other queue incoming drawn turn (sendUnsubscribe id { turn with
      service := { turn.service with
        remoteSubscriptions := turn.service.remoteSubscriptions.erase id } }) := by
  obtain ⟨frames, replies, records, sent, told, plain⟩ := sendUnsubscribe_spec id
    { turn with service := { turn.service with
      remoteSubscriptions := turn.service.remoteSubscriptions.erase id } }
  rw [sent]
  refine ⟨?_, rfl⟩
  simp only [pair, party, EventTurn.record, EventService.refused, keys_erase,
    ← List.append_assoc, List.filterMap_append, plain, List.append_nil]
  exact .single (.tell refused told)

theorem unsubscribeEntries (pattern : List UInt8)
    {entries : List (EventSubscriptionId × LocalSubscription)}
    (distinct : (entries.map Prod.fst).Nodup)
    (present : ∀ entry ∈ entries, entry.1 ∈ turn.service.localSubscriptions.keys) :
    TurnRefines other queue incoming drawn turn
      (unsubscribeEntries pattern entries turn).2 := by
  induction entries generalizing turn with
  | nil => exact .refl
  | cons entry rest ih =>
    rw [List.map_cons, List.nodup_cons] at distinct
    unfold unsubscribeEntries
    split_ifs
    · apply (withdraw (present entry (List.mem_cons_self ..))).trans
      apply ih distinct.2
      intro later member
      obtain ⟨_, _, _, sent, -⟩ := turn.sendUnsubscribe_spec entry.1
      rw [sent]
      apply mem_keys_erase.mpr
      refine ⟨present later (List.mem_cons_of_mem _ member), fun equal => ?_⟩
      exact distinct.1 (List.mem_map.mpr ⟨later, member, equal⟩)
    · exact ih distinct.2 fun later member => present later (List.mem_cons_of_mem _ member)

theorem unsubscribeId (id : EventSubscriptionId) :
    TurnRefines other queue incoming drawn turn (unsubscribeId id turn).2 := by
  unfold EventService.unsubscribeId
  cases found : turn.service.localSubscriptions.find? id with
  | none => exact .refl
  | some subscription =>
    dsimp only
    split_ifs
    · exact .refl
    · exact withdraw (mem_keys_iff.mpr ⟨_, found⟩)

/-! ### Publishing -/

theorem drainEntries {entries : List (EventSubscriptionId × RemoteSubscription)}
    (present : ∀ entry ∈ entries, entry.1 ∈ turn.service.remoteSubscriptions.keys) :
    TurnRefines other queue incoming drawn turn (drainEntries entries turn) := by
  induction entries generalizing turn with
  | nil => exact .refl
  | cons entry rest ih =>
    obtain ⟨id, subscription⟩ := entry
    obtain ⟨sent, -, out, logged⟩ := drainStaged_spec id subscription.staged turn
    have known : id ∈ turn.service.remoteSubscriptions.keys :=
      present (id, subscription) (List.mem_cons_self ..)
    have keys : ∀ staged other, other ∈ (turn.service.remoteSubscriptions.insert id
        { subscription with staged := staged }).keys ↔
        other ∈ turn.service.remoteSubscriptions.keys := by
      intro staged other
      rw [mem_keys_insert, or_iff_right_iff_imp]
      rintro rfl
      exact known
    unfold drainEntries
    dsimp only
    rw [logged]
    refine TurnRefines.trans ?_ (ih fun later member => ?_)
    · refine same (fun _ => .rfl) (keys _) ?_ ?_ rfl
      · simp [EventTurn.record, refused, refusal?]
      · simp [out, notice?, comp_def]
    · exact (keys _ _).mpr (present later (List.mem_cons_of_mem _ member))

theorem drainAll (turn : EventTurn) :
    TurnRefines other queue incoming drawn turn (drainAll turn) :=
  drainEntries fun _ member => List.mem_map_of_mem member

theorem terminate {ids : List EventSubscriptionId}
    (refused : ∀ id ∈ ids, id ∈ turn.service.refused) :
    TurnRefines other queue incoming drawn turn
      (ids.foldl EventService.terminateRemoteSubscription turn) := by
  induction ids generalizing turn with
  | nil => exact .refl
  | cons id rest ih =>
    have logged : (turn.record [.terminated id]).service.refused = turn.service.refused := by
      simp [EventTurn.record, EventService.refused, refusal?]
    have told := refused id (List.mem_cons_self ..)
    rw [← logged] at told
    rw [List.foldl_cons]
    apply (record rfl).trans ((tell told).trans (ih _))
    intro later member
    obtain ⟨_, _, records, sent, -, plain⟩ := EventTurn.sendUnsubscribe_spec id
      (EventTurn.record [.terminated id] { turn with service := { turn.service with
        remoteSubscriptions := turn.service.remoteSubscriptions.erase id } })
    have before := refused later (List.mem_cons_of_mem _ member)
    rw [← logged] at before
    apply (congrArg (later ∈ ·.service.refused) sent).mpr
    simpa only [EventTurn.record, EventService.refused, List.filterMap_append, plain,
      List.append_nil] using before

end TurnRefines

namespace EventService

def Overflows (service : EventService) (topic : List UInt8) (subscription : RemoteSubscription) :
    Prop :=
  eventTopicMatches subscription.pattern subscription.prefixMatch topic = true ∧
    subscription.qos = .reliableLive ∧
    service.config.subscriberQueueItems ≤ subscription.staged.length

instance (service : EventService) (topic : List UInt8) (subscription : RemoteSubscription) :
    Decidable (service.Overflows topic subscription) :=
  inferInstanceAs (Decidable (_ ∧ _ ∧ _))

/-- The subscription is new, and the scope check or the limit is against it. -/
def Refuses (service : EventService) (scopeCheck : List UInt8 → Bool) (body : EventSubscribeBody) :
    Prop :=
  service.remoteSubscriptions.find? body.subscriptionId = none ∧
    (scopeCheck (eventSubscriptionScope body.topic) = false ∨
      service.config.maxSubscriptionsPerPeer ≤ service.remoteSubscriptions.size)

instance (service : EventService) (scopeCheck : List UInt8 → Bool) (body : EventSubscribeBody) :
    Decidable (service.Refuses scopeCheck body) :=
  inferInstanceAs (Decidable (_ ∧ (_ ∨ _)))

theorem overflows_of_stage {service : EventService} {item : EventItemBody}
    {id : EventSubscriptionId} {subscription : RemoteSubscription}
    (overflowed : stage service.config service.limits topic item id subscription = .overflowed) :
    service.Overflows topic subscription := by
  unfold stage at overflowed
  split at overflowed
  · cases overflowed
  rename_i matched
  split at overflowed
  · cases overflowed
  split at overflowed
  · cases overflowed
  · rename_i kind
    split_ifs at overflowed with full
    exact ⟨by simpa using matched, kind, full⟩

theorem refusals_of_results (results : List (EventSubscriptionId × Staging)) :
    (results.flatMap fun result => result.2.records result.1).filterMap refusal? =
      (results.filter fun result => result.2 == .overflowed).map Prod.fst := by
  induction results with
  | nil => rfl
  | cons result rest ih =>
    obtain ⟨id, staging⟩ := result
    rw [List.flatMap_cons, List.filterMap_append, ih]
    cases staging with
    | staged subscription overwrites => cases overwrites <;> rfl
    | unmatched => rfl
    | failed => rfl
    | overflowed => rfl

end EventService

namespace TurnRefines

theorem publish (givenUp : ∀ id subscription,
      turn.service.remoteSubscriptions.find? id = some subscription →
      turn.service.Overflows topic subscription → id ∉ other.localSubscriptions.keys)
    (payload : List UInt8) (schemaVersion : UInt32) (wallTime : Option Int64) (eventId : EventId) :
    TurnRefines other queue incoming drawn turn
      (publish topic payload schemaVersion wallTime eventId turn).2 := by
  unfold EventService.publish
  split_ifs with attached valid oversized
  · exact .refl
  · exact .refl
  · exact .refl
  extract_lets service sequence item staging results overflowed outcome staged terminated
  have refused : staged.service.refused = service.refused ++ overflowed := by
    simp only [refused, staged, EventTurn.record, List.filterMap_append]
    rw [refusals_of_results]
    rfl
  have each : ∀ id ∈ overflowed, id ∈ service.remoteSubscriptions.keys ∧
      id ∉ other.localSubscriptions.keys := by
    intro id member
    obtain ⟨result, selected, rfl⟩ := List.mem_map.mp member
    obtain ⟨produced, isOverflow⟩ := List.mem_filter.mp selected
    obtain ⟨entry, present, rfl⟩ := List.mem_map.mp produced
    have found := mem_entries_iff.mp present
    exact ⟨mem_keys_iff.mpr ⟨_, found⟩,
      givenUp _ _ found (overflows_of_stage (beq_iff_eq.mp isOverflow))⟩
  have closes : TurnRefines other queue incoming drawn turn staged := by
    refine ⟨?_, rfl⟩
    have after : staged.pair other queue incoming drawn = { turn.pair other queue incoming drawn
        with acting := { turn.service.party (queue ++ turn.out) with
          refused := {id | id ∈ turn.service.refused} ∪ {id | id ∈ overflowed} } } := by
      have ended : {id | id ∈ staged.service.refused} =
          {id | id ∈ turn.service.refused} ∪ {id | id ∈ overflowed} := by
        rw [refused]
        ext id
        exact List.mem_append
      have live : {id | id ∈ staged.service.remoteSubscriptions.keys} =
          {id | id ∈ turn.service.remoteSubscriptions.keys} := by
        ext id
        exact mem_keys_mapValues
      simp only [pair, party, ended, live]
      rfl
    rw [after]
    exact Steps.closes each
  refine closes.trans (TurnRefines.trans ?_ (drainAll _))
  refine TurnRefines.trans (terminate fun id member => ?_) (record rfl)
  rw [refused]
  exact List.mem_append_right _ member

end TurnRefines

/-! ### Subscribing, and frames of the peer -/

/-- A whole call, which may draw an id or take the first frame under way to it. -/
structure CallRefines (other : EventService) (queue incoming remaining : List EventFrame)
    (drawn draws : List EventSubscriptionId) (before after : EventTurn) : Prop where
  steps : Steps (before.pair other queue incoming drawn) (after.pair other queue remaining draws)
  attached : after.service.attached = before.service.attached

namespace CallRefines

variable {after : EventTurn} {id : EventSubscriptionId} {frame : EventFrame}
  {scopeCheck : List UInt8 → Bool}

theorem of_turn (refines : TurnRefines other queue incoming drawn turn after) :
    CallRefines other queue incoming incoming drawn drawn turn after :=
  ⟨refines.steps, refines.attached⟩

theorem then_turn {remaining : List EventFrame} {draws : List EventSubscriptionId}
    {middle : EventTurn}
    (first : CallRefines other queue incoming remaining drawn draws turn middle)
    (second : TurnRefines other queue remaining draws middle after) :
    CallRefines other queue incoming remaining drawn draws turn after :=
  ⟨first.steps.trans second.steps, second.attached.trans first.attached⟩

theorem subscribe (fresh : id ∉ drawn) (pattern : List UInt8) (prefixMatch : Bool)
    (qos : EventQos) :
    CallRefines other queue incoming incoming drawn (id :: drawn) turn
      (subscribe pattern prefixMatch qos id turn).2 := by
  have draws : {other | other ∈ id :: drawn} = insert id {other | other ∈ drawn} := by
    ext other
    exact List.mem_cons
  have unchanged : CallRefines other queue incoming incoming drawn (id :: drawn) turn turn := by
    refine ⟨?_, rfl⟩
    simp only [pair, draws]
    exact .single (.draw id)
  unfold EventService.subscribe
  split_ifs
  · exact unchanged
  · exact unchanged
  cases encoded : encodeEventSubscribe ⟨id, pattern, prefixMatch, qos⟩ with
  | error error => exact unchanged
  | ok payload =>
    have names : (EventFrame.mk .subscribe payload).notice? = some (.subscribe id) := by
      simp [notice?, parseEventSubscribe_encode encoded, Except.toOption]
    dsimp only
    rcases turn.sendFrame_cases ⟨.subscribe, payload⟩ with
      ⟨replies, sent⟩ | ⟨error, replies, refused⟩
    · rw [sent]
      refine CallRefines.then_turn ?_ (TurnRefines.record rfl)
      refine ⟨?_, rfl⟩
      have listed : ∀ value : LocalSubscription,
          {other | other ∈ (turn.service.localSubscriptions.insert id value).keys} =
          insert id {other | other ∈ turn.service.localSubscriptions.keys} := by
        intro value
        ext other
        exact mem_keys_insert
      simp only [pair, party, listed, draws, List.filterMap_append,
        List.filterMap_cons, names, List.filterMap_nil, ← List.append_assoc]
      exact .single (.announce fresh)
    · rw [refused]
      exact ⟨unchanged.steps, rfl⟩

theorem arrives {notice : Notice EventSubscriptionId} (names : frame.notice? = some notice) :
    (other.party (frame :: incoming)).outgoing =
      notice :: incoming.filterMap notice? := by
  simp only [party, List.filterMap_cons, names]

theorem skip (silent : frame.notice? = none) (turn : EventTurn) :
    CallRefines other queue (frame :: incoming) incoming drawn drawn turn turn := by
  refine ⟨?_, rfl⟩
  simp only [pair, party, List.filterMap_cons, silent]
  exact .refl

theorem accept {table : RemoteTable} (asks : frame.notice? = some (.subscribe id))
    (takes : ∀ other, other ∈ table.keys ↔
      other = id ∨ other ∈ turn.service.remoteSubscriptions.keys) :
    CallRefines other queue (frame :: incoming) incoming drawn drawn turn
      { turn with service := { turn.service with remoteSubscriptions := table } } := by
  refine ⟨?_, rfl⟩
  have live : {other | other ∈ table.keys} =
      insert id {other | other ∈ turn.service.remoteSubscriptions.keys} := by
    ext other
    exact takes other
  simp only [pair, party, live]
  exact .single (.accept (arrives asks))

theorem refuse {record : EventRecord} (asks : frame.notice? = some (.subscribe id))
    (refusal : record.refusal? = some id)
    (unknown : turn.service.remoteSubscriptions.find? id = none)
    (givenUp : id ∉ other.localSubscriptions.keys) :
    CallRefines other queue (frame :: incoming) incoming drawn drawn turn
      ((turn.record [record]).sendUnsubscribe id) := by
  have refused : (turn.record [record]).service.refused = turn.service.refused ++ [id] := by
    simp [EventTurn.record, refused, refusal]
  have marked : CallRefines other queue (frame :: incoming) incoming drawn drawn turn
      (turn.record [record]) := by
    refine ⟨?_, rfl⟩
    have marks : {other | other ∈ (turn.record [record]).service.refused} =
        insert id {other | other ∈ turn.service.refused} := by
      rw [refused]
      ext other
      simp [or_comm]
    simp only [pair, party, marks]
    exact .single (.refuse (arrives asks) givenUp)
  have told : id ∈ (turn.record [record]).service.refused := by
    rw [refused]
    exact List.mem_append_right _ (List.mem_singleton_self _)
  have erased : turn.service.remoteSubscriptions.erase id = turn.service.remoteSubscriptions :=
    erase_of_find?_none unknown
  have tells := marked.then_turn (TurnRefines.tell told)
  simp only [EventTurn.record, erased] at tells
  exact tells

theorem handleInboundSubscribe {payload : List UInt8}
    (givenUp : ∀ body ∈ (parseEventSubscribe payload).toOption,
      turn.service.Refuses scopeCheck body → body.subscriptionId ∉ other.localSubscriptions.keys) :
    CallRefines other queue (⟨.subscribe, payload⟩ :: incoming) incoming drawn drawn turn
      (handleInboundSubscribe scopeCheck payload turn) := by
  unfold EventService.handleInboundSubscribe
  cases parsed : parseEventSubscribe payload with
  | error error =>
    have silent : (EventFrame.mk .subscribe payload).notice? = none := by
      simp [notice?, parsed, Except.toOption]
    exact ((skip silent turn).then_turn (TurnRefines.record rfl)).then_turn (TurnRefines.record rfl)
  | ok body =>
    have asks : (EventFrame.mk .subscribe payload).notice? =
        some (.subscribe body.subscriptionId) := by
      simp [notice?, parsed, Except.toOption]
    have givenUp := givenUp body (by simp [parsed, Except.toOption])
    dsimp only
    cases known : turn.service.remoteSubscriptions.find? body.subscriptionId with
    | some existing =>
      have live : body.subscriptionId ∈ turn.service.remoteSubscriptions.keys :=
        mem_keys_iff.mpr ⟨_, known⟩
      have taken : CallRefines other queue (⟨.subscribe, payload⟩ :: incoming) incoming drawn
          drawn turn turn := by
        refine accept asks fun id => ?_
        refine ⟨.inr, ?_⟩
        rintro (rfl | before)
        · exact live
        · exact before
      dsimp only
      split_ifs
      · exact taken.then_turn (TurnRefines.record rfl)
      · exact taken.then_turn (TurnRefines.record rfl)
    | none =>
      split_ifs with scope full
      · exact refuse asks rfl known (givenUp ⟨known, .inl (by simpa using scope)⟩)
      · exact refuse asks rfl known (givenUp ⟨known, .inr full⟩)
      · refine CallRefines.then_turn ?_ (TurnRefines.record rfl)
        exact accept asks fun id => mem_keys_insert

theorem handleInboundUnsubscribe (payload : List UInt8) :
    CallRefines other queue (⟨.unsubscribe, payload⟩ :: incoming) incoming drawn drawn turn
      (handleInboundUnsubscribe payload turn) := by
  unfold EventService.handleInboundUnsubscribe
  cases parsed : parseEventUnsubscribe payload with
  | error error =>
    have silent : (EventFrame.mk .unsubscribe payload).notice? = none := by
      simp [notice?, parsed, Except.toOption]
    exact (skip silent turn).then_turn (TurnRefines.record rfl)
  | ok id =>
    have names : (EventFrame.mk .unsubscribe payload).notice? = some (.unsubscribe id) := by
      simp [notice?, parsed, Except.toOption]
    have released : CallRefines other queue (⟨.unsubscribe, payload⟩ :: incoming) incoming drawn
        drawn turn { turn with service := { turn.service with
          remoteSubscriptions := turn.service.remoteSubscriptions.erase id } } := by
      refine ⟨?_, rfl⟩
      simp only [pair, party, keys_erase]
      exact .single (.release (arrives names))
    dsimp only
    split_ifs with known
    · exact released.then_turn (TurnRefines.record rfl)
    have unknown : turn.service.remoteSubscriptions.find? id = none := by
      simpa [record, contains] using known
    rw [erase_of_find?_none unknown] at released
    exact (released.then_turn (TurnRefines.record rfl)).then_turn (TurnRefines.record rfl)

theorem handleInboundItem (payload : List UInt8) :
    CallRefines other queue (⟨.item, payload⟩ :: incoming) incoming drawn drawn turn
      (handleInboundItem payload turn) := by
  apply CallRefines.then_turn (skip rfl turn)
  unfold EventService.handleInboundItem
  cases parseEventItem payload turn.service.limits with
  | error error => exact .record rfl
  | ok item =>
    dsimp only
    cases found : turn.service.localSubscriptions.find? item.subscriptionId with
    | none => exact .record rfl
    | some mine =>
      have listed : item.subscriptionId ∈ turn.service.localSubscriptions.keys :=
        mem_keys_iff.mpr ⟨_, found⟩
      have accepts : ∀ records, records.filterMap refusal? = [] →
          TurnRefines other queue incoming drawn turn
            (acceptItem item.subscriptionId mine item (turn.record records)) := by
        intro records plain
        apply (TurnRefines.record plain).trans
        apply TurnRefines.trans _ (TurnRefines.record rfl)
        refine TurnRefines.same (fun id => ?_) (fun _ => .rfl) rfl rfl rfl
        rw [mem_keys_insert, or_iff_right_iff_imp]
        rintro rfl
        exact listed
      have closes : TurnRefines other queue incoming drawn turn
          (closeConflicting item.subscriptionId turn) :=
        (TurnRefines.record rfl).trans (TurnRefines.withdraw listed)
      have plainly : TurnRefines other queue incoming drawn turn
          (acceptItem item.subscriptionId mine item turn) := by
        have unlogged : turn.record [] = turn := by
          simp [record]
        have accepted := accepts [] rfl
        rwa [unlogged] at accepted
      dsimp only
      split_ifs
      · exact .record rfl
      · exact plainly
      · exact .record rfl
      · exact closes
      · exact closes
      · exact accepts _ rfl
      · exact plainly

theorem handleFrame (attached : turn.service.attached = true)
    (givenUp : frame.type = .subscribe → ∀ body ∈ (parseEventSubscribe frame.payload).toOption,
      turn.service.Refuses scopeCheck body → body.subscriptionId ∉ other.localSubscriptions.keys) :
    CallRefines other queue (frame :: incoming) incoming drawn drawn turn
      (handleFrame scopeCheck (.ok ()) frame turn) := by
  obtain ⟨type, payload⟩ := frame
  unfold handleFrame admitFrame
  rw [if_neg (by simp [attached])]
  cases type with
  | subscribe => exact handleInboundSubscribe (givenUp rfl)
  | item => exact handleInboundItem payload
  | unsubscribe => exact handleInboundUnsubscribe payload

end CallRefines

/-! ### The link -/

namespace EventLink

variable {link : EventLink}

/-- A refusal or an overflow meets only subscriptions that their holder has given up. -/
def GivenUp (link : EventLink) (event : EventLinkEvent) : Prop :=
  match event.call with
  | .publish topic _ _ _ _ => ∀ id subscription,
      (link.services event.side).remoteSubscriptions.find? id = some subscription →
      (link.services event.side).Overflows topic subscription →
        id ∉ (link.services !event.side).localSubscriptions.keys
  | .deliver scopeCheck => ∀ frame ∈ (link.queues !event.side).head?, frame.type = .subscribe →
      ∀ body ∈ (parseEventSubscribe frame.payload).toOption,
      (link.services event.side).Refuses scopeCheck body →
        body.subscriptionId ∉ (link.services !event.side).localSubscriptions.keys
  | _ => True

instance (link : EventLink) : ∀ event, Decidable (link.GivenUp event)
  | ⟨_, .subscribe _ _ _ _, _⟩ => .isTrue trivial
  | ⟨_, .unsubscribe _, _⟩ => .isTrue trivial
  | ⟨_, .unsubscribeId _, _⟩ => .isTrue trivial
  | ⟨side, .publish topic _ _ _ _, _⟩ =>
    decidable_of_iff (∀ entry ∈ (link.services side).remoteSubscriptions.entries,
        (link.services side).Overflows topic entry.2 →
          entry.1 ∉ (link.services !side).localSubscriptions.keys)
      ⟨fun each _ _ found => each _ (mem_entries_iff.mpr found),
        fun each entry member => each entry.1 entry.2 (mem_entries_iff.mp member)⟩
  | ⟨_, .prune, _⟩ => .isTrue trivial
  | ⟨side, .deliver scopeCheck, _⟩ =>
    inferInstanceAs (Decidable (∀ frame ∈ (link.queues !side).head?, frame.type = .subscribe →
      ∀ body ∈ (parseEventSubscribe frame.payload).toOption,
        (link.services side).Refuses scopeCheck body →
          body.subscriptionId ∉ (link.services !side).localSubscriptions.keys))

/-- The link as the protocol sees it from a side. -/
def pair (link : EventLink) (side : Bool) : Pair EventSubscriptionId :=
  ((link.services side).turn []).pair (link.services !side) (link.queues side) (link.queues !side)
    link.drawn

theorem pair_not (link : EventLink) (side : Bool) : link.pair (!side) = (link.pair side).swap := by
  simp [pair, EventTurn.pair, turn, Pair.swap]

structure Agreed (link : EventLink) : Prop where
  attached : ∀ side, (link.services side).attached = true
  agrees : ∀ side, Agrees (link.pair side)

theorem Starts.agreed (starts : link.Starts) : link.Agreed := by
  obtain ⟨services, queues, drawn⟩ := starts
  refine ⟨fun side => ?_, fun side => ?_⟩
  · obtain ⟨config, limits, device, -, is⟩ := services side
    rw [is]
  · have nothing : ∀ which, (link.services which).party [] = ⟨∅, ∅, ∅, []⟩ := by
      intro which
      obtain ⟨config, limits, device, -, is⟩ := services which
      rw [is]
      ext <;> simp [party, keys, refused]
    have holds : @Foundation.Subscription.Holds EventSubscriptionId ⟨∅, ∅, ∅, []⟩
        ⟨∅, ∅, ∅, []⟩ ∅ :=
      ⟨nofun, nofun, nofun, nofun, nofun, nofun, nofun, nofun⟩
    have is : link.pair side = ⟨⟨∅, ∅, ∅, []⟩, ⟨∅, ∅, ∅, []⟩, ∅⟩ := by
      simp [pair, EventTurn.pair, turn, queues, drawn, nothing]
    rw [is]
    exact ⟨holds, holds⟩

theorem Agreed.settle {side : Bool} {incoming : List EventFrame} {drawn : List EventSubscriptionId}
    {replies : List (Option Error)} {turn : EventTurn} (before : link.Agreed)
    (refines : CallRefines (link.services !side) (link.queues side) (link.queues !side) incoming
      link.drawn drawn ((link.services side).turn replies) turn) :
    Agreed { ({ link with queues := update link.queues (!side) incoming }.settle side turn)
      with drawn := drawn } := by
  have different : side ≠ !side := by cases side <;> decide
  have agrees : Agrees (turn.pair (link.services !side) (link.queues side) incoming drawn) :=
    (before.agrees side).steps refines.steps
  have either : ∀ which, which = side ∨ which = !side := by
    intro which
    cases which <;> cases side <;> decide
  generalize is : { ({ link with queues := update link.queues (!side) incoming }.settle
    side turn) with drawn := drawn } = after
  have here : after.pair side =
      turn.pair (link.services !side) (link.queues side) incoming drawn := by
    subst is
    simp [pair, EventTurn.pair, EventService.turn, EventLink.settle]
  refine ⟨fun which => ?_, fun which => ?_⟩
  · rcases either which with rfl | rfl
    · subst is
      simp only [EventLink.settle, update_self]
      exact refines.attached.trans (before.attached _)
    · subst is
      simp only [EventLink.settle, update_of_ne (Ne.symm different)]
      exact before.attached _
  · rcases either which with rfl | rfl
    · rw [here]
      exact agrees
    · rw [pair_not, here]
      exact agrees.swap

theorem Agreed.step (agreed : link.Agreed) {event : EventLinkEvent} (fresh : link.Fresh event)
    (givenUp : link.GivenUp event) : (link.step event).Agreed := by
  obtain ⟨side, call, replies⟩ := event
  have kept : update link.queues (!side) (link.queues !side) = link.queues := update_eq_self _ _
  have settles : ∀ {drawn turn}, CallRefines (link.services !side) (link.queues side)
      (link.queues !side) (link.queues !side) link.drawn drawn
      ((link.services side).turn replies) turn →
      Agreed { link.settle side turn with drawn := drawn } := by
    intro drawn turn refines
    have settled := agreed.settle refines
    rwa [kept] at settled
  cases call with
  | subscribe pattern prefixMatch qos drawn => exact settles (.subscribe fresh _ _ _)
  | unsubscribe pattern =>
    exact settles (.of_turn (.unsubscribeEntries pattern (keys_nodup _)
      fun _ member => List.mem_map_of_mem member))
  | unsubscribeId id => exact settles (.of_turn (.unsubscribeId id))
  | publish topic payload schemaVersion wallTime eventId =>
    apply settles
    apply CallRefines.of_turn
    apply TurnRefines.publish
    exact givenUp
  | prune => exact settles (.of_turn (.drainAll _))
  | deliver scopeCheck =>
    simp only [EventLink.step]
    cases waiting : link.queues !side with
    | nil => exact agreed
    | cons frame rest =>
      apply agreed.settle
      rw [waiting]
      apply CallRefines.handleFrame (agreed.attached side)
      exact givenUp frame (by simp [waiting])

end EventLink

/-- In every run in which refusals and overflows meet only subscriptions that their
holder has given up, none that was refused or ended is active, and once nothing is under
way every active subscription is served by the peer. -/
theorem refusals_meet_given_up_subscriptions {link : EventLink}
    (run : Machine.Reaches EventLink.step EventLink.Starts
      (fun link event => link.Fresh event ∧ link.GivenUp event) link) (side : Bool)
    (id : EventSubscriptionId) (active : (link.services side).Lists id) :
    id ∉ (link.services !side).refused ∧
      ((∀ which, link.queues which = []) →
        (link.services !side).remoteSubscriptions.contains id = true) := by
  have agreed : link.Agreed :=
    run.invariant (fun _ starts => starts.agreed) fun _ _ agreed allowed =>
      agreed.step allowed.1 allowed.2
  obtain ⟨subscription, found, -⟩ := active
  have listed : id ∈ (link.services side).localSubscriptions.keys := mem_keys_iff.mpr ⟨_, found⟩
  refine ⟨(agreed.agrees side).1.observed id listed, fun quiet => ?_⟩
  have outgoing : (link.pair side).acting.outgoing = [] := by
    simp [EventLink.pair, pair, party, turn, quiet side]
  exact contains_iff.mpr ((agreed.agrees side).served outgoing listed)

namespace EventSample

def subscribesTo (id : EventSubscriptionId) : EventLinkEvent :=
  ⟨false, .subscribe (asciiBytes "a") true .reliableLive id, []⟩

def deliversTo (side scope : Bool) : EventLinkEvent := ⟨side, .deliver fun _ => scope, []⟩

def second : EventSubscriptionId := .filled 2

/-- A subscription given up at once is refused, and another one taken up. -/
def withdrawn : List EventLinkEvent :=
  [subscribesTo id, ⟨false, .unsubscribeId id, []⟩, subscribesTo second, deliversTo true false,
    deliversTo true true, deliversTo true true, deliversTo false true]

/-- The same subscription is refused while its holder still lists it. -/
def refused : List EventLinkEvent := [subscribesTo id, deliversTo true false, deliversTo false true]

/-- Room for one staged item. -/
def narrow : EventLink :=
  { services := fun _ => { service with config := { subscriberQueueItems := 1 } } }

theorem narrow_starts : narrow.Starts :=
  ⟨fun _ => ⟨{ subscriberQueueItems := 1 }, {}, service.localDevice, by decide, rfl⟩,
    fun _ => rfl, rfl⟩

/-- While the channel takes no items the second publish overflows. -/
def overflows : List EventLinkEvent :=
  [subscribesTo id, deliversTo true true,
    ⟨true, .publish (asciiBytes "a.x") [1] 1 none id, [some (eventServiceError .wouldBlock "")]⟩,
    ⟨true, .publish (asciiBytes "a.x") [2] 1 none second, []⟩, deliversTo false true]

end EventSample

open EventSample in
theorem refusals_meet_given_up_subscriptions_sample :
    EventSample.id ∈ ((withdrawn.foldl EventLink.step initial).services true).refused ∧
    second ∉ ((withdrawn.foldl EventLink.step initial).services true).refused ∧
    ((∀ which, (withdrawn.foldl EventLink.step initial).queues which = []) →
      ((withdrawn.foldl EventLink.step initial).services true).remoteSubscriptions.contains
        second = true) :=
  ⟨by decide +kernel, refusals_meet_given_up_subscriptions
    ((Machine.Reaches.start initial_starts).foldl (by decide +kernel)) false second
    (by decide +kernel)⟩

/-- Nothing is under way, and one side lists what the other has refused or ended. -/
def EventLink.Stranded (link : EventLink) (id : EventSubscriptionId) : Prop :=
  (∀ side, link.queues side = []) ∧ (link.services false).Lists id ∧
    id ∈ (link.services true).refused ∧
    (link.services true).remoteSubscriptions.contains id = false

instance (link : EventLink) (id : EventSubscriptionId) : Decidable (link.Stranded id) :=
  inferInstanceAs (Decidable (_ ∧ _ ∧ _ ∧ _))

open EventSample in
/-- A refused subscription, and one that has overflowed, stay active after the unsubscribe
frame has arrived. -/
theorem refusal_stays_unnoticed :
    (Machine.Reaches EventLink.step EventLink.Starts EventLink.Fresh
        (refused.foldl EventLink.step initial) ∧
      (refused.foldl EventLink.step initial).Stranded EventSample.id) ∧
    Machine.Reaches EventLink.step EventLink.Starts EventLink.Fresh
        (overflows.foldl EventLink.step narrow) ∧
      (overflows.foldl EventLink.step narrow).Stranded EventSample.id :=
  ⟨⟨(Machine.Reaches.start initial_starts).foldl (by decide +kernel), by decide +kernel⟩,
    (Machine.Reaches.start narrow_starts).foldl (by decide +kernel), by decide +kernel⟩

end Heyaki
