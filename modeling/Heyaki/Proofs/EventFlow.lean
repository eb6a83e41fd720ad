/-
Purpose: the items of one subscription on their way from the publisher's staging queue
to the subscriber.

`EventFlow` is about one direction of a link.  What waits for a subscription, in the channel
and then in its staging queue, carries increasing sequence numbers above the newest one
the subscriber has seen.
-/
import Heyaki.Client.EventService
import Heyaki.Proofs.EventProtocol

namespace Heyaki

open Foundation
open SortedMap (find?_insert find?_erase find?_mapValues find?_of_erase find?_of_insert)
open List

/-! ### Frames under way -/

variable (reader : Limits) {frames : List EventFrame} {payload : List UInt8} {item : EventItemBody}

def EventFrame.item? (frame : EventFrame) : Option EventItemBody :=
  match frame.type with
  | .item => (parseEventItem frame.payload reader).toOption
  | _ => none

def EventFrame.subscribed? (frame : EventFrame) : Option EventSubscriptionId :=
  match frame.type with
  | .subscribe => (parseEventSubscribe frame.payload).toOption.map fun body => body.subscriptionId
  | _ => none

/-- The sequence numbers of the items of a subscription among frames. -/
def sequences (id : EventSubscriptionId) (frames : List EventFrame) : List Nat :=
  frames.filterMap fun frame => (frame.item? reader).bind fun item =>
    if item.subscriptionId = id then some item.publisherSequence.toNat else none

def subscribedIds (frames : List EventFrame) : List EventSubscriptionId :=
  frames.filterMap EventFrame.subscribed?

abbrev RemoteTable := SortedMap EventSubscriptionId RemoteSubscription
abbrev LocalTable := SortedMap EventSubscriptionId LocalSubscription

/-- What is staged for a subscription, as the frames that will carry it. -/
def stagedFrames (remote : RemoteTable) (id : EventSubscriptionId) : List EventFrame :=
  match remote.find? id with
  | some subscription => subscription.staged.map (EventFrame.mk .item)
  | none => []

def pending (remote : RemoteTable) (forward : List EventFrame) (id : EventSubscriptionId) :
    List Nat :=
  sequences reader id (forward ++ stagedFrames remote id)

section Frames

variable {reader : Limits} {id : EventSubscriptionId}

@[simp] theorem sequences_append (one two : List EventFrame) :
    sequences reader id (one ++ two) = sequences reader id one ++ sequences reader id two :=
  filterMap_append

@[simp] theorem subscribedIds_append (one two : List EventFrame) :
    subscribedIds (one ++ two) = subscribedIds one ++ subscribedIds two :=
  filterMap_append

theorem sequences_eq_nil (noItem : ∀ frame ∈ frames, frame.type ≠ .item) :
    sequences reader id frames = [] := by
  apply filterMap_eq_nil_iff.mpr
  intro frame member
  have type := noItem frame member
  unfold EventFrame.item?
  cases kind : frame.type with
  | item => exact absurd kind type
  | subscribe => rfl
  | unsubscribe => rfl

theorem subscribedIds_eq_nil
    (noSubscribe : ∀ frame ∈ frames, frame.type ≠ .subscribe) : subscribedIds frames = [] := by
  apply filterMap_eq_nil_iff.mpr
  intro frame member
  have type := noSubscribe frame member
  unfold EventFrame.subscribed?
  cases kind : frame.type with
  | subscribe => exact absurd kind type
  | item => rfl
  | unsubscribe => rfl

theorem sequences_item (rest : List EventFrame)
    (parsed : parseEventItem payload reader = .ok item) :
    sequences reader id (⟨.item, payload⟩ :: rest) =
      (if item.subscriptionId = id then [item.publisherSequence.toNat] else []) ++
        sequences reader id rest := by
  rw [sequences, filterMap_cons]
  simp only [EventFrame.item?, parsed, Except.toOption, Option.bind_some]
  split_ifs <;> rfl

theorem sequences_tail_sublist (frame : EventFrame) (rest : List EventFrame) :
    (sequences reader id rest).Sublist (sequences reader id (frame :: rest)) := by
  rw [← singleton_append, sequences_append]
  exact sublist_append_right _ _

end Frames

/-! ### One direction -/

/-- From a publisher with the table `remote` to a subscriber with the table `own`, that
reads with the limits `reader`.  `forward` is under way to the subscriber, `backward` to
the publisher. -/
structure EventFlow (reader : Limits) (remote : RemoteTable) (own : LocalTable)
    (forward backward : List EventFrame) (drawn : List EventSubscriptionId) : Prop where
  /-- What is staged for a subscription carries its id. -/
  tagged : ∀ id subscription, remote.find? id = some subscription →
    ∀ payload ∈ subscription.staged, ∀ item, parseEventItem payload reader = .ok item →
      item.subscriptionId = id
  increasing : ∀ id, (pending reader remote forward id).Pairwise (· < ·)
  newer : ∀ id subscription, own.find? id = some subscription → subscription.hasSequence = true →
    ∀ sequence ∈ pending reader remote forward id, subscription.newestSequence.toNat < sequence
  bounded : ∀ id subscription, remote.find? id = some subscription →
    ∀ sequence ∈ pending reader remote forward id,
      subscription.stagedValid = true ∧ sequence ≤ subscription.lastStagedSequence.toNat
  seen : ∀ id subscription, remote.find? id = some subscription → ∀ mine, own.find? id = some mine →
    mine.hasSequence = true → subscription.stagedValid = true ∧
      mine.newestSequence.toNat ≤ subscription.lastStagedSequence.toNat
  /-- A subscription that is under way has no past. -/
  awaited : ∀ id ∈ subscribedIds backward, remote.find? id = none ∧
    pending reader remote forward id = [] ∧
    ∀ mine, own.find? id = some mine → mine.hasSequence = false
  once : (subscribedIds backward).Nodup
  drawnRemote : ∀ id, remote.contains id = true → id ∈ drawn
  drawnPending : ∀ id, pending reader remote forward id ≠ [] → id ∈ drawn
  drawnAwaited : ∀ id ∈ subscribedIds backward, id ∈ drawn

namespace EventFlow

variable {reader : Limits} {remote : RemoteTable} {own : LocalTable}
  {forward backward : List EventFrame} {drawn : List EventSubscriptionId} {frame : EventFrame}
  {id : EventSubscriptionId} {subscription before after : RemoteSubscription} {sequence : Nat}
  {mine : LocalSubscription}

/-- A subscription of the peer goes on: what is staged carries its id, and the numbers
staged for it rise. -/
structure Continues (reader : Limits) (id : EventSubscriptionId)
    (before after : RemoteSubscription) : Prop where
  tagged : ∀ payload ∈ after.staged, payload ∈ before.staged ∨
    ∀ item, parseEventItem payload reader = .ok item → item.subscriptionId = id
  risen : ∀ {number}, before.stagedValid = true ∧ number ≤ before.lastStagedSequence.toNat →
    after.stagedValid = true ∧ number ≤ after.lastStagedSequence.toNat

theorem Continues.of_sublist {staged : List (List UInt8)}
    (fewer : staged.Sublist subscription.staged) :
    Continues reader id subscription { subscription with staged := staged } :=
  ⟨fun _ member => .inl (fewer.subset member), fun has => has⟩

/-- A number above all before it joins those that wait. -/
def Joins (remote table : RemoteTable) (id : EventSubscriptionId) (waiting after : List Nat) : Prop :=
  ∃ old new, remote.find? id = some old ∧ table.find? id = some new ∧
    after.Sublist (waiting ++ [new.lastStagedSequence.toNat]) ∧ new.stagedValid = true ∧
    (old.stagedValid = true → old.lastStagedSequence.toNat < new.lastStagedSequence.toNat)

section

variable (flow : EventFlow reader remote own forward backward drawn)

include flow

/-- The publisher's side goes on: subscriptions end or continue, and nothing new waits for
one, or a number above all before it. -/
theorem goes_on {table : RemoteTable} (back : ∀ {id after}, table.find? id = some after →
      ∃ before, remote.find? id = some before ∧ Continues reader id before after)
    (waits : ∀ id, (pending reader table frames id).Sublist (pending reader remote forward id) ∨
      Joins remote table id (pending reader remote forward id) (pending reader table frames id)) :
    EventFlow reader table own frames backward drawn := by
  have below : ∀ {id before sequence}, remote.find? id = some before →
      (before.stagedValid = true → before.lastStagedSequence.toNat < sequence) →
      ∀ number ∈ pending reader remote forward id, number < sequence := by
    intro id before sequence was above number member
    obtain ⟨valid, atMost⟩ := flow.bounded id before was number member
    exact lt_of_le_of_lt atMost (above valid)
  have nothing : ∀ {id}, remote.find? id = none → pending reader remote forward id = [] →
      pending reader table frames id = [] := by
    intro id none empty
    rcases waits id with fewer | ⟨before, after, was, -⟩
    · exact sublist_nil.mp (empty ▸ fewer)
    · cases none.symm.trans was
  refine { flow with
    tagged := ?_, increasing := ?_, newer := ?_, bounded := ?_, seen := ?_, awaited := ?_
    drawnRemote := ?_, drawnPending := ?_ }
  · intro id after is payload member item parsed
    obtain ⟨before, was, continues⟩ := back is
    rcases continues.tagged payload member with old | new
    · exact flow.tagged id before was payload old item parsed
    · exact new item parsed
  · intro id
    rcases waits id with fewer | ⟨before, after, was, -, joins, -, above⟩
    · exact (flow.increasing id).sublist fewer
    apply List.Pairwise.sublist joins
    apply pairwise_append.mpr
    refine ⟨flow.increasing id, pairwise_singleton _ _, ?_⟩
    intro number member other new
    cases mem_singleton.mp new
    exact below was above number member
  · intro id mine is has number member
    rcases waits id with fewer | ⟨before, after, was, -, joins, -, above⟩
    · exact flow.newer id mine is has number (fewer.subset member)
    rcases mem_append.mp (joins.subset member) with old | new
    · exact flow.newer id mine is has number old
    · cases mem_singleton.mp new
      obtain ⟨valid, atMost⟩ := flow.seen id before was mine is has
      exact lt_of_le_of_lt atMost (above valid)
  · intro id after is number member
    rcases waits id with fewer | ⟨before, other, was, same, joins, valid, above⟩
    · obtain ⟨before, was, continues⟩ := back is
      exact continues.risen (flow.bounded id before was number (fewer.subset member))
    cases is.symm.trans same
    refine ⟨valid, ?_⟩
    rcases mem_append.mp (joins.subset member) with old | new
    · exact le_of_lt (below was above number old)
    · exact le_of_eq (mem_singleton.mp new)
  · intro id after is mine found has
    obtain ⟨before, was, continues⟩ := back is
    exact continues.risen (flow.seen id before was mine found has)
  · intro id member
    obtain ⟨none, empty, fresh⟩ := flow.awaited id member
    refine ⟨?_, nothing none empty, fresh⟩
    by_contra some
    obtain ⟨after, is⟩ := Option.ne_none_iff_exists'.mp some
    obtain ⟨before, was, -⟩ := back is
    cases none.symm.trans was
  · intro id present
    obtain ⟨after, is⟩ := Option.isSome_iff_exists.mp present
    obtain ⟨before, was, -⟩ := back is
    exact flow.drawnRemote id (Option.isSome_iff_exists.mpr ⟨before, was⟩)
  · intro id waiting
    cases was : remote.find? id with
    | some before => exact flow.drawnRemote id (Option.isSome_iff_exists.mpr ⟨before, was⟩)
    | none => exact flow.drawnPending id fun empty => waiting (nothing was empty)

theorem forward_sublist {less : List EventFrame}
    (sublist : ∀ id, (pending reader remote less id).Sublist (pending reader remote forward id)) :
    EventFlow reader remote own less backward drawn :=
  flow.goes_on (fun is => ⟨_, is, .of_sublist (List.Sublist.refl _)⟩) fun id => .inl (sublist id)

end

theorem forward_pop (flow : EventFlow reader remote own (frame :: forward) backward drawn) :
    EventFlow reader remote own forward backward drawn := by
  apply flow.forward_sublist
  intro id
  exact sequences_tail_sublist frame _

theorem forward_append (flow : EventFlow reader remote own forward backward drawn)
    (noItem : ∀ frame ∈ frames, frame.type ≠ .item) :
    EventFlow reader remote own (forward ++ frames) backward drawn := by
  apply flow.forward_sublist
  intro id
  simp [pending, sequences_eq_nil noItem]

theorem backward_pop (flow : EventFlow reader remote own forward (frame :: backward) drawn) :
    EventFlow reader remote own forward backward drawn := by
  have later : (subscribedIds backward).Sublist (subscribedIds (frame :: backward)) := by
    rw [← singleton_append, subscribedIds_append]
    exact sublist_append_right _ _
  exact { flow with
    awaited := fun id member => flow.awaited id (later.subset member)
    once := flow.once.sublist later
    drawnAwaited := fun id member => flow.drawnAwaited id (later.subset member) }

section

variable (flow : EventFlow reader remote own forward backward drawn)

include flow

theorem backward_append (noSubscribe : ∀ frame ∈ frames, frame.type ≠ .subscribe) :
    EventFlow reader remote own forward (backward ++ frames) drawn := by
  have same : subscribedIds (backward ++ frames) = subscribedIds backward := by
    rw [subscribedIds_append, subscribedIds_eq_nil noSubscribe, append_nil]
  exact { flow with
    awaited := same ▸ flow.awaited
    once := same ▸ flow.once
    drawnAwaited := same ▸ flow.drawnAwaited }

theorem own_erase : EventFlow reader remote (own.erase id) forward backward drawn := by
  have subset : ∀ other mine, (own.erase id).find? other = some mine →
      own.find? other = some mine := fun other mine found => (find?_of_erase found).2
  exact { flow with
    newer := fun id mine found => flow.newer id mine (subset id mine found)
    seen := fun id subscription found mine own => flow.seen id subscription found mine (subset id mine own)
    awaited := fun id member => by
      obtain ⟨absent, empty, fresh⟩ := flow.awaited id member
      exact ⟨absent, empty, fun mine found => fresh mine (subset id mine found)⟩ }

theorem drawn_cons : EventFlow reader remote own forward backward (id :: drawn) :=
  { flow with
    drawnRemote := fun other found => mem_cons_of_mem _ (flow.drawnRemote other found)
    drawnPending := fun other found => mem_cons_of_mem _ (flow.drawnPending other found)
    drawnAwaited := fun other found => mem_cons_of_mem _ (flow.drawnAwaited other found) }

/-! ### Draining and ending subscriptions -/

end

theorem pending_insert (remote : RemoteTable) (id other : EventSubscriptionId)
    (subscription : RemoteSubscription) :
    pending reader (remote.insert id subscription) forward other =
      if other = id then
        sequences reader id (forward ++ subscription.staged.map (EventFrame.mk .item))
      else pending reader remote forward other := by
  unfold pending stagedFrames
  rw [find?_insert]
  split_ifs with same
  · rw [same]
  · rfl

section

variable (flow : EventFlow reader remote own forward backward drawn)

include flow

theorem remote_erase
    (id : EventSubscriptionId) : EventFlow reader (remote.erase id) own forward backward drawn := by
  refine flow.goes_on (fun found => ?_) fun other => .inl ?_
  · exact ⟨_, (find?_of_erase found).2, .of_sublist (List.Sublist.refl _)⟩
  · unfold pending stagedFrames
    rw [find?_erase]
    split_ifs with same
    · rw [append_nil, sequences_append]
      exact sublist_append_left _ _
    · exact List.Sublist.refl _

theorem drain (found : remote.find? id = some subscription)
    {sent rest : List (List UInt8)} (split : subscription.staged = sent ++ rest) :
    EventFlow reader (remote.insert id { subscription with staged := rest }) own
      (forward ++ sent.map (EventFrame.mk .item)) backward drawn := by
  have same : ∀ other, pending reader (remote.insert id { subscription with staged := rest })
      (forward ++ sent.map (EventFrame.mk .item)) other = pending reader remote forward other := by
    intro other
    rw [pending_insert]
    split_ifs with equal
    · subst equal
      unfold pending stagedFrames
      rw [found]
      dsimp only
      rw [split, map_append, append_assoc]
    · unfold pending
      have foreign : sequences reader other (sent.map (EventFrame.mk .item)) = [] := by
        apply filterMap_eq_nil_iff.mpr
        intro frame member
        obtain ⟨payload, staged, rfl⟩ := mem_map.mp member
        have belongs := flow.tagged id subscription found payload (split ▸ mem_append_left _ staged)
        simp only [EventFrame.item?]
        cases parsed : parseEventItem payload reader with
        | error error => rfl
        | ok item => simp [Except.toOption, belongs item parsed, Ne.symm equal]
      rw [sequences_append, sequences_append, foreign, append_nil, ← sequences_append]
  refine flow.goes_on (fun is => ?_) fun other => .inl (same other ▸ List.Sublist.refl _)
  -- the table differs in what is staged only
  rcases find?_of_insert is with ⟨rfl, rfl⟩ | ⟨-, old⟩
  · exact ⟨subscription, found, .of_sublist (split ▸ sublist_append_right _ _)⟩
  · exact ⟨_, old, .of_sublist (List.Sublist.refl _)⟩

end

/-! ### Publishing -/

/-- What staging an item may do to a subscription: nothing, or the item joins what is
staged, of which the older part may be dropped. -/
inductive Stages (reader : Limits) (id : EventSubscriptionId) (sequence : Nat)
    (before : RemoteSubscription) : RemoteSubscription → Prop
  | same : Stages reader id sequence before before
  | push {kept : List (List UInt8)} {encoded : List UInt8} {after : RemoteSubscription}
      (older : kept.Sublist before.staged) (staged : after.staged = kept ++ [encoded])
      (reads : ∀ item, parseEventItem encoded reader = .ok item →
        item.subscriptionId = id ∧ item.publisherSequence.toNat = sequence)
      (valid : after.stagedValid = true) (last : after.lastStagedSequence.toNat = sequence)
      (above : before.stagedValid = true → before.lastStagedSequence.toNat < sequence) :
      Stages reader id sequence before after

theorem Stages.continues
    (stages : Stages reader id sequence before after) : Continues reader id before after := by
  cases stages with
  | same => exact .of_sublist (List.Sublist.refl _)
  | push older staged reads valid last above =>
    constructor
    · intro payload member
      rw [staged] at member
      rcases mem_append.mp member with old | new
      · exact .inl (older.subset old)
      · cases mem_singleton.mp new
        exact .inr fun item parsed => (reads item parsed).1
    · intro number has
      rw [last]
      exact ⟨valid, has.2.trans (above has.1).le⟩

section

variable (flow : EventFlow reader remote own forward backward drawn)

include flow

theorem stage {change : EventSubscriptionId → RemoteSubscription → RemoteSubscription}
    (stages : ∀ id subscription, remote.find? id = some subscription →
      Stages reader id sequence subscription (change id subscription)) :
    EventFlow reader (remote.mapValues change) own forward backward drawn := by
  refine flow.goes_on (fun {id after} is => ?_) fun id => ?_
  · rw [find?_mapValues] at is
    obtain ⟨before, was, rfl⟩ := Option.map_eq_some_iff.mp is
    exact ⟨before, was, (stages id before was).continues⟩
  · unfold Joins pending stagedFrames
    rw [find?_mapValues]
    cases was : remote.find? id with
    | none => exact .inl (List.Sublist.refl _)
    | some before =>
      have result := stages id before was
      rw [Option.map_some]
      generalize change id before = after at result
      cases result with
      | same => exact .inl (List.Sublist.refl _)
      | @push kept encoded _ older staged reads valid last above =>
        have old : (sequences reader id (kept.map (EventFrame.mk .item))).Sublist
            (sequences reader id (before.staged.map (EventFrame.mk .item))) :=
          (older.map _).filterMap _
        have new : (sequences reader id [EventFrame.mk .item encoded]).Sublist [sequence] := by
          cases parsed : parseEventItem encoded reader with
          | error error => simp [sequences, EventFrame.item?, parsed, Except.toOption]
          | ok item =>
            obtain ⟨belongs, number⟩ := reads item parsed
            rw [sequences_item [] parsed, if_pos belongs, number]
            exact List.Sublist.refl _
        refine .inr ⟨before, after, rfl, rfl, ?_, valid, last ▸ above⟩
        dsimp only
        rw [last, staged, map_append, sequences_append, sequences_append, sequences_append,
          append_assoc]
        exact (List.Sublist.refl _).append (old.append new)

/-! ### Subscribing -/

theorem subscribe (fresh : id ∉ drawn)
    (unseen : mine.hasSequence = false) (names : frame.subscribed? = some id) :
    EventFlow reader remote (own.insert id mine) forward (backward ++ [frame]) (id :: drawn) := by
  have nothing : pending reader remote forward id = [] := by
    by_contra some
    exact fresh (flow.drawnPending id some)
  have absent : remote.find? id = none := by
    by_contra some
    exact fresh (flow.drawnRemote id (Option.isSome_iff_ne_none.mpr some))
  have single : subscribedIds [frame] = [id] := by
    simp [subscribedIds, names]
  have cases : ∀ {other current}, (own.insert id mine).find? other = some current →
      current.hasSequence = true → own.find? other = some current := by
    intro other current is has
    rcases find?_of_insert is with ⟨-, rfl⟩ | ⟨-, old⟩
    · cases unseen.symm.trans has
    · exact old
  refine { flow.drawn_cons with
    newer := fun other current is has => flow.newer other current (cases is has) has
    seen := fun other subscription found current is has =>
      flow.seen other subscription found current (cases is has) has
    awaited := ?_, once := ?_, drawnAwaited := ?_ }
  · intro other member
    rw [subscribedIds_append, single] at member
    rcases mem_append.mp member with before | new
    · obtain ⟨none, empty, unseen'⟩ := flow.awaited other before
      refine ⟨none, empty, fun current is => ?_⟩
      rcases find?_of_insert is with ⟨-, rfl⟩ | ⟨-, old⟩
      · exact unseen
      · exact unseen' current old
    · cases mem_singleton.mp new
      refine ⟨absent, nothing, fun current is => ?_⟩
      rw [SortedMap.find?_insert_self] at is
      cases is
      exact unseen
  · rw [subscribedIds_append, single]
    apply nodup_append.mpr
    refine ⟨flow.once, nodup_singleton _, ?_⟩
    intro other before another new same
    cases mem_singleton.mp new
    exact fresh (same ▸ flow.drawnAwaited other before)
  · intro other member
    rw [subscribedIds_append, single] at member
    rcases mem_append.mp member with before | new
    · exact mem_cons_of_mem _ (flow.drawnAwaited other before)
    · rw [mem_singleton.mp new]
      exact mem_cons_self ..

end

theorem accept (flow : EventFlow reader remote own forward (frame :: backward) drawn)
    (names : frame.subscribed? = some id) (unstaged : subscription.staged = []) :
    EventFlow reader (remote.insert id subscription) own forward backward drawn := by
  have ids : subscribedIds (frame :: backward) = id :: subscribedIds backward := by
    simp [subscribedIds, names]
  have member : id ∈ subscribedIds (frame :: backward) := by
    rw [ids]
    exact mem_cons_self ..
  obtain ⟨absent, nothing, unseen⟩ := flow.awaited id member
  have once := flow.once
  rw [ids, nodup_cons] at once
  have same : pending reader (remote.insert id subscription) forward =
      pending reader remote forward := by
    funext other
    rw [pending_insert]
    split_ifs with equal
    · rw [equal, unstaged]
      unfold pending stagedFrames
      rw [absent]
      rfl
    · rfl
  have popped := flow.backward_pop
  refine { popped with
    tagged := ?_, increasing := same ▸ flow.increasing, newer := same ▸ flow.newer, bounded := ?_
    seen := ?_, awaited := ?_, drawnRemote := ?_, drawnPending := same ▸ flow.drawnPending }
  · intro other current is payload staged
    rcases find?_of_insert is with ⟨-, rfl⟩ | ⟨-, old⟩
    · rw [unstaged] at staged
      cases staged
    · exact flow.tagged other current old payload staged
  · intro other current is number waits
    rw [same] at waits
    rcases find?_of_insert is with ⟨rfl, -⟩ | ⟨-, old⟩
    · rw [nothing] at waits
      cases waits
    · exact flow.bounded other current old number waits
  · intro other current is mine found has
    rcases find?_of_insert is with ⟨rfl, -⟩ | ⟨-, old⟩
    · rw [unseen mine found] at has
      cases has
    · exact flow.seen other current old mine found has
  · intro other waiting
    obtain ⟨none, empty, unseen'⟩ := popped.awaited other waiting
    rw [same]
    refine ⟨?_, empty, unseen'⟩
    rw [find?_insert, if_neg, none]
    intro equal
    exact once.1 (equal ▸ waiting)
  · intro other present
    rw [SortedMap.contains, find?_insert] at present
    split_ifs at present with equal
    · exact equal ▸ flow.drawnAwaited id member
    · exact flow.drawnRemote other present

/-! ### Receiving -/

/-- An item that arrives is newer than all before it, and its subscription goes on
from there. -/
theorem receive (flow : EventFlow reader remote own (⟨.item, payload⟩ :: forward) backward drawn)
    (parsed : parseEventItem payload reader = .ok item)
    (found : own.find? item.subscriptionId = some mine) :
    (mine.hasSequence = true → mine.newestSequence.toNat < item.publisherSequence.toNat) ∧
    ∀ after : LocalSubscription, after.newestSequence = item.publisherSequence →
      EventFlow reader remote (own.insert item.subscriptionId after) forward backward drawn := by
  have head : pending reader remote (⟨.item, payload⟩ :: forward) item.subscriptionId =
      item.publisherSequence.toNat :: pending reader remote forward item.subscriptionId := by
    unfold pending
    rw [cons_append, sequences_item _ parsed, if_pos rfl]
    rfl
  have first : item.publisherSequence.toNat ∈
      pending reader remote (⟨.item, payload⟩ :: forward) item.subscriptionId := by
    rw [head]
    exact mem_cons_self ..
  have ordered := flow.increasing item.subscriptionId
  rw [head, pairwise_cons] at ordered
  have popped := flow.forward_pop
  refine ⟨fun has => flow.newer _ mine found has _ first, fun after newest => ?_⟩
  exact { popped with
    newer := fun other current is has number member => by
      rcases find?_of_insert is with ⟨rfl, rfl⟩ | ⟨-, old⟩
      · rw [newest]
        exact ordered.1 number member
      · exact popped.newer other current old has number member
    seen := fun other subscription known current is has => by
      rcases find?_of_insert is with ⟨rfl, rfl⟩ | ⟨-, old⟩
      · rw [newest]
        exact flow.bounded _ subscription known _ first
      · exact popped.seen other subscription known current old has
    awaited := fun other member => by
      obtain ⟨none, empty, unseen⟩ := popped.awaited other member
      refine ⟨none, empty, fun current is => ?_⟩
      rcases find?_of_insert is with ⟨rfl, -⟩ | ⟨-, old⟩
      · obtain ⟨-, nothing, -⟩ := flow.awaited _ member
        rw [head] at nothing
        cases nothing
      · exact unseen current old }

end EventFlow

end Heyaki
