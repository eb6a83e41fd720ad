/-
Purpose: no class of frames starves, and when the channels of a class take turns.

A call spends a token of the class it serves.  A class that waits is served before
the others have spent theirs, or in the round behind the next refill.  Within a class
frames leave as they came, whatever their channels: these take turns only while none
has two frames there.

Main exports: `SessionChannelManager.Operation`, `SessionChannelManager.no_class_starves`,
`SessionChannelManager.channels_rotate`
-/
import Heyaki.Foundation.Machine
import Heyaki.Proofs.SessionChannels

namespace Heyaki.SessionChannelManager

open Foundation.Machine (EachAllowed Reaches)
open List Function

/-! ### Histories -/

inductive Operation where
  | openChannel (channelId : UInt32) (domain : ChannelDomain) (policy : QueueFullPolicy)
      (frames bytes : Nat)
  | allocateChannel (initiator : Bool) (domain : ChannelDomain) (policy : QueueFullPolicy)
      (frames bytes : Nat)
  | closeChannel (channelId : UInt32)
  | enqueue (channelId : UInt32) (klass : FrameClass) (frame : Frame)
  | nextToSend
  | returnToSend (queued : QueuedSendFrame)

variable (manager : SessionChannelManager)

def operate : Operation → SessionChannelManager
  | .openChannel channelId domain policy frames bytes =>
    (manager.openChannel channelId domain policy frames bytes).2
  | .allocateChannel initiator domain policy frames bytes =>
    (manager.allocateChannel initiator domain policy frames bytes).2
  | .closeChannel channelId => manager.closeChannel channelId
  | .enqueue channelId klass frame => (manager.enqueue channelId klass frame).2
  | .nextToSend => manager.nextToSend.elim manager Prod.snd
  | .returnToSend queued => manager.returnToSend queued

def handedOut : Operation → Option QueuedSendFrame
  | .nextToSend => manager.nextToSend.map Prod.fst
  | _ => none

def sent : SessionChannelManager → List Operation → List QueuedSendFrame
  | _, [] => []
  | manager, operation :: history =>
    (manager.handedOut operation).toList ++ sent (manager.operate operation) history

/-- The class has frames before every call. -/
def Waits (klass : FrameClass) : SessionChannelManager → List Operation → Prop :=
  EachAllowed operate fun manager _ => manager.queues klass ≠ []

/-- The call finds frames, but no tokens in the classes that have them. -/
def Refills (operation : Operation) : Prop :=
  operation = .nextToSend ∧ manager.readyClass = none ∧ manager.hasSendableFrames = true

def NoRefill : SessionChannelManager → List Operation → Prop :=
  EachAllowed operate fun manager operation => ¬ manager.Refills operation

/-- The recursion of the source with so many refills at most; `none` when they do not
suffice. -/
def nextToSendWithin (refills : Nat) (manager : SessionChannelManager) :
    Option (Option (QueuedSendFrame × SessionChannelManager)) :=
  match manager.readyClass with
  | some klass => some (manager.takeFrom klass)
  | none =>
    if manager.hasSendableFrames then
      match refills with
      | 0 => none
      | refills + 1 => nextToSendWithin refills manager.refillTokens
    else some none

def total (tokens : FrameClass → Nat) : Nat := (frameClasses.map tokens).sum

structure StarvesNone : Prop where
  returns : manager.nextToSend.isSome = true ↔ ∃ klass, manager.queues klass ≠ []
  refillsOnce : manager.nextToSendWithin 1 = some manager.nextToSend
  served : ∀ klass history, manager.Waits klass history →
    2 * total frameClassWeight ≤ (manager.sent history).length →
    ∃ queued ∈ manager.sent history, queued.frameClass = klass
  /-- Only the first call of the history may refill the tokens. -/
  rounds : ∀ klass operation history, (manager.operate operation).NoRefill history →
    (manager.sent (operation :: history)).countP (·.frameClass = klass) ≤ frameClassWeight klass

/-! ### One call -/

variable {manager} {after : SessionChannelManager} {klass : FrameClass} {queued : QueuedSendFrame}
  {history : List Operation} {channelId : UInt32} {operation : Operation}

theorem mem_frameClasses (klass : FrameClass) : klass ∈ frameClasses := by
  cases klass <;> decide

theorem weight_pos (klass : FrameClass) : 0 < frameClassWeight klass := by
  cases klass <;> decide

theorem hasSendableFrames_iff :
    manager.hasSendableFrames = true ↔ ∃ klass, manager.queues klass ≠ [] := by
  simp [hasSendableFrames, mem_frameClasses]

theorem readyClass_some (ready : manager.readyClass = some klass) :
    manager.queues klass ≠ [] ∧ 0 < manager.tokens klass := by
  simpa using find?_some ready

theorem readyClass_none (none : manager.readyClass = none) (waits : manager.queues klass ≠ []) :
    manager.tokens klass = 0 := by
  simpa [waits] using find?_eq_none.mp none klass (mem_frameClasses klass)

theorem readyClass_refillTokens (sendable : manager.hasSendableFrames = true) :
    ∃ klass, manager.refillTokens.readyClass = some klass := by
  obtain ⟨klass, waits⟩ := hasSendableFrames_iff.mp sendable
  refine Option.ne_none_iff_exists'.mp fun none => ?_
  exact (weight_pos klass).ne' (readyClass_none none waits)

theorem nextToSendWithin_one : manager.nextToSendWithin 1 = some manager.nextToSend := by
  unfold nextToSendWithin nextToSend
  cases manager.readyClass with
  | some klass => rfl
  | none =>
    dsimp only
    split
    · rename_i sendable
      obtain ⟨klass, ready⟩ := readyClass_refillTokens sendable
      simp only [nextToSendWithin, ready, Option.bind_some]
    · rfl

/-- The manager whose tokens the next call spends. -/
def filled (manager : SessionChannelManager) : SessionChannelManager :=
  if manager.readyClass = none then manager.refillTokens else manager

theorem queues_filled : manager.filled.queues = manager.queues := by
  unfold filled
  split <;> rfl

theorem nextToSend_cases (manager : SessionChannelManager) :
    (manager.nextToSend = none ∧ ∀ klass, manager.queues klass = []) ∨
      ∃ klass, manager.queues klass ≠ [] ∧ 0 < manager.filled.tokens klass ∧
        manager.nextToSend = manager.filled.takeFrom klass := by
  unfold nextToSend filled
  cases ready : manager.readyClass with
  | some klass =>
    obtain ⟨waits, tokens⟩ := readyClass_some ready
    exact .inr ⟨klass, waits, tokens, rfl⟩
  | none =>
    dsimp only
    split
    · rename_i sendable
      obtain ⟨klass, ready⟩ := readyClass_refillTokens sendable
      exact .inr ⟨klass, (readyClass_some ready).1, weight_pos klass, by simp [ready]⟩
    · rename_i idle
      simp only [hasSendableFrames_iff, not_exists, not_not] at idle
      exact .inl ⟨rfl, idle⟩

theorem nextToSend_isSome_iff :
    manager.nextToSend.isSome = true ↔ ∃ klass, manager.queues klass ≠ [] := by
  rcases manager.nextToSend_cases with ⟨none, idle⟩ | ⟨klass, waits, -, taken⟩
  · simp [none, idle]
  · rw [← queues_filled] at waits ⊢
    rw [taken, iff_true_right ⟨klass, waits⟩]
    grind [takeFrom]

theorem takeFrom_spends (taken : manager.takeFrom klass = some (queued, after)) (other : FrameClass) :
    after.tokens other = manager.tokens other - if other = klass then 1 else 0 := by
  have spends : after.tokens = update manager.tokens klass (manager.tokens klass - 1) := by
    grind [takeFrom, discharge]
  rw [spends, update_apply]
  split
  · rename_i same
    rw [same]
  · rfl

/-! ### Every reachable state -/

theorem tokens_evict {channel : ChannelState} {receipt : EnqueueReceipt}
    (room : manager.evict channelId channel = some (after, receipt)) :
    after.tokens = manager.tokens := by
  grind [evict, chargeDrop]

theorem operate_cases (manager : SessionChannelManager) (operation : Operation) :
    (manager.handedOut operation = none ∧ (manager.operate operation).tokens = manager.tokens) ∨
      ∃ queued, operation = .nextToSend ∧ manager.handedOut operation = some queued ∧
        manager.nextToSend = some (queued, manager.operate operation) := by
  cases operation with
  | nextToSend =>
    unfold operate handedOut
    dsimp only
    cases manager.nextToSend with
    | none => exact .inl ⟨rfl, rfl⟩
    | some next => exact .inr ⟨next.1, rfl, rfl, rfl⟩
  | openChannel | allocateChannel | closeChannel | returnToSend =>
    refine .inl ⟨rfl, ?_⟩
    grind [operate, openChannel, allocateChannel, closeChannel, returnToSend]
  | enqueue =>
    refine .inl ⟨rfl, ?_⟩
    grind [operate, enqueue, enqueueControl, enqueueBusiness, push, tokens_evict]

theorem operate_queues (manager : SessionChannelManager) (operation : Operation) :
    (∀ klass, ((manager.operate operation).queues klass).Sublist (manager.queues klass)) ∨
      (∃ channelId klass frame kept, operation = .enqueue channelId klass frame ∧
        (∀ other, (kept other).Sublist (manager.queues other)) ∧
        (manager.operate operation).queues =
          update kept klass (kept klass ++ [⟨channelId, klass, frame⟩])) ∨
      ∃ queued, operation = .returnToSend queued ∧ (manager.operate operation).queues =
        update manager.queues queued.frameClass
          (queued :: manager.queues queued.frameClass) := by
  cases operation with
  | openChannel => exact .inl fun _ => queues_openChannel manager .. ▸ .refl _
  | allocateChannel => exact .inl fun _ => queues_allocateChannel manager .. ▸ .refl _
  | closeChannel => exact .inl (queues_closeChannel_sublist manager _)
  | enqueue channelId klass frame =>
    obtain ⟨kept, sub, ⟨-, queues⟩ | ⟨-, queues⟩⟩ := enqueue_queues manager channelId klass frame
    · exact .inl (queues ▸ sub)
    · exact .inr (.inl ⟨channelId, klass, frame, kept, rfl, sub, queues⟩)
  | nextToSend =>
    refine .inl fun klass => ?_
    unfold operate
    cases next : manager.nextToSend with
    | none => exact .refl _
    | some pair => exact nextToSend_sublist next klass
  | returnToSend queued => exact .inr (.inr ⟨queued, rfl, queues_returnToSend queued⟩)

theorem InClasses.operate (classes : InClasses manager.queues) (operation : Operation) :
    InClasses (manager.operate operation).queues := by
  obtain sub | ⟨channelId, klass, frame, kept, -, sub, queues⟩ | ⟨queued, -, queues⟩ :=
    operate_queues manager operation
  · exact classes.fewer sub
  · exact queues ▸ (classes.fewer sub).push channelId frame
  · exact queues ▸ classes.update (forall_mem_cons.mpr ⟨rfl, classes _⟩)

/-- Tokens never exceed a round. -/
structure Scheduled (manager : SessionChannelManager) : Prop where
  tokens : ∀ klass, manager.tokens klass ≤ frameClassWeight klass
  classes : InClasses manager.queues

def spent (manager : SessionChannelManager) (operation : Operation) (klass : FrameClass) : Nat :=
  (manager.handedOut operation).toList.countP (·.frameClass = klass) +
    (manager.operate operation).tokens klass

/-- How many calls may still pass the class over: the tokens of the others, and those of a
whole round if it has none itself. -/
def delay (klass : FrameClass) (manager : SessionChannelManager) : Nat :=
  total manager.tokens - manager.tokens klass +
    if manager.tokens klass = 0 then total frameClassWeight - frameClassWeight klass else 0

theorem le_total (tokens : FrameClass → Nat) (klass : FrameClass) : tokens klass ≤ total tokens :=
  le_sum_of_mem (mem_map_of_mem (mem_frameClasses klass))

theorem total_spent (operation : Operation) : total (manager.spent operation) =
    (manager.handedOut operation).toList.length + total (manager.operate operation).tokens := by
  unfold spent total
  cases manager.handedOut operation with
  | none => simp
  | some queued =>
    cases own : queued.frameClass <;> simp [frameClasses, own] <;> omega

namespace Scheduled

variable (scheduled : manager.Scheduled)

include scheduled

/-- A call spends the tokens there are, or those of a new round. -/
theorem spent_cases (operation : Operation) : manager.spent operation = manager.tokens ∨
    manager.Refills operation ∧ manager.spent operation = frameClassWeight := by
  obtain ⟨silent, same⟩ | ⟨queued, called, hands, next⟩ := operate_cases manager operation
  · refine .inl (funext fun klass => ?_)
    simp [spent, silent, same]
  have waits := nextToSend_isSome_iff.mp (Option.isSome_of_eq_some next)
  have filled : manager.spent operation = manager.filled.tokens := by
    rcases manager.nextToSend_cases with ⟨none, -⟩ | ⟨klass, -, positive, taken⟩
    · cases none.symm.trans next
    rw [next] at taken
    obtain ⟨rest, front, -⟩ := takeFrom_queues taken.symm
    rw [queues_filled] at front
    have own := scheduled.classes klass queued (front ▸ mem_cons_self)
    funext other
    rw [spent, hands, Option.toList_some, countP_singleton, takeFrom_spends taken.symm, own]
    grind
  rw [filled]
  unfold SessionChannelManager.filled
  split
  · rename_i none
    exact .inr ⟨⟨called, none, hasSendableFrames_iff.mpr waits⟩, rfl⟩
  · exact .inl rfl

theorem operate (operation : Operation) : (manager.operate operation).Scheduled := by
  refine ⟨fun klass => ?_, scheduled.classes.operate operation⟩
  have left : (manager.operate operation).tokens klass ≤ manager.spent operation klass :=
    Nat.le_add_left ..
  obtain kept | ⟨-, kept⟩ := scheduled.spent_cases operation
  · exact left.trans (kept ▸ scheduled.tokens klass)
  · exact kept ▸ left

theorem delay_lt (klass : FrameClass) : manager.delay klass < 2 * total frameClassWeight := by
  have round : total manager.tokens ≤ total frameClassWeight :=
    sum_le_sum fun klass _ => scheduled.tokens klass
  have weight := weight_pos klass
  have own := le_total frameClassWeight klass
  unfold delay
  split <;> omega

theorem delay_operate (waits : manager.queues klass ≠ [])
    (unserved : ∀ queued ∈ (manager.handedOut operation).toList, queued.frameClass ≠ klass) :
    (manager.handedOut operation).toList.length + (manager.operate operation).delay klass ≤
      manager.delay klass := by
  have all := manager.total_spent operation
  have own : manager.spent operation klass = (manager.operate operation).tokens klass := by
    simpa [spent] using unserved
  have part := le_total (manager.operate operation).tokens klass
  unfold delay
  obtain kept | ⟨⟨-, none, -⟩, kept⟩ := scheduled.spent_cases operation
  · rw [kept] at all own
    rw [← own] at part ⊢
    omega
  · rw [kept] at all own
    rw [← own] at part ⊢
    simp only [readyClass_none none waits, (weight_pos klass).ne', if_true, if_false]
    omega

theorem length_sent_le (waits : manager.Waits klass history)
    (unserved : ∀ queued ∈ manager.sent history, queued.frameClass ≠ klass) :
    (manager.sent history).length ≤ manager.delay klass := by
  induction history generalizing manager with
  | nil => exact Nat.zero_le _
  | cons operation history ih =>
    rw [sent, forall_mem_append] at unserved
    have first := scheduled.delay_operate waits.1 unserved.1
    have rest := ih (scheduled.operate operation) waits.2 unserved.2
    rw [sent, length_append]
    omega

theorem count_sent_le (klass : FrameClass) (noRefill : manager.NoRefill history) :
    (manager.sent history).countP (·.frameClass = klass) ≤ manager.tokens klass := by
  induction history generalizing manager with
  | nil => exact Nat.zero_le _
  | cons operation history ih =>
    have rest := ih (scheduled.operate operation) noRefill.2
    obtain kept | ⟨refills, -⟩ := scheduled.spent_cases operation
    · rw [sent, countP_append, ← kept]
      exact Nat.add_le_add_left rest _
    · exact absurd refills noRefill.1

end Scheduled

/-- Whatever was called before, a waiting class is served in time. -/
theorem no_class_starves (config : ChannelBudgetConfig) (past : List Operation) :
    (past.foldl operate { config := config }).StarvesNone := by
  have scheduled : (past.foldl operate { config := config }).Scheduled :=
    foldlRecOn past operate ⟨fun _ => Nat.le_refl _, nofun⟩ fun _ scheduled operation _ =>
      scheduled.operate operation
  refine ⟨nextToSend_isSome_iff, nextToSendWithin_one, ?_, ?_⟩
  · intro klass history waits many
    by_contra unserved
    have few := scheduled.length_sent_le waits fun queued member own =>
      unserved ⟨queued, member, own⟩
    exact (scheduled.delay_lt klass).not_ge (many.trans few)
  · intro klass operation history noRefill
    rw [sent, countP_append]
    apply (Nat.add_le_add_left ((scheduled.operate operation).count_sent_le klass noRefill) _).trans
    obtain kept | ⟨-, kept⟩ := scheduled.spent_cases operation
    · exact (congrFun kept klass).trans_le (scheduled.tokens klass)
    · exact (congrFun kept klass).le

/-! ### Channels of one class -/

/-- The channels of the frames of a class, first in line first. -/
def channelsOf (manager : SessionChannelManager) (klass : FrameClass) : List UInt32 :=
  (manager.queues klass).map (·.channelId)

/-- What is queued finds no frame of its channel in its class, and in no class if the channel
drops frames. -/
def Alone (manager : SessionChannelManager) : Operation → Prop
  | .enqueue channelId klass _ => channelId ∉ manager.channelsOf klass ∧
      ((manager.channels.find? channelId.toNat).all (·.policy == .reject) = true ∨
        ∀ other ∈ frameClasses, channelId ∉ manager.channelsOf other)
  | .returnToSend queued => queued.channelId ∉ manager.channelsOf queued.frameClass
  | _ => True

instance (manager : SessionChannelManager) : ∀ operation, Decidable (manager.Alone operation)
  | .enqueue .. => inferInstanceAs (Decidable (_ ∧ (_ ∨ ∀ other ∈ frameClasses, _)))
  | .returnToSend _ => inferInstanceAs (Decidable (¬ _))
  | .openChannel .. | .allocateChannel .. | .closeChannel _ | .nextToSend => .isTrue trivial

/-- Frames are enqueued and sent. -/
def Operation.sends : Operation → Bool
  | .enqueue .. | .nextToSend => true
  | _ => false

/-- Each channel of a class has its turn before more frames of the class are handed out than
it has channels. -/
def Rotates (manager : SessionChannelManager) (history : List Operation) : Prop :=
  ∀ klass, (manager.channelsOf klass).dedup.length <
      (manager.sent history).countP (·.frameClass = klass) →
    ∀ channelId ∈ manager.channelsOf klass,
      ∃ queued ∈ manager.sent history, queued.frameClass = klass ∧ queued.channelId = channelId

theorem evict_idle (channel : ChannelState)
    (idle : ∀ klass ∈ frameClasses, channelId ∉ manager.channelsOf klass) :
    manager.evict channelId channel = none ∨ manager.evict channelId channel = some (manager, {}) := by
  have none : ∀ klass ∈ frameClasses, ∀ queued ∈ manager.queues klass,
      queued.channelId ≠ channelId := fun klass listed queued member same =>
    idle klass listed (mem_map.mpr ⟨queued, member, same⟩)
  have first : manager.oldestClass channelId = Option.none := by
    simpa [oldestClass] using none
  unfold evict
  cases channel.policy with
  | reject => exact .inl rfl
  | dropOldest => simp [first]
  | keepLatest =>
    refine .inr (if_pos ?_)
    simpa using none

/-- A frame that is alone goes to the end of its queue, or nowhere. -/
theorem enqueue_alone {own : FrameClass} {frame : Frame}
    (alone : manager.Alone (.enqueue channelId own frame)) :
    (manager.enqueue channelId own frame).2.queues = manager.queues ∨
      (manager.enqueue channelId own frame).2.queues =
        update manager.queues own (manager.queues own ++ [⟨channelId, own, frame⟩]) := by
  obtain ⟨-, rejects | idle⟩ := alone
  · grind [enqueue, enqueueControl, enqueueBusiness, push, evict]
  · have keeps := fun channel => evict_idle channel idle
    grind [enqueue, enqueueControl, enqueueBusiness, push]

/-- What is handed out of a class and what is left is what was there and what was added. -/
theorem line_operate (classes : InClasses manager.queues)
    (alone : manager.Alone operation) (sends : operation.sends = true) (klass : FrameClass) :
    ∃ added, (manager.handedOut operation).toList.filter (·.frameClass = klass) ++
      (manager.operate operation).queues klass = manager.queues klass ++ added := by
  cases operation with
  | openChannel | allocateChannel | closeChannel | returnToSend => cases sends
  | enqueue channelId own frame =>
    unfold operate handedOut
    dsimp only
    obtain same | pushed := enqueue_alone alone
    · exact ⟨[], by simp [same]⟩
    · rw [pushed, update_apply]
      split
      · rename_i same
        exact ⟨_, by rw [same]; rfl⟩
      · exact ⟨[], by simp⟩
  | nextToSend =>
    refine ⟨[], ?_⟩
    unfold operate handedOut
    dsimp only
    cases next : manager.nextToSend with
    | none => simp
    | some pair =>
      obtain ⟨own, rest, front, queues⟩ := nextToSend_queues next
      have class_ := classes own pair.1 (front ▸ mem_cons_self)
      simp only [Option.map_some, Option.toList_some, Option.elim_some, queues,
        update_apply, class_, append_nil, filter_cons]
      grind

theorem line_sent (classes : InClasses manager.queues)
    (alone : EachAllowed operate Alone manager history)
    (sends : ∀ operation ∈ history, operation.sends = true) (klass : FrameClass) :
    ∃ added, (manager.sent history).filter (·.frameClass = klass) ++
      (history.foldl operate manager).queues klass = manager.queues klass ++ added := by
  induction history generalizing manager with
  | nil => exact ⟨[], (append_nil _).symm⟩
  | cons operation history ih =>
    obtain ⟨first, sends⟩ := forall_mem_cons.mp sends
    obtain ⟨added, line⟩ := line_operate classes alone.1 first klass
    obtain ⟨more, rest⟩ := ih (classes.operate operation) alone.2 sends
    refine ⟨added ++ more, ?_⟩
    rw [sent, filter_append, append_assoc, foldl_cons, rest, ← append_assoc,
      line, append_assoc]

/-- No class has two frames of one channel. -/
structure Lined (manager : SessionChannelManager) : Prop where
  classes : InClasses manager.queues
  distinct : ∀ klass, (manager.channelsOf klass).Nodup

theorem Lined.operate (lined : manager.Lined)
    (alone : manager.Alone operation) : (manager.operate operation).Lined := by
  refine ⟨lined.classes.operate operation, fun klass => ?_⟩
  unfold channelsOf
  obtain sub | ⟨channelId, own, frame, kept, rfl, sub, queues⟩ | ⟨queued, rfl, queues⟩ :=
    operate_queues manager operation
  · exact (lined.distinct klass).sublist ((sub klass).map _)
  · rw [queues, update_apply]
    split
    · rw [map_append, map_singleton, nodup_middle, append_nil]
      have fewer := (sub own).map (·.channelId)
      exact nodup_cons.mpr ⟨fun listed => alone.1 (fewer.subset listed),
        (lined.distinct own).sublist fewer⟩
    · exact (lined.distinct klass).sublist ((sub klass).map _)
  · rw [queues, update_apply]
    split
    · exact nodup_cons.mpr ⟨alone, lined.distinct _⟩
    · exact lined.distinct klass

/-- In every run that queues no frame behind another of its channel and class, and lets no
frame be dropped, channels take turns. -/
theorem channels_rotate
    (run : Reaches operate (fun manager => ∃ config, manager = { config := config }) Alone manager)
    (alone : EachAllowed operate Alone manager history)
    (sends : ∀ operation ∈ history, operation.sends = true) : manager.Rotates history := by
  have lined : manager.Lined := by
    apply run.invariant
    · rintro _ ⟨config, rfl⟩
      exact ⟨nofun, fun _ => nodup_nil⟩
    · exact fun manager operation lined alone => lined.operate alone
  intro klass many channelId member
  obtain ⟨added, line⟩ := line_sent lined.classes alone sends klass
  rw [(lined.distinct klass).dedup, channelsOf, length_map, countP_eq_length_filter] at many
  obtain ⟨queued, waits, rfl⟩ := mem_map.mp member
  have front : manager.queues klass <+: (manager.sent history).filter (·.frameClass = klass) :=
    prefix_of_prefix_length_le ⟨added, line.symm⟩ ⟨_, rfl⟩ many.le
  obtain ⟨handed, own⟩ := mem_filter.mp (front.subset waits)
  exact ⟨queued, handed, of_decide_eq_true own, rfl⟩


def sampleEnqueue (channelId : UInt32) : Operation :=
  .enqueue channelId .standard ⟨FrameType.message.code, 0, channelId, .filled 1, []⟩

/-- The channels 1 and 3 are opened, then frames are queued on these. -/
def sampleCalls (channels : List UInt32) : List Operation :=
  .openChannel 1 .message .reject 8 1024 :: .openChannel 3 .message .reject 8 1024 ::
    channels.map sampleEnqueue

/-- Two channels with a frame each take turns, although the first goes on sending. -/
theorem channels_rotate_two :
    let manager := (sampleCalls [1, 3]).foldl operate {}
    let history := [.nextToSend, sampleEnqueue 1, .nextToSend, .nextToSend]
    (manager.sent history).map (·.channelId) = [1, 3, 1] ∧ manager.Rotates history := by
  refine ⟨by decide +kernel, channels_rotate (.foldl (.start ⟨{}, rfl⟩) ?_) ?_ ?_⟩
  · decide +kernel
  · decide +kernel
  · decide +kernel

/-- Three frames of a channel are handed out before the one of the other. -/
theorem flood_delays_channel :
    let manager := (sampleCalls [1, 1, 1, 3]).foldl operate {}
    (manager.channelsOf .standard).dedup = [1, 3] ∧
      (manager.sent (replicate 3 .nextToSend)).map (·.channelId) = [1, 1, 1] ∧
      ¬ manager.Rotates (replicate 3 .nextToSend) := by
  refine ⟨by decide +kernel, by decide +kernel, fun rotates => ?_⟩
  obtain ⟨queued, handed, -, own⟩ := rotates .standard (by decide +kernel) 3 (by decide +kernel)
  revert queued
  decide +kernel

end Heyaki.SessionChannelManager
