/-
Purpose: what the scheduler does to its queues.  A frame enters at the back of the
queue of its class, leaves at the front, and goes back to the front; closing a
channel and making room only remove frames.

Admission takes the size of a frame from the incremental encoder without looking at
the verdict, and makes none of the other checks of an encoder.

Main exports: `SessionChannelManager.nextToSend_queues`,
`SessionChannelManager.admits_iff_encodes`
-/
import Heyaki.Client.SessionChannels
import Heyaki.Proofs.FrameEncoder

namespace Heyaki.SessionChannelManager

open Function List

variable {manager after : SessionChannelManager} {klass : FrameClass} {queued : QueuedSendFrame}
  {channelId : UInt32} {receipt : EnqueueReceipt} {frame : Frame}

@[simp]
theorem queues_discharge (queued : QueuedSendFrame) :
    (manager.discharge queued).queues = manager.queues := by
  unfold discharge
  split <;> rfl

theorem takeFrom_queues (taken : manager.takeFrom klass = some (queued, after)) :
    ∃ rest, manager.queues klass = queued :: rest ∧
      after.queues = update manager.queues klass rest := by
  unfold takeFrom at taken
  split at taken
  · cases taken
  · rename_i rest front
    cases taken
    exact ⟨rest, front, queues_discharge _⟩

theorem nextToSend_queues (next : manager.nextToSend = some (queued, after)) :
    ∃ klass rest, manager.queues klass = queued :: rest ∧
      after.queues = update manager.queues klass rest := by
  unfold nextToSend at next
  split at next
  · exact ⟨_, takeFrom_queues next⟩
  split at next
  · obtain ⟨klass, -, taken⟩ := Option.bind_eq_some_iff.mp next
    obtain ⟨rest, front, left⟩ := takeFrom_queues taken
    exact ⟨klass, rest, front, left⟩
  · cases next

theorem nextToSend_sublist (next : manager.nextToSend = some (queued, after))
    (klass : FrameClass) : (after.queues klass).Sublist (manager.queues klass) := by
  obtain ⟨own, rest, front, queues⟩ := nextToSend_queues next
  rw [queues, update_apply]
  split_ifs with same
  · rw [same, front]
    exact sublist_cons_self ..
  · exact .refl _

theorem queues_closeChannel_sublist (manager : SessionChannelManager) (channelId : UInt32)
    (klass : FrameClass) :
    ((manager.closeChannel channelId).queues klass).Sublist (manager.queues klass) := by
  unfold closeChannel
  split
  · exact .refl _
  · exact filter_sublist

theorem nextToSend_closeChannel_sublist
    (next : manager.nextToSend = some (queued, after)) (klass : FrameClass) :
    ((after.closeChannel queued.channelId).queues klass).Sublist (manager.queues klass) :=
  (queues_closeChannel_sublist after queued.channelId klass).trans (nextToSend_sublist next klass)

theorem queues_returnToSend (queued : QueuedSendFrame) :
    (manager.returnToSend queued).queues = update manager.queues queued.frameClass
      (queued :: manager.queues queued.frameClass) := by
  unfold returnToSend
  split <;> rfl

theorem queues_openChannel (manager : SessionChannelManager) (channelId : UInt32)
    (domain : ChannelDomain) (policy : QueueFullPolicy) (frames bytes : Nat) :
    (manager.openChannel channelId domain policy frames bytes).2.queues = manager.queues := by
  unfold openChannel
  split_ifs <;> rfl

theorem queues_allocateChannel (manager : SessionChannelManager) (initiator : Bool)
    (domain : ChannelDomain) (policy : QueueFullPolicy) (frames bytes : Nat) :
    (manager.allocateChannel initiator domain policy frames bytes).2.queues = manager.queues := by
  unfold allocateChannel
  split
  · rfl
  rename_i channelId _
  have opened := queues_openChannel manager channelId domain policy frames bytes
  split
  all_goals
    rename_i same
    rw [same] at opened
    exact opened

/-! ### Entering a queue -/

theorem evict_sublist {channel : ChannelState}
    (room : manager.evict channelId channel = some (after, receipt)) :
    (after.queues klass).Sublist (manager.queues klass) := by
  unfold evict at room
  split at room
  · cases room
  · split at room
    · cases room
      exact .refl _
    split at room
    · cases room
      exact .refl _
    rename_i victim _
    cases room
    change (update manager.queues victim _ klass).Sublist _
    rw [update_apply]
    split
    · rename_i same
      rw [same]
      exact eraseP_sublist
    · exact .refl _
  · dsimp only at room
    split at room
    · cases room
      exact .refl _
    · cases room
      exact filter_sublist

/-- A refused frame is not queued; an accepted one is the last of its class. -/
theorem enqueue_queues (manager : SessionChannelManager) (channelId : UInt32) (klass : FrameClass)
    (frame : Frame) :
    ∃ kept : FrameClass → List QueuedSendFrame,
      (∀ other, (kept other).Sublist (manager.queues other)) ∧
      (((∃ error, (manager.enqueue channelId klass frame).1 = .error error) ∧
          (manager.enqueue channelId klass frame).2.queues = kept) ∨
        ((∃ receipt, (manager.enqueue channelId klass frame).1 = .ok receipt) ∧
          (manager.enqueue channelId klass frame).2.queues =
            update kept klass (kept klass ++
              [{ channelId := channelId, frameClass := klass, frame := frame }]))) := by
  unfold enqueue
  split
  · rename_i control
    subst control
    unfold enqueueControl
    split
    · exact ⟨manager.queues, fun _ => .refl _, .inl ⟨⟨_, rfl⟩, rfl⟩⟩
    dsimp only
    split
    · exact ⟨manager.queues, fun _ => .refl _, .inl ⟨⟨_, rfl⟩, rfl⟩⟩
    · exact ⟨manager.queues, fun _ => .refl _, .inr ⟨⟨_, rfl⟩, rfl⟩⟩
  · split
    · exact ⟨manager.queues, fun _ => .refl _, .inl ⟨⟨_, rfl⟩, rfl⟩⟩
    unfold enqueueBusiness
    dsimp only
    split
    · exact ⟨manager.queues, fun _ => .refl _, .inl ⟨⟨_, rfl⟩, rfl⟩⟩
    split
    · exact ⟨manager.queues, fun _ => .refl _, .inl ⟨⟨_, rfl⟩, rfl⟩⟩
    rename_i evicted receipt room
    have kept : ∀ other, (evicted.queues other).Sublist (manager.queues other) := by
      intro other
      split at room
      · exact evict_sublist room
      · cases room
        exact .refl _
    split
    · exact ⟨evicted.queues, kept, .inl ⟨⟨_, rfl⟩, rfl⟩⟩
    · exact ⟨evicted.queues, kept, .inr ⟨⟨_, rfl⟩, rfl⟩⟩

theorem enqueue_refused {error : Error}
    (refused : manager.enqueue channelId klass frame = (.error error, after)) (other : FrameClass) :
    (after.queues other).Sublist (manager.queues other) := by
  obtain ⟨kept, fewer, outcome⟩ := manager.enqueue_queues channelId klass frame
  rw [refused] at outcome
  rcases outcome with ⟨-, left⟩ | ⟨⟨receipt, admitted⟩, -⟩
  · exact left ▸ fewer other
  · cases admitted

theorem enqueue_admitted (admitted : manager.enqueue channelId klass frame = (.ok receipt, after)) :
    ∃ kept : FrameClass → List QueuedSendFrame,
      (∀ other, (kept other).Sublist (manager.queues other)) ∧
      after.queues = update kept klass (kept klass ++
        [{ channelId := channelId, frameClass := klass, frame := frame }]) := by
  obtain ⟨kept, fewer, outcome⟩ := manager.enqueue_queues channelId klass frame
  rw [admitted] at outcome
  rcases outcome with ⟨⟨error, refused⟩, -⟩ | ⟨-, left⟩
  · cases refused
  · exact ⟨kept, fewer, left⟩

/-! ### Properties of all queued frames -/

def AllQueued (property : QueuedSendFrame → Prop) (manager : SessionChannelManager) : Prop :=
  ∀ klass, ∀ queued ∈ manager.queues klass, property queued

variable {property : QueuedSendFrame → Prop}

theorem AllQueued.next (all : AllQueued property manager)
    (next : manager.nextToSend = some (queued, after)) :
    property queued ∧ AllQueued property after := by
  obtain ⟨klass, rest, front, -⟩ := nextToSend_queues next
  constructor
  · exact all klass queued (front ▸ mem_cons_self)
  · intro other waiting member
    exact all other waiting ((nextToSend_sublist next other).subset member)

theorem AllQueued.enqueue (all : AllQueued property manager) (channelId : UInt32)
    (klass : FrameClass) (frame : Frame)
    (new : property { channelId := channelId, frameClass := klass, frame := frame }) :
    AllQueued property (manager.enqueue channelId klass frame).2 := by
  obtain ⟨kept, sub, ⟨-, queues⟩ | ⟨-, queues⟩⟩ := enqueue_queues manager channelId klass frame
  · intro other queued member
    rw [queues] at member
    exact all other queued ((sub other).subset member)
  · intro other queued member
    rw [queues, update_apply] at member
    split at member
    · rcases mem_append.mp member with old | last
      · exact all klass queued ((sub klass).subset old)
      · rw [mem_singleton.mp last]
        exact new
    · exact all other queued ((sub other).subset member)

/-- Frames wait in the queue of their class. -/
def InClasses (queues : FrameClass → List QueuedSendFrame) : Prop :=
  ∀ klass, ∀ queued ∈ queues klass, queued.frameClass = klass

namespace InClasses

variable {queues : FrameClass → List QueuedSendFrame} (classes : InClasses queues)

include classes

theorem fewer {kept : FrameClass → List QueuedSendFrame}
    (fewer : ∀ klass, (kept klass).Sublist (queues klass)) : InClasses kept :=
  fun klass queued member => classes klass queued ((fewer klass).subset member)

theorem update {queue : List QueuedSendFrame}
    (all : ∀ queued ∈ queue, queued.frameClass = klass) :
    InClasses (update queues klass queue) := by
  intro other queued member
  rw [update_apply] at member
  split_ifs at member with same
  · exact same ▸ all queued member
  · exact classes other queued member

theorem push (channelId : UInt32) (frame : Frame) :
    InClasses (Function.update queues klass (queues klass ++ [⟨channelId, klass, frame⟩])) := by
  refine classes.update fun queued member => ?_
  rcases mem_append.mp member with old | new
  · exact classes klass queued old
  · rw [mem_singleton.mp new]

end InClasses

/-! ### What admission relies on -/

/-- The frames of the channel that make room for one more. -/
def evicted (manager : SessionChannelManager) (channelId : UInt32) (frame : Frame)
    (channel : ChannelState) : List QueuedSendFrame :=
  let own (queued : QueuedSendFrame) : Bool := decide (queued.channelId = channelId)
  let waiting := (frameClasses.map manager.queues).flatten
  let full := channel.queuedFrames + 1 > channel.queuedFrameCapacity ||
    channel.queuedBytes + frameWireSize frame > channel.queuedByteCapacity
  match channel.policy with
  | .reject => []
  | .dropOldest => if full && channel.queuedFrames != 0 then (waiting.find? own).toList else []
  | .keepLatest => waiting.filter own

/-- The frames whose size `enqueue` takes, the evicted ones for the counters. -/
def sizesRead (manager : SessionChannelManager) (channelId : UInt32) (klass : FrameClass)
    (frame : Frame) : List Frame :=
  if klass = .control then
    if manager.controlQueuedFrames + 1 > manager.config.controlReservedFrames then [] else [frame]
  else
    match manager.channels.find? channelId.toNat with
    | none => []
    | some channel =>
      if manager.businessQueuedFrames + 1 > manager.config.perPeerQueuedFrames ∨
          manager.businessQueuedBytes + frameWireSize frame > manager.config.perPeerQueuedBytes then
        [frame]
      else frame :: (manager.evicted channelId frame channel).map QueuedSendFrame.frame

def Encodes (limits : Limits) (frame : Frame) : Prop :=
  ∃ bytes, encodeFrame frame limits = .ok bytes

/-- Every size that is taken exists, and an admitted frame can be encoded. -/
structure Admits (manager : SessionChannelManager) (channelId : UInt32) (klass : FrameClass)
    (frame : Frame) (limits : Limits) : Prop where
  sized : ∀ read ∈ manager.sizesRead channelId klass frame,
    FrameStreamEncoder.encodedSize limits read.channelId read.payload.length =
      .ok (frameWireSize read)
  encodes : ∀ receipt, (manager.enqueue channelId klass frame).1 = .ok receipt →
    Encodes limits frame

theorem mem_of_evicted {channel : ChannelState}
    (leaves : queued ∈ manager.evicted channelId frame channel) :
    queued ∈ (frameClasses.map manager.queues).flatten := by
  unfold evicted at leaves
  dsimp only at leaves
  split at leaves
  · cases leaves
  · split at leaves
    · exact mem_of_find?_eq_some (Option.mem_toList.mp leaves)
    · cases leaves
  · exact mem_of_mem_filter leaves

theorem AllQueued.sizesRead {property : Frame → Prop} (own : property frame)
    (queues : AllQueued (fun queued => property queued.frame) manager) :
    ∀ read ∈ manager.sizesRead channelId klass frame, property read := by
  intro read member
  unfold SessionChannelManager.sizesRead at member
  split at member
  · split at member
    · cases member
    · exact mem_singleton.mp member ▸ own
  split at member
  · cases member
  split at member
  · exact mem_singleton.mp member ▸ own
  rcases mem_cons.mp member with same | leaves
  · exact same ▸ own
  · obtain ⟨queued, out, same⟩ := mem_map.mp leaves
    obtain ⟨waiting, ofClass, waits⟩ := mem_flatten.mp (mem_of_evicted out)
    obtain ⟨other, -, rfl⟩ := mem_map.mp ofClass
    exact same ▸ queues other queued waits

/-- A frame is admitted safely by every manager that holds encodable frames, and leaves
it so, exactly when the frame is encodable itself. -/
theorem admits_iff_encodes (limits : Limits) (frame : Frame) :
    (∀ manager, AllQueued (fun queued => Encodes limits queued.frame) manager →
      ∀ channelId klass, Admits manager channelId klass frame limits ∧
        AllQueued (fun queued => Encodes limits queued.frame)
          (manager.enqueue channelId klass frame).2) ↔ Encodes limits frame := by
  constructor
  · intro all
    -- the reservation for control frames has room for this one
    have admits := (all { config := { controlReservedBytes := frameWireSize frame } }
      (fun _ _ waits => by cases waits) 0 .control).1
    apply admits.encodes { admitted := true }
    simp [enqueue, enqueueControl]
  · intro encodes manager queues channelId klass
    refine ⟨⟨?_, fun _ _ => encodes⟩, queues.enqueue channelId klass frame encodes⟩
    intro read member
    obtain ⟨bytes, encoded⟩ := queues.sizesRead encodes read member
    have accepted := (encodeFrame_eq_ok_iff.mp encoded).1
    exact encodedSize_of_le accepted.limitsValid accepted.bodyFits

/-- The payload alone is as long as a body may be. -/
def oversized : Frame :=
  ⟨0x20, 0, 1, .filled 1, replicate (2 * mib) 0⟩

/-- An empty manager takes a size that does not exist. -/
theorem oversized_unsized :
    validateLimits {} = .ok () ∧ validateChannelBudgetConfig {} = .ok () ∧
      ¬ Admits {} 1 .control oversized {} := by
  refine ⟨by decide, by decide, fun admits => ?_⟩
  have fits := frameBodySize_le_of_encodedSize (admits.sized oversized (by simp [sizesRead]))
  have long : oversized.payload.length = 2 * mib := length_replicate
  rw [frameBodySize, long] at fits
  change 18 + _ + 2 * mib ≤ 2 * mib at fits
  omega

end Heyaki.SessionChannelManager
