/-
Purpose: dual-window flow control between two services.  The bytes a sender may
still have arrive are bounded by the receiver's byte window in every run.  The
frames are not: an update grants the frames that are free now less those free at
the last update, so the first update grants the whole frame window again, and a
later one wraps below zero when more frames are buffered than before.  Both
halves hold in every run that reports the window only where this difference is a
true count of freed frames.

Main exports: `UpdateSafe`, `stream_flow_control_safe`, `stream_flow_control_violated`
-/
import Heyaki.Proofs.ByteStreamEffects

namespace Heyaki

open StreamFrame

variable {limits : ByteStreamLimits} {watch : Watch} {sender receiver own peer slot : Slot}
  {frame : StreamFrame} {rest out frames out' : List StreamFrame} {handle after : Handle}
  {windowBytes windowFrames offset length a b consumed additionalBytes additionalFrames : Nat}
  {gateway : Bool} {bytes chunk : List UInt8} {read : PendingRead} {reads : List PendingRead}
  {chunks : List (List UInt8)}

/-! ### The receive window -/

/-- The counters of a receive side: what is free, buffered or read but not yet
reported stays within the window, and the frames granted so far are frames that
were free. -/
structure WindowOk (recv : ReceiveSide) : Prop where
  bytes : recv.remainingBytes + recv.consumedThrough + recv.bufferedBytes ≤
    recv.windowBytes + recv.reportedBytes
  reported : recv.reportedBytes ≤ recv.consumedThrough
  buffered : recv.bufferedBytes = (recv.chunks.map List.length).sum
  frames : recv.remainingFrames + recv.chunks.length ≤ recv.windowFrames
  slack : recv.windowFrames + recv.reportedFrames ≤ recv.remainingFrames + recv.acceptedFrames
  smallBytes : recv.windowBytes < 2 ^ 64
  smallFrames : recv.windowFrames < 2 ^ 32

theorem subU64_of_le (le : b ≤ a) (small : a - b < 2 ^ 64) : subU64 a b = a - b := by
  unfold subU64
  omega

theorem subU32_of_le (le : b ≤ a) (small : a - b < 2 ^ 32) : subU32 a b = a - b := by
  unfold subU32
  omega

namespace WindowOk

variable {recv : ReceiveSide}

theorem consumedBytes_eq (ok : WindowOk recv) :
    recv.consumedBytes = recv.consumedThrough - recv.reportedBytes := by
  have := ok.bytes
  have := ok.reported
  have := ok.smallBytes
  exact subU64_of_le ok.reported (by omega)

theorem consumedFrames_eq (ok : WindowOk recv) (free : recv.reportedFrames ≤ recv.remainingFrames) :
    recv.consumedFrames = recv.remainingFrames - recv.reportedFrames := by
  have := ok.frames
  have := ok.smallFrames
  exact subU32_of_le free (by omega)

theorem readFront {handle : Handle} {read : PendingRead} {reads : List PendingRead}
    {chunk : List UInt8} {chunks : List (List UInt8)} (ok : WindowOk handle.recv)
    (has : handle.recv.chunks = chunk :: chunks) :
    WindowOk (readFront read reads chunk chunks handle).recv := by
  obtain ⟨bytes, reported, buffered, frames, slack, smallBytes, smallFrames⟩ := ok
  rw [has] at buffered frames
  simp only [List.map_cons, List.sum_cons, List.length_cons] at buffered frames
  unfold Heyaki.readFront
  dsimp only
  split
  · have free : min (addU32 handle.recv.remainingFrames 1) handle.recv.windowFrames =
        handle.recv.remainingFrames + 1 := by
      unfold addU32
      omega
    refine ⟨?_, ?_, ?_, ?_, ?_, smallBytes, smallFrames⟩
    all_goals dsimp only
    · omega
    · omega
    · omega
    · omega
    · omega
  · refine ⟨?_, ?_, ?_, ?_, slack, smallBytes, smallFrames⟩
    all_goals dsimp only
    · omega
    · omega
    · simp only [List.map_cons, List.sum_cons, List.length_drop]
      omega
    · simpa only [List.length_cons] using frames

theorem reportWindow {handle : Handle} (ok : WindowOk handle.recv)
    (accepted : handle.recv.windowFrames ≤ handle.recv.acceptedFrames) :
    WindowOk (reportWindow handle).recv := by
  have consumed := ok.consumedBytes_eq
  obtain ⟨bytes, reported, buffered, frames, slack, smallBytes, smallFrames⟩ := ok
  have grown : min (addU64 handle.recv.remainingBytes handle.recv.consumedBytes)
      handle.recv.windowBytes = handle.recv.remainingBytes + handle.recv.consumedBytes := by
    unfold addU64
    omega
  unfold Heyaki.reportWindow
  refine ⟨?_, Nat.le_refl _, buffered, frames, ?_, smallBytes, smallFrames⟩
  all_goals dsimp only
  · omega
  · omega

end WindowOk

/-! ### One direction -/

def ReceiveSide.absent : ReceiveSide where
  windowBytes := 0
  windowFrames := 0
  remainingBytes := 0
  remainingFrames := 0

/-- The send side of an end; without a handle there is no credit. -/
def Slot.send (slot : Slot) : SendSide := (slot.handle.map Handle.send).getD {}

/-- The receive side of an end; without a handle there is no window. -/
def Slot.recv (slot : Slot) : ReceiveSide := (slot.handle.map Handle.recv).getD .absent

theorem Slot.recv_eq (has : slot.handle = some handle) : slot.recv = handle.recv := by
  unfold Slot.recv
  rw [has]
  rfl

/-- Credit held, data under way and grants under way together fit the window;
the same frames together with those taken so far are covered by the frames
granted so far. -/
structure Flow (sender receiver : Slot) : Prop where
  bytes : sender.send.creditBytes + total dataBytes sender.out +
    total grantBytes receiver.out ≤ receiver.recv.remainingBytes
  frames : sender.send.creditFrames + total dataFrames sender.out +
      total grantFrames receiver.out + receiver.recv.acceptedFrames ≤
    receiver.recv.windowFrames + receiver.recv.reportedFrames

theorem Flow.of_sender {sender' : Slot} (flow : Flow sender receiver)
    (bytes : sender'.send.creditBytes + total dataBytes sender'.out ≤
      sender.send.creditBytes + total dataBytes sender.out)
    (frames : sender'.send.creditFrames + total dataFrames sender'.out ≤
      sender.send.creditFrames + total dataFrames sender.out) : Flow sender' receiver :=
  ⟨le_trans (Nat.add_le_add_right bytes _) flow.bytes,
    le_trans (Nat.add_le_add_right (Nat.add_le_add_right frames _) _) flow.frames⟩

theorem Flow.of_receiver {receiver' : Slot} (flow : Flow sender receiver)
    (bytes : total grantBytes receiver'.out + receiver.recv.remainingBytes ≤
      total grantBytes receiver.out + receiver'.recv.remainingBytes)
    (frames : total grantFrames receiver'.out + receiver'.recv.acceptedFrames +
        (receiver.recv.windowFrames + receiver.recv.reportedFrames) ≤
      total grantFrames receiver.out + receiver.recv.acceptedFrames +
        (receiver'.recv.windowFrames + receiver'.recv.reportedFrames)) :
    Flow sender receiver' := by
  obtain ⟨before, beforeFrames⟩ := flow
  constructor <;> omega

theorem chunkSize_le_credit (limits : ByteStreamLimits) (send : SendSide) (write : PendingWrite) :
    chunkSize limits send write ≤ send.creditBytes :=
  Nat.min_le_right _ _

theorem frontFrame_dataBytes (send : SendSide) (write : PendingWrite) :
    (frontFrame limits send write).dataBytes = chunkSize limits send write := by
  have le : chunkSize limits send write ≤ write.data.length - write.offset :=
    Nat.le_trans (Nat.min_le_left _ _) (Nat.min_le_right _ _)
  show ((write.data.drop write.offset).take _).length = _
  rw [List.length_take, List.length_drop]
  exact Nat.min_eq_left le

theorem total_append_silent {weight : StreamFrame → Nat}
    (none : ∀ {frame : StreamFrame}, frame.Silent → weight frame = 0)
    (silent : ∀ frame ∈ frames, frame.Silent) : total weight (out ++ frames) = total weight out := by
  rw [total_append, total_eq_zero fun frame member => none (silent frame member), Nat.add_zero]

/-- The credit that is gone went into the frames that were added. -/
def Spends (before after : Handle × List StreamFrame) : Prop :=
  ∃ sent, after.2 = before.2 ++ sent ∧
    before.1.send.creditBytes = after.1.send.creditBytes + total dataBytes sent ∧
    before.1.send.creditFrames = after.1.send.creditFrames + total dataFrames sent

theorem Spends.refl (point : Handle × List StreamFrame) : Spends point point :=
  ⟨[], (List.append_nil _).symm, rfl, rfl⟩

theorem spends_chargeChunk (write : PendingWrite) (writes : List PendingWrite)
    (credit : handle.send.creditFrames ≠ 0) :
    Spends (handle, out) (chargeChunk (chunkSize limits handle.send write) write writes handle,
      out ++ [frontFrame limits handle.send write]) := by
  refine ⟨_, rfl, ?_, (Nat.sub_add_cancel (Nat.pos_of_ne_zero credit)).symm⟩
  rw [total_cons, total_nil, frontFrame_dataBytes]
  exact (Nat.sub_add_cancel (chunkSize_le_credit limits handle.send write)).symm

theorem Effect.spends (effect : Effect limits watch handle out (after, out')) :
    Spends (handle, out) (after, out') := by
  cases effect with
  | @quiet _ sent same silent =>
    refine ⟨sent, rfl, ?_, ?_⟩
    · rw [total_eq_zero fun frame member => (silent frame member).weights.1]
      exact same.creditBytes.symm
    · rw [total_eq_zero fun frame member => (silent frame member).weights.2.1]
      exact same.creditFrames.symm
  | data alive front more bytes frames => exact spends_chargeChunk _ _ frames
  | read waiting buffered =>
    refine ⟨[], (List.append_nil _).symm, ?_, ?_⟩
    all_goals
      rw [readFront_send]
      rfl
  | note => exact .refl (handle, out)
  | report => exact ⟨_, rfl, rfl, rfl⟩

theorem Flow.sender_effect (flow : Flow ⟨some handle, out⟩ receiver)
    (effect : Effect limits watch handle out (after, out')) :
    Flow ⟨some after, out'⟩ receiver := by
  obtain ⟨sent, same, bytes, frames⟩ := effect.spends
  change out' = out ++ sent at same
  change handle.send.creditBytes = after.send.creditBytes + _ at bytes
  change handle.send.creditFrames = after.send.creditFrames + _ at frames
  rw [same]
  apply flow.of_sender
  · show after.send.creditBytes + total _ (out ++ sent) ≤ handle.send.creditBytes + total _ out
    rw [total_append]
    omega
  · show after.send.creditFrames + total _ (out ++ sent) ≤ handle.send.creditFrames + total _ out
    rw [total_append]
    omega

/-- The window may be reported: no fewer frames are free than at the last
report, and, if an update is due, a full frame window has been taken before. -/
def ReportOk (recv : ReceiveSide) : Prop :=
  recv.reportedFrames ≤ recv.remainingFrames ∧
    (recv.updateDue = true → recv.windowFrames ≤ recv.acceptedFrames)

def flowWatch : Watch := { violations := False, update := ReportOk }

theorem WindowOk.effect (ok : WindowOk handle.recv)
    (effect : Effect limits flowWatch handle out (after, out')) :
    WindowOk after.recv := by
  cases effect with
  | quiet same silent =>
    obtain ⟨reads, recv⟩ := same.recv
    rw [recv]
    exact { ok with }
  | data | note => exact ok
  | read waiting buffered => exact ok.readFront buffered
  | report safe due =>
    have noted : WindowOk (noteConsumed handle).recv := ok
    exact noted.reportWindow (safe.2 due)

theorem Flow.receiver_effect (flow : Flow sender ⟨some handle, out⟩)
    (ok : WindowOk handle.recv) (effect : Effect limits flowWatch handle out (after, out')) :
    Flow sender ⟨some after, out'⟩ := by
  cases effect with
  | @quiet _ sent same silent =>
    obtain ⟨reads, recv⟩ := same.recv
    apply flow.of_receiver
    · show total _ (out ++ sent) + _ ≤ _ + after.recv.remainingBytes
      rw [total_append_silent (·.weights.2.2.1) silent, recv]
      exact Nat.le_refl _
    · show total _ (out ++ sent) + after.recv.acceptedFrames + _ ≤
        _ + (after.recv.windowFrames + after.recv.reportedFrames)
      rw [total_append_silent (·.weights.2.2.2.1) silent, recv]
      exact Nat.le_refl _
  | data =>
    apply flow.of_receiver
    all_goals
      rw [total_append]
      exact Nat.le_refl _
  | @read read reads chunk chunks waiting buffered =>
    unfold readFront
    dsimp only
    split <;> exact flow.of_receiver (Nat.le_refl _) (Nat.le_refl _)
  | note => exact flow.of_receiver (Nat.le_refl _) (Nat.le_refl _)
  | report safe due =>
    have consumedBytes := ok.consumedBytes_eq
    have consumedFrames := ok.consumedFrames_eq safe.1
    have free := safe.1
    apply flow.of_receiver
    · show total _ (out ++ [handle.recv.updateFrame]) + handle.recv.remainingBytes ≤ total _ out +
        min (addU64 handle.recv.remainingBytes handle.recv.consumedBytes) handle.recv.windowBytes
      rw [total_append, total_cons, total_nil]
      have granted : handle.recv.updateFrame.grantBytes = handle.recv.consumedBytes := rfl
      have := ok.bytes
      have := ok.reported
      have := ok.smallBytes
      unfold addU64
      omega
    · show total _ (out ++ [handle.recv.updateFrame]) + handle.recv.acceptedFrames +
        (handle.recv.windowFrames + handle.recv.reportedFrames) ≤
        total _ out + handle.recv.acceptedFrames +
          (handle.recv.windowFrames + handle.recv.remainingFrames)
      rw [total_append, total_cons, total_nil]
      have granted : handle.recv.updateFrame.grantFrames = handle.recv.consumedFrames := rfl
      omega

/-- No violation was met and no counter left its range. -/
def Sound (handle : Handle) : Prop := handle.violated = false ∧ handle.wrapped = false

theorem Sound.effect (sound : Sound handle) (ok : WindowOk handle.recv)
    (effect : Effect limits flowWatch handle out (after, out')) :
    Sound after := by
  obtain ⟨violated, wrapped⟩ := sound
  cases effect with
  | quiet same silent => exact ⟨same.violated.trans violated, same.wrapped.trans wrapped⟩
  | @data write writes alive front more some_ frames_ =>
    have charged := chunkSize_le_credit limits handle.send write
    refine ⟨violated, ?_⟩
    show (handle.wrapped || decide (_ < chunkSize limits handle.send write) || decide (_ = 0)) = _
    simp only [wrapped, decide_eq_false (Nat.not_lt.mpr charged), decide_eq_false frames_,
      Bool.or_self]
  | @read read reads chunk chunks waiting buffered =>
    have sum := ok.buffered
    have frames := ok.frames
    have small := ok.smallFrames
    rw [buffered] at sum frames
    simp only [List.map_cons, List.sum_cons, List.length_cons] at sum frames
    have enough : ¬ handle.recv.bufferedBytes < min read.size chunk.length := by omega
    have room : ¬ 2 ^ 32 ≤ handle.recv.remainingFrames + 1 := by omega
    unfold readFront
    dsimp only
    split
    · exact ⟨violated, by simp only [wrapped, decide_eq_false enough, decide_eq_false room,
        Bool.or_self]⟩
    · exact ⟨violated, by simp only [wrapped, decide_eq_false enough, Bool.or_self]⟩
  | note safe calm =>
    refine ⟨violated, ?_⟩
    show (handle.wrapped || decide _ || decide _) = false
    simp only [wrapped, decide_eq_false (Nat.not_lt.mpr ok.reported),
      decide_eq_false (Nat.not_lt.mpr safe.1), Bool.or_self]
  | report safe due =>
    have consumed := ok.consumedBytes_eq
    have room : ¬ 2 ^ 64 ≤ handle.recv.remainingBytes + handle.recv.consumedBytes := by
      have := ok.bytes
      have := ok.reported
      have := ok.smallBytes
      omega
    refine ⟨violated, ?_⟩
    show (handle.wrapped || decide _ || decide _ || decide (2 ^ 64 ≤ _)) = false
    simp only [wrapped, decide_eq_false (Nat.not_lt.mpr ok.reported),
      decide_eq_false (Nat.not_lt.mpr safe.1), Bool.or_self, Bool.false_or]
    exact decide_eq_false room

/-! ### Both directions -/

/-- Handles an end has had: the peer's OPEN creates one where there is none. -/
def Slot.count (slot : Slot) : Nat :=
  if slot.handle.isSome then 1 else 0

structure Balanced (own peer : Slot) : Prop where
  ownWindow : WindowOk own.recv
  peerWindow : WindowOk peer.recv
  sound : Both Sound own peer
  outbound : Flow own peer
  inbound : Flow peer own
  ownOpens : total opens peer.out + own.count ≤ 1
  peerOpens : total opens own.out + peer.count ≤ 1

theorem Balanced.symm (balanced : Balanced own peer) : Balanced peer own :=
  ⟨balanced.peerWindow, balanced.ownWindow, balanced.sound.symm, balanced.inbound,
    balanced.outbound, balanced.peerOpens, balanced.ownOpens⟩

theorem windowOk_absent : WindowOk .absent := by
  constructor <;> decide

theorem windowOk_new {creditBytes creditFrames : Nat}
    (new : NewHandle windowBytes windowFrames creditBytes creditFrames handle)
    (bytes : windowBytes < 2 ^ 64) (frames : windowFrames < 2 ^ 32) : WindowOk handle.recv := by
  rw [new.recv]
  exact ⟨Nat.le_refl _, Nat.le_refl _, rfl, Nat.le_refl _, Nat.le_refl _, bytes, frames⟩

theorem Effect.opens (effect : Effect limits watch handle out (after, out')) :
    total opens out' = total opens out := by
  cases effect with
  | quiet same silent =>
    exact total_append_silent (·.weights.2.2.2.2) silent
  | data | report => rw [total_append]; rfl
  | read => rfl
  | note => rfl

theorem Balanced.effect (balanced : Balanced ⟨some handle, out⟩ peer)
    (effect : Effect limits flowWatch handle out (after, out')) :
    Balanced ⟨some after, out'⟩ peer where
  ownWindow := WindowOk.effect balanced.ownWindow effect
  peerWindow := balanced.peerWindow
  sound := .own ((balanced.sound.1 handle rfl).effect balanced.ownWindow effect) balanced.sound.2 rfl
  outbound := balanced.outbound.sender_effect effect
  inbound := balanced.inbound.receiver_effect balanced.ownWindow effect
  ownOpens := balanced.ownOpens
  peerOpens := by
    rw [effect.opens]
    exact balanced.peerOpens

theorem Balanced.pop (balanced : Balanced own peer) (front : peer.out = frame :: rest) :
    Balanced own { peer with out := rest } where
  ownWindow := balanced.ownWindow
  peerWindow := balanced.peerWindow
  sound := balanced.sound
  outbound := balanced.outbound.of_receiver (Nat.add_le_add_right (total_tail_le _ front) _)
    (Nat.add_le_add_right (Nat.add_le_add_right (total_tail_le _ front) _) _)
  inbound := balanced.inbound.of_sender (Nat.add_le_add_left (total_tail_le _ front) _)
    (Nat.add_le_add_left (total_tail_le _ front) _)
  ownOpens := by
    have := balanced.ownOpens
    have := total_tail_le opens front
    show total _ rest + own.count ≤ 1
    omega
  peerOpens := balanced.peerOpens

theorem balanced_opened (bytes : windowBytes < 2 ^ 64) (frames : windowFrames < 2 ^ 32)
    (new : NewHandle windowBytes windowFrames 0 0 handle) :
    Balanced ⟨some handle, [.streamOpen windowBytes windowFrames gateway]⟩ {} where
  ownWindow := windowOk_new new bytes frames
  peerWindow := windowOk_absent
  sound := .own ⟨new.violated, new.wrapped⟩ (fun _ has => by cases has) rfl
  outbound := by
    constructor
    · exact Nat.le_of_eq (congrArg SendSide.creditBytes new.send)
    · exact Nat.le_of_eq (congrArg SendSide.creditFrames new.send)
  inbound := by
    constructor
    · show 0 + 0 + (windowBytes + 0) ≤ handle.recv.remainingBytes
      rw [new.recv]
      dsimp only
      omega
    · show 0 + 0 + (windowFrames + 0) + handle.recv.acceptedFrames ≤
        handle.recv.windowFrames + handle.recv.reportedFrames
      rw [new.recv]
      dsimp only
      omega
  ownOpens := Nat.le_refl 1
  peerOpens := Nat.le_refl 1

section

variable (balanced : Balanced own peer)

include balanced

/-- Only an end without a handle receives an OPEN. -/
theorem Balanced.none_of_open
    (front : peer.out = .streamOpen windowBytes windowFrames gateway :: rest) :
    own.handle = none := by
  have count := balanced.ownOpens
  rw [front, total_cons] at count
  have one : opens (.streamOpen windowBytes windowFrames gateway) = 1 := rfl
  cases has : own.handle with
  | none => rfl
  | some handle =>
    have : own.count = 1 := by
      unfold Slot.count
      rw [has]
      rfl
    omega

theorem Balanced.refused (silent : ∀ frame ∈ frames, frame.Silent) :
    Balanced { own with out := own.out ++ frames } peer where
  ownWindow := balanced.ownWindow
  peerWindow := balanced.peerWindow
  sound := balanced.sound
  outbound := by
    apply balanced.outbound.of_sender
    · show _ + total _ (own.out ++ _) ≤ _
      rw [total_append_silent (·.weights.1) silent]
      exact Nat.le_refl _
    · show _ + total _ (own.out ++ _) ≤ _
      rw [total_append_silent (·.weights.2.1) silent]
      exact Nat.le_refl _
  inbound := by
    apply balanced.inbound.of_receiver
    · show total _ (own.out ++ _) + _ ≤ _
      rw [total_append_silent (·.weights.2.2.1) silent]
      exact Nat.le_refl _
    · show total _ (own.out ++ _) + _ + _ ≤ _
      rw [total_append_silent (·.weights.2.2.2.1) silent]
      exact Nat.le_refl _
  ownOpens := balanced.ownOpens
  peerOpens := by
    rw [total_append_silent (·.weights.2.2.2.2) silent]
    exact balanced.peerOpens

theorem Balanced.accepted {sent : Bool} (valid : validateByteStreamLimits limits = .ok ())
    (front : peer.out = .streamOpen windowBytes windowFrames gateway :: rest)
    (new : NewHandle limits.defaultReceiveWindowBytes limits.defaultReceiveWindowFrames
      windowBytes windowFrames handle) :
    Balanced ⟨some handle, own.out ++ if sent then [.streamWindowUpdate 0
        limits.defaultReceiveWindowBytes limits.defaultReceiveWindowFrames] else []⟩
      { peer with out := rest } := by
  have none := balanced.none_of_open front
  have bounds := validateByteStreamLimits_bounds valid
  have ownSend : own.send = {} := by
    unfold Slot.send
    rw [none]
    rfl
  have ownRecv : own.recv = .absent := by
    unfold Slot.recv
    rw [none]
    rfl
  obtain ⟨-, peerWindow, sound, ⟨outBytes, outFrames⟩, ⟨inBytes, inFrames⟩, opens, noOpens⟩ :=
    balanced
  rw [ownRecv] at inBytes inFrames
  rw [ownSend, front, total_cons] at outBytes outFrames
  rw [front, total_cons] at inBytes inFrames opens
  dsimp only [ReceiveSide.absent, grantBytes, grantFrames,
    StreamFrame.opens] at inBytes inFrames outBytes outFrames opens
  refine ⟨windowOk_new new (Nat.lt_of_le_of_lt bounds.windowBytes.2 (by decide))
    (Nat.lt_of_le_of_lt bounds.windowFrames.2 (by decide)), peerWindow,
    .own ⟨new.violated, new.wrapped⟩ sound.2 rfl, ?_, ?_, ?_, ?_⟩
  · constructor
    · show handle.send.creditBytes + total _ (own.out ++ _) + total _ rest ≤ peer.recv.remainingBytes
      rw [new.send, total_append]
      cases sent <;> simp [dataBytes] <;> omega
    · show handle.send.creditFrames + total _ (own.out ++ _) + total _ rest +
        peer.recv.acceptedFrames ≤ peer.recv.windowFrames + peer.recv.reportedFrames
      rw [new.send, total_append]
      cases sent <;> simp [dataFrames] <;> omega
  · constructor
    · show peer.send.creditBytes + total _ rest + total _ (own.out ++ _) ≤ handle.recv.remainingBytes
      rw [new.recv, total_append]
      cases sent <;> simp [grantBytes] <;> omega
    · show peer.send.creditFrames + total _ rest + total _ (own.out ++ _) +
        handle.recv.acceptedFrames ≤ handle.recv.windowFrames + handle.recv.reportedFrames
      rw [new.recv, total_append]
      cases sent <;> simp [grantFrames] <;> omega
  · show total _ rest + 1 ≤ 1
    omega
  · show total _ (own.out ++ _) + peer.count ≤ 1
    rw [total_append]
    cases sent <;> simp [StreamFrame.opens] <;> omega

end

/-! ### Arrivals -/

theorem TakesData.buffered (taken : TakesData offset length bytes handle after)
    (kept : List UInt8) :
    (bufferData kept after).recv = (bufferData kept (chargeData bytes handle)).recv := by
  unfold bufferData
  rw [taken.recv]

/-- A data frame is charged to the window it fits, and what is kept of it is buffered. -/
theorem Balanced.data {kept : List UInt8} (balanced : Balanced ⟨some handle, out⟩ peer)
    (front : peer.out = .streamData offset length bytes :: rest)
    (taken : TakesData offset length bytes handle after) (le : kept.length ≤ bytes.length) :
    Balanced ⟨some (bufferData kept after), out⟩ { peer with out := rest } := by
  have popped := balanced.pop front
  have fits := taken.fits
  have frames := taken.frames
  have window : WindowOk handle.recv := balanced.ownWindow
  have inBytes : peer.send.creditBytes + total dataBytes peer.out +
    total grantBytes out ≤ handle.recv.remainingBytes := balanced.inbound.bytes
  have inFrames : peer.send.creditFrames + total dataFrames peer.out +
      total grantFrames out + handle.recv.acceptedFrames ≤
    handle.recv.windowFrames + handle.recv.reportedFrames := balanced.inbound.frames
  rw [front, total_cons] at inBytes inFrames
  dsimp only [dataBytes, dataFrames] at inBytes inFrames
  obtain ⟨wBytes, wReported, wBuffered, wFrames, wSlack, smallBytes, smallFrames⟩ := window
  have recv := taken.buffered kept
  have charged : WindowOk (bufferData kept (chargeData bytes handle)).recv := by
    unfold bufferData chargeData
    refine ⟨?_, wReported, ?_, ?_, ?_, smallBytes, smallFrames⟩
    all_goals dsimp only
    · omega
    · split
      · rename_i none
        rw [none]
        exact wBuffered
      · rw [List.map_append, List.sum_append, ← wBuffered]
        simp
    · split
      · omega
      · rw [List.length_append, List.length_singleton]
        omega
    · omega
  have sound : Sound (bufferData kept after) := by
    obtain ⟨violated, wrapped⟩ := balanced.sound.1 handle rfl
    refine ⟨taken.violated.trans violated, taken.wrapped.trans ?_⟩
    show (handle.wrapped || decide (_ < bytes.length) || decide (_ = 0)) = false
    simp only [wrapped, decide_eq_false (Nat.not_lt.mpr fits), decide_eq_false frames, Bool.or_self]
  have send : Slot.send ⟨some (bufferData kept after), out⟩ = handle.send := taken.send
  refine ⟨?_, popped.peerWindow, .own sound balanced.sound.2 rfl, ?_, ?_, popped.ownOpens,
    popped.peerOpens⟩
  · show WindowOk (bufferData kept after).recv
    rw [recv]
    exact charged
  · apply popped.outbound.of_sender
    all_goals
      rw [send]
      exact Nat.le_refl _
  · constructor
    · show peer.send.creditBytes + total _ rest + total _ out ≤
        (bufferData kept after).recv.remainingBytes
      rw [recv]
      show _ ≤ handle.recv.remainingBytes - bytes.length
      omega
    · show peer.send.creditFrames + total _ rest + total _ out +
        (bufferData kept after).recv.acceptedFrames ≤
        (bufferData kept after).recv.windowFrames + (bufferData kept after).recv.reportedFrames
      rw [recv]
      show _ + (handle.recv.acceptedFrames + 1) ≤
        handle.recv.windowFrames + handle.recv.reportedFrames
      omega

theorem TakesData.deliverable_le (taken : TakesData offset length bytes handle after) :
    (deliverable handle bytes).length ≤ bytes.length := by
  obtain ⟨head, whole, -⟩ := taken.split_
  have length := congrArg List.length whole
  rw [List.length_append] at length
  omega

theorem Balanced.update (balanced : Balanced ⟨some handle, out⟩ peer)
    (front : peer.out = .streamWindowUpdate consumed additionalBytes additionalFrames :: rest) :
    Balanced ⟨some (grantCredit consumed additionalBytes additionalFrames handle), out⟩
      { peer with out := rest } := by
  have popped := balanced.pop front
  have outBytes : handle.send.creditBytes + total dataBytes out +
    total grantBytes peer.out ≤ peer.recv.remainingBytes := balanced.outbound.bytes
  have outFrames : handle.send.creditFrames + total dataFrames out +
      total grantFrames peer.out + peer.recv.acceptedFrames ≤
    peer.recv.windowFrames + peer.recv.reportedFrames := balanced.outbound.frames
  rw [front, total_cons] at outBytes outFrames
  dsimp only [grantBytes, grantFrames] at outBytes outFrames
  obtain ⟨-, -, -, wFrames, wSlack, -, smallFrames⟩ := balanced.peerWindow
  have room : ¬ 2 ^ 64 ≤ additionalFrames + handle.send.creditFrames := by omega
  have sound : Sound (grantCredit consumed additionalBytes additionalFrames handle) := by
    obtain ⟨violated, wrapped⟩ := balanced.sound.1 handle rfl
    refine ⟨violated, ?_⟩
    show (handle.wrapped || decide (2 ^ 64 ≤ _)) = false
    rw [wrapped, decide_eq_false room]
    rfl
  refine ⟨popped.ownWindow, popped.peerWindow, .own sound balanced.sound.2 rfl, ?_,
    ⟨popped.inbound.bytes, popped.inbound.frames⟩, popped.ownOpens, popped.peerOpens⟩
  constructor
  · show handle.send.creditBytes + additionalBytes + total _ out + total _ rest ≤
      peer.recv.remainingBytes
    omega
  · show min (addU64 additionalFrames handle.send.creditFrames) (2 ^ 32 - 1) + total _ out +
      total _ rest + peer.recv.acceptedFrames ≤ peer.recv.windowFrames + peer.recv.reportedFrames
    unfold addU64
    omega

theorem Balanced.link {own' peer' : Slot} (valid : validateByteStreamLimits limits = .ok ())
    (balanced : Balanced own peer) (step : LinkStep limits flowWatch (own, peer) (own', peer')) :
    Balanced own' peer' := by
  have resets (turn : Turn) (reason : StableStatus) {peer : Slot}
      (balanced : Balanced ⟨some turn.handle, turn.out⟩ peer) :
      Balanced ⟨some (handleResetFrameFor reason turn).handle,
        (handleResetFrameFor reason turn).out⟩ peer := by
    have effect : Effect limits flowWatch turn.handle turn.out
      (handleResetFrameFor reason turn).point := effect_of_reset .refl rfl
    exact balanced.effect effect
  cases step with
  | act action => exact balanced.effect action.effect
  | opened bytes frames new kind => exact balanced_opened bytes.2 frames.2 new
  | ignored front ignores => exact balanced.pop front
  | @refused _ _ _ _ reason _ sent _ front free refusal =>
    refine (balanced.pop front).refused fun frame member => ?_
    cases sent with
    | false => cases member
    | true =>
      rw [List.mem_singleton.mp member]
      trivial
  | accepted front free bytes frames new kind refusal => exact balanced.accepted valid front new
  | data registered front taken => exact balanced.data front taken taken.deliverable_le
  | @badPrelude turn after rest _ offset length bytes registered front taken calm =>
    have charged : Balanced ⟨some (bufferData [] after), turn.out⟩ _ :=
      balanced.data front taken (Nat.zero_le bytes.length)
    exact resets { turn with handle := after } .protocolError charged
  | @rejected turn frame rest _ reason registered front calm =>
    exact resets turn reason (balanced.pop front)
  | violation registered front calm allowed => exact allowed.elim
  | update registered front taken => exact balanced.update front
  | @fin handle out rest _ finalOffset registered alive front =>
    have popped := balanced.pop front
    have window : WindowOk handle.recv := popped.ownWindow
    exact ⟨{ window with }, popped.peerWindow,
      .own (popped.sound.1 handle rfl) popped.sound.2 rfl,
      ⟨popped.outbound.bytes, popped.outbound.frames⟩,
      ⟨popped.inbound.bytes, popped.inbound.frames⟩, popped.ownOpens, popped.peerOpens⟩
  | @peerReset handle out rest _ reason registered front =>
    have noted : SameCounters handle { handle with resetReason := some reason } :=
      ⟨⟨_, rfl⟩, rfl, rfl, rfl, rfl, rfl, rfl, rfl, rfl⟩
    have effect : Effect limits flowWatch handle out
        (finishStream .reset { handle with resetReason := some reason }, out) :=
      effect_of_same (noted.trans (sameCounters_finishStream _))
    exact (balanced.pop front).effect effect

/-! ### When the window may be reported -/

/-- The reads at the front of the loop may be served from the front frame.  Each
served read may report the window: at that moment no fewer frames are free than
at the last report, and if an update will be due, a full frame window has been
taken before. -/
def UpdateSafe (recv : ReceiveSide) : Prop :=
  match recv.reads, recv.chunks with
  | read :: reads, chunk :: _ =>
    recv.reportedFrames ≤ recv.remainingFrames + (if chunk.length ≤ read.size then 1 else 0) ∧
    (recv.remainingBytes = 0 ∨ recv.windowBytes / 4 ≤ recv.consumedThrough +
        min ((read :: reads).map PendingRead.size).sum chunk.length - recv.reportedBytes →
      recv.windowFrames ≤ recv.acceptedFrames)
  | _, _ => True

theorem readFront_recv_of_whole (whole : chunk.length ≤ read.size) :
    (readFront read reads chunk chunks handle).recv = { handle.recv with
      reads := reads
      consumedThrough := handle.recv.consumedThrough + chunk.length
      bufferedBytes := handle.recv.bufferedBytes - chunk.length
      chunks := chunks
      remainingFrames := min (addU32 handle.recv.remainingFrames 1) handle.recv.windowFrames } := by
  unfold readFront
  rw [Nat.min_eq_right whole, if_pos rfl]

theorem readFront_recv_of_part (part : read.size < chunk.length) :
    (readFront read reads chunk chunks handle).recv = { handle.recv with
      reads := reads
      consumedThrough := handle.recv.consumedThrough + read.size
      bufferedBytes := handle.recv.bufferedBytes - read.size
      chunks := chunk.drop read.size :: chunks } := by
  unfold readFront
  rw [Nat.min_eq_left (Nat.le_of_lt part), if_neg (Nat.ne_of_lt part)]

theorem reportOk_readFront (ok : WindowOk handle.recv) (waiting : handle.recv.reads = read :: reads)
    (buffered : handle.recv.chunks = chunk :: chunks) (safe : UpdateSafe handle.recv) :
    ReportOk (readFront read reads chunk chunks handle).recv := by
  have after : WindowOk (readFront read reads chunk chunks handle).recv := ok.readFront buffered
  unfold UpdateSafe at safe
  rw [waiting, buffered] at safe
  obtain ⟨free, accepted⟩ := safe
  simp only [List.map_cons, List.sum_cons] at accepted
  have frames := ok.frames
  have small := ok.smallFrames
  rw [buffered, List.length_cons] at frames
  unfold ReportOk ReceiveSide.updateDue
  rw [Bool.or_eq_true, beq_iff_eq, decide_eq_true_eq, after.consumedBytes_eq]
  by_cases whole : chunk.length ≤ read.size
  · rw [if_pos whole] at free
    rw [readFront_recv_of_whole whole]
    refine ⟨?_, fun due => accepted ?_⟩
    · show handle.recv.reportedFrames ≤ min ((handle.recv.remainingFrames + 1) % 2 ^ 32) _
      omega
    · dsimp only at due
      omega
  · rw [if_neg whole] at free
    rw [readFront_recv_of_part (Nat.not_le.mp whole)]
    refine ⟨free, fun due => accepted ?_⟩
    dsimp only at due
    omega

theorem updateSafe_of_idle {recv : ReceiveSide} (idle : recv.reads = [] ∨ recv.chunks = []) :
    UpdateSafe recv := by
  unfold UpdateSafe
  split
  · rename_i waiting buffered
    rcases idle with none | none
    · cases waiting.symm.trans none
    · cases buffered.symm.trans none
  · trivial

theorem updateSafe_readFront (ok : WindowOk handle.recv)
    (waiting : handle.recv.reads = read :: reads) (buffered : handle.recv.chunks = chunk :: chunks)
    (few : handle.recv.reads.length ≤ 1 ∨ handle.recv.chunks.length ≤ 1)
    (safe : UpdateSafe handle.recv) :
    UpdateSafe (readFront read reads chunk chunks handle).recv := by
  have reportOk := reportOk_readFront ok waiting buffered safe
  rw [waiting, buffered] at few
  cases reads with
  | nil =>
    refine updateSafe_of_idle (.inl ?_)
    rw [readFront_reads]
  | cons second reads =>
    have one : chunks = [] := by
      rcases few with few | few
      · exact absurd few (by simp)
      · exact List.length_eq_zero_iff.mp (Nat.le_zero.mp (Nat.le_of_succ_le_succ few))
    subst one
    by_cases whole : chunk.length ≤ read.size
    · refine updateSafe_of_idle (.inr ?_)
      rw [readFront_recv_of_whole whole]
    · have part := Nat.not_le.mp whole
      rw [readFront_recv_of_part part] at reportOk ⊢
      unfold UpdateSafe at safe ⊢
      rw [waiting, buffered] at safe
      refine ⟨Nat.le_trans reportOk.1 (Nat.le_add_right _ _), fun due => safe.2 ?_⟩
      simp only [List.map_cons, List.sum_cons, List.length_drop] at due ⊢
      omega

/-- Every report of the dispatch loop is in order, if one read or one frame is
all there is to serve. -/
theorem dispatchSafe_of_updateSafe (rounds : Nat) {turn : Turn} (ok : WindowOk turn.handle.recv)
    (few : turn.handle.recv.reads.length ≤ 1 ∨ turn.handle.recv.chunks.length ≤ 1)
    (safe : UpdateSafe turn.handle.recv) : DispatchSafe ReportOk rounds turn := by
  induction rounds generalizing turn with
  | zero => trivial
  | succ rounds ih =>
    unfold DispatchSafe
    split
    · rename_i read reads chunk chunks waiting buffered
      have reportOk := reportOk_readFront ok waiting buffered safe
      have window : WindowOk (readFront read reads chunk chunks turn.handle).recv :=
        ok.readFront buffered
      have next := updateSafe_readFront ok waiting buffered few safe
      have shape : (readFront read reads chunk chunks turn.handle).recv.reads.length ≤ 1 ∨
          (readFront read reads chunk chunks turn.handle).recv.chunks.length ≤ 1 := by
        rw [readFront_reads]
        rw [waiting, buffered] at few
        refine few.imp (fun one => ?_) fun one => ?_
        · exact Nat.le_trans (Nat.le_succ _) one
        · refine Nat.le_trans ?_ one
          unfold readFront
          dsimp only
          split
          · exact Nat.le_succ _
          · exact Nat.le_refl _
      refine ⟨reportOk, ?_⟩
      rcases maybeSendWindowUpdate_cases with ⟨same, -⟩ | ⟨due, same, -⟩
      · have handle := congrArg Prod.fst same
        dsimp only [Turn.point] at handle
        refine ih ?_ ?_ ?_ <;> rw [handle]
        · exact window
        · exact shape
        · exact next
      · have handle := congrArg Prod.fst same
        dsimp only [Turn.point] at handle
        refine ih ?_ ?_ ?_ <;> rw [handle]
        · exact WindowOk.reportWindow window (reportOk.2 due)
        · exact shape
        · unfold UpdateSafe
          split
          · exact ⟨Nat.le_add_right _ _, fun _ => reportOk.2 due⟩
          · trivial
    · trivial

/-- The window is reported only where the report counts freed frames: when a read
is served from the buffer, and when arriving data serves waiting reads. -/
def WindowReportsSafe (system : System) (event : Side × Op) : Prop :=
  match event.2 with
  | .asyncReadSome id size deadline _ =>
    ∀ handle, ((system event.1).slots id).handle = some handle → size ≠ 0 →
      handle.state ≠ .reset →
      UpdateSafe (pushRead { size := size, deadline := deadline } handle).recv
  | .deliver id _ sweep _ =>
    ∀ handle offset length bytes rest,
      (((system event.1).sweepDeadlines sweep).slots id).handle = some handle →
      handle.registered = true →
      ((system event.1.other).slots id).out = .streamData offset length bytes :: rest →
      UpdateSafe (bufferData (deliverable handle bytes) (chargeData bytes handle)).recv
  | _ => True

section

variable (balanced : Balanced slot peer) (has : slot.handle = some handle)

include balanced has

theorem Balanced.window : WindowOk handle.recv := Slot.recv_eq has ▸ balanced.ownWindow

theorem Balanced.fits (front : peer.out = .streamData offset length bytes :: rest) :
    bytes.length ≤ handle.recv.remainingBytes ∧ handle.recv.remainingFrames ≠ 0 := by
  have bytesLe := balanced.inbound.bytes
  have frames := balanced.inbound.frames
  have slack := balanced.ownWindow.slack
  rw [Slot.recv_eq has] at bytesLe frames slack
  rw [front, total_cons] at bytesLe frames
  dsimp only [dataBytes, dataFrames] at bytesLe frames
  omega

theorem Balanced.credit_fits
    (front : peer.out = .streamWindowUpdate consumed additionalBytes additionalFrames :: rest) :
    additionalBytes ≤ 2 ^ 64 - 1 - handle.send.creditBytes := by
  have bytesLe := balanced.outbound.bytes
  obtain ⟨bytes, reported, -, -, -, small, -⟩ := balanced.peerWindow
  have send : slot.send = handle.send := by
    unfold Slot.send
    rw [has]
    rfl
  rw [front, total_cons, send] at bytesLe
  dsimp only [grantBytes] at bytesLe
  omega

end

theorem few_bufferData (idle : Idle handle) :
    (bufferData bytes handle).recv.reads.length ≤ 1 ∨
      (bufferData bytes handle).recv.chunks.length ≤ 1 := by
  rcases idle with none | none
  · left
    show handle.recv.reads.length ≤ 1
    rw [none]
    exact Nat.zero_le 1
  · right
    show List.length (if bytes = [] then handle.recv.chunks else handle.recv.chunks ++ [bytes]) ≤ 1
    rw [none]
    split
    · exact Nat.zero_le 1
    · exact Nat.le_refl 1

theorem stepSafe_flow {allowed : System → Side × Op → Prop} {system : System} {side : Side} {op : Op}
    (run : System.Run allowed system)
    (balanced : ∀ side id, Balanced ((system side).slots id) ((system side.other).slots id))
    (ok : WindowReportsSafe system (side, op)) : StepSafe flowWatch system side op := by
  have idle := System.Run.idle run side
  cases op with
  | openStream | openGatewayStream | failAll => trivial
  | asyncReadSome id size deadline replies =>
    intro handle has
    refine ⟨trivial, .inl trivial, fun some running => ?_, fun _ _ => ⟨trivial, trivial⟩⟩
    have window := (balanced side id).window has
    refine dispatchSafe_of_updateSafe _ ?_ ?_ (ok handle has some running)
    · exact { window with }
    · rcases idle id handle has with none | none
      · left
        show (handle.recv.reads ++ [_]).length ≤ 1
        rw [none]
        exact Nat.le_refl 1
      · right
        show handle.recv.chunks.length ≤ 1
        rw [none]
        exact Nat.zero_le 1
  | asyncWrite id data deadline replies sweep =>
    exact ⟨.inl trivial, fun handle has =>
      ⟨idle id handle has, ((run.settled.2 side id).1 handle has).noFin, .inl trivial⟩⟩
  | shutdownWrite id replies => exact fun handle has => ⟨idle id handle has, .inl trivial, trivial⟩
  | reset | checkDeadlines => exact .inl trivial
  | deliver id channelId sweep env =>
    intro frame rest front
    refine ⟨.inl trivial, fun _ _ _ _ => ⟨.inl trivial, .inl trivial⟩,
      fun handle has registered => ⟨.inl trivial, ?_⟩⟩
    have moves : Moves flowWatch (system side) (fun id => (system side.other).slots id)
        ((system side).sweepDeadlines sweep) := sweepDeadlines_moves (.inl trivial)
    have swept : Balanced (((system side).sweepDeadlines sweep).slots id) _ :=
      (moves.goes id).keeps (fun kept step => kept.link (System.Run.limits_valid run side) step)
        (balanced side id)
    have sweptIdle := quiet_sweepDeadlines sweep idle id handle has
    cases frame with
    | streamOpen | streamReset => trivial
    | streamData offset length bytes =>
      refine ⟨.inr fun _ _ => swept.fits has front, fun after taken => ?_,
        fun _ _ => ⟨trivial, trivial⟩⟩
      have here : Balanced ⟨some handle, (((system side).sweepDeadlines sweep).slots id).out⟩
          ((system side.other).slots id) := by
        rw [← has]
        exact swept
      refine dispatchSafe_of_updateSafe _
        ((here.data front taken taken.deliverable_le).window rfl) (few_bufferData ?_) ?_
      · unfold Idle
        rw [taken.recv]
        exact sweptIdle
      · rw [taken.buffered]
        exact ok handle offset length bytes rest has registered front
    | streamWindowUpdate consumed bytes frames =>
      exact ⟨.inr (swept.credit_fits has front), sweptIdle, .inl trivial,
        endsSafely_of_forall fun _ => trivial⟩
    | streamFin finalOffset =>
      refine ⟨dispatchSafe_of_updateSafe _ ?_ ?_ (updateSafe_of_idle sweptIdle),
        fun _ _ => ⟨trivial, trivial⟩⟩
      · have window := swept.window has
        exact { window with }
      · exact @few_bufferData handle [] sweptIdle

theorem System.Run.balanced {system : System} (run : System.Run WindowReportsSafe system) :
    ∀ side id, Balanced ((system side).slots id) ((system side.other).slots id) := by
  induction run with
  | start initial =>
    intro side id
    rw [initial.noSlots, initial.noSlots]
    exact ⟨windowOk_absent, windowOk_absent, .empty, ⟨Nat.le_refl _, Nat.le_refl _⟩,
      ⟨Nat.le_refl _, Nat.le_refl _⟩, Nat.zero_le _, Nat.zero_le _⟩
  | next event run ok ih =>
    exact step_keeps (stepSafe_flow run ih ok) Balanced.symm
      (fun held goes => goes.keeps (Balanced.link (System.Run.limits_valid run event.1)) held) ih

/-- In every run that reports the window only where the report counts freed
frames, no data frame meets the violation branch on arrival, no stream is reset
for exhausted resources, and no counter wraps. -/
theorem stream_flow_control_safe {system : System} (run : System.Run WindowReportsSafe system)
    (side : Side) (id : StreamId) (handle : Handle)
    (has : ((system side).slots id).handle = some handle) :
    (∀ offset length bytes rest,
      ((system side.other).slots id).out = .streamData offset length bytes :: rest →
      bytes.length ≤ handle.recv.remainingBytes ∧ handle.recv.remainingFrames ≠ 0) ∧
    handle.violated = false ∧ handle.wrapped = false := by
  have balanced := run.balanced side id
  exact ⟨fun _ _ _ _ front => balanced.fits has front, balanced.sound.1 handle has⟩

/-- An opened stream whose first data frame is about to arrive. -/
def firstArrival : List (Side × Op) := [
  (.left, .openStream streamOne 8 2 none), (.right, arrival), (.right, writing [1, 2]),
  (.left, arrival)]

theorem stream_flow_control_safe_firstArrival :
    ∃ handle, (slotAfter firstArrival .left).handle = some handle ∧
      (∀ offset length bytes rest,
        (slotAfter firstArrival .right).out = .streamData offset length bytes :: rest →
        bytes.length ≤ handle.recv.remainingBytes ∧ handle.recv.remainingFrames ≠ 0) ∧
      handle.violated = false ∧ handle.wrapped = false := by
  have each : EventsAllowed WindowReportsSafe firstArrival := by
    refine ⟨trivial, fun _ _ _ _ _ _ _ front => ?_, trivial, fun _ _ _ _ _ _ _ front => ?_, trivial⟩
    · have isOpen : (slotAfter (firstArrival.take 1) .left).out = [.streamOpen 8 2 false] := rfl
      cases isOpen.symm.trans front
    · have isGrant : (slotAfter (firstArrival.take 3) .right).out =
          [.streamWindowUpdate 0 262144 64, .streamData 0 2 [1, 2]] := rfl
      cases isGrant.symm.trans front
  exact ⟨_, rfl, stream_flow_control_safe (run_afterEvents each) .left streamOne _ rfl⟩

/-- A window of two frames: after one frame has been read the first update grants
two more, and the third of the next three frames finds none free. -/
def overrun : List (Side × Op) := [
  (.left, .openStream streamOne 8 2 none), (.right, arrival), (.left, arrival),
  (.right, writing [1, 2]), (.left, reading 8), (.left, arrival), (.right, arrival),
  (.right, writing [3]), (.right, writing [4]), (.right, writing [5]),
  (.left, arrival), (.left, arrival), (.left, arrival)]

/-- The same stream, with a read while two frames are buffered: one frame is free,
two were at the last update, and the difference wraps. -/
def underrun : List (Side × Op) := overrun.take 12 ++ [(.left, reading 1)]

theorem stream_flow_control_violated :
    (∃ system, System.Run (fun _ _ => True) system ∧
      ∃ handle, ((system .left).slots streamOne).handle = some handle ∧
        handle.violated = true ∧ handle.state = .reset ∧
        .streamReset StableStatus.resourceExhausted.code ∈ ((system .left).slots streamOne).out) ∧
    ∃ system, System.Run (fun _ _ => True) system ∧
      ∃ handle, ((system .left).slots streamOne).handle = some handle ∧ handle.wrapped = true := by
  refine ⟨⟨_, run_events overrun, _, rfl, rfl, rfl, ?_⟩,
    ⟨_, run_events underrun, _, rfl, rfl⟩⟩
  have sent : (slotAfter overrun .left).out =
    [.streamReset StableStatus.resourceExhausted.code] := rfl
  exact sent ▸ List.mem_singleton_self _

end Heyaki
