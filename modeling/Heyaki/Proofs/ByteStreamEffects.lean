/-
Purpose: what an action does to the credit and window counters and to the frames
under way.  Only four actions touch them; all others are quiet.
-/
import Heyaki.Proofs.ByteStreamTidy

namespace Heyaki

variable {handle : Handle} {limits : ByteStreamLimits} {watch : Watch} {out : List StreamFrame}
  {frame : StreamFrame}

/-! ### Frames under way -/

namespace StreamFrame

def dataBytes : StreamFrame → Nat
  | .streamData _ _ bytes => bytes.length
  | _ => 0

def dataFrames : StreamFrame → Nat
  | .streamData _ _ _ => 1
  | _ => 0

/-- An OPEN grants its sender's window, as an update does. -/
def grantBytes : StreamFrame → Nat
  | .streamOpen windowBytes _ _ => windowBytes
  | .streamWindowUpdate _ bytes _ => bytes
  | _ => 0

def grantFrames : StreamFrame → Nat
  | .streamOpen _ windowFrames _ => windowFrames
  | .streamWindowUpdate _ _ frames => frames
  | _ => 0

def opens : StreamFrame → Nat
  | .streamOpen _ _ _ => 1
  | _ => 0

/-- FIN and RESET carry no data and no credit. -/
def Silent : StreamFrame → Prop
  | .streamFin _ | .streamReset _ => True
  | _ => False

theorem Silent.weights (silent : frame.Silent) :
    frame.dataBytes = 0 ∧ frame.dataFrames = 0 ∧ frame.grantBytes = 0 ∧ frame.grantFrames = 0 ∧
      frame.opens = 0 := by
  cases frame with
  | streamFin | streamReset => exact ⟨rfl, rfl, rfl, rfl, rfl⟩
  | streamOpen | streamData | streamWindowUpdate => exact silent.elim

end StreamFrame

variable (weight : StreamFrame → Nat)

def total (out : List StreamFrame) : Nat := (out.map weight).sum

@[simp] theorem total_nil : total weight [] = 0 := rfl

@[simp] theorem total_cons (frame : StreamFrame) (out : List StreamFrame) :
    total weight (frame :: out) = weight frame + total weight out := by
  simp [total]

@[simp] theorem total_append (out more : List StreamFrame) :
    total weight (out ++ more) = total weight out + total weight more := by
  simp [total]

theorem total_eq_zero {weight : StreamFrame → Nat} {frames : List StreamFrame}
    (none : ∀ frame ∈ frames, weight frame = 0) : total weight frames = 0 := by
  induction frames with
  | nil => rfl
  | cons frame frames ih =>
    rw [total_cons, none frame List.mem_cons_self,
      ih fun other member => none other (List.mem_cons_of_mem _ member)]

theorem total_tail_le {rest : List StreamFrame} (front : out = frame :: rest) :
    total weight rest ≤ total weight out := by
  rw [front, total_cons]
  exact Nat.le_add_left _ _

/-! ### Quiet actions -/

structure SameCounters (handle after : Handle) : Prop where
  recv : ∃ reads, after.recv = { handle.recv with reads := reads }
  creditBytes : after.send.creditBytes = handle.send.creditBytes
  creditFrames : after.send.creditFrames = handle.send.creditFrames
  nextSendOffset : after.send.nextSendOffset = handle.send.nextSendOffset
  consumedByPeer : after.send.consumedByPeer = handle.send.consumedByPeer
  prelude : after.gateway.prelude = handle.gateway.prelude
  initiator : after.gateway.initiator = handle.gateway.initiator
  violated : after.violated = handle.violated
  wrapped : after.wrapped = handle.wrapped

theorem SameCounters.refl : SameCounters handle handle :=
  ⟨⟨_, rfl⟩, rfl, rfl, rfl, rfl, rfl, rfl, rfl, rfl⟩

theorem SameCounters.trans {first second third : Handle} (one : SameCounters first second)
    (two : SameCounters second third) : SameCounters first third where
  recv := by
    obtain ⟨_, sameOne⟩ := one.recv
    obtain ⟨reads, sameTwo⟩ := two.recv
    exact ⟨reads, by rw [sameTwo, sameOne]⟩
  creditBytes := two.creditBytes.trans one.creditBytes
  creditFrames := two.creditFrames.trans one.creditFrames
  nextSendOffset := two.nextSendOffset.trans one.nextSendOffset
  consumedByPeer := two.consumedByPeer.trans one.consumedByPeer
  prelude := two.prelude.trans one.prelude
  initiator := two.initiator.trans one.initiator
  violated := two.violated.trans one.violated
  wrapped := two.wrapped.trans one.wrapped

theorem sameCounters_failConnected (error : Error) :
    SameCounters handle (handle.failConnected error) := by
  unfold Handle.failConnected
  split
  · exact ⟨⟨_, rfl⟩, rfl, rfl, rfl, rfl, rfl, rfl, rfl, rfl⟩
  · exact ⟨⟨_, rfl⟩, rfl, rfl, rfl, rfl, rfl, rfl, rfl, rfl⟩

theorem sameCounters_finishStream (terminal : StreamState) :
    SameCounters handle (finishStream terminal handle) :=
  (sameCounters_failConnected _).trans ⟨⟨[], rfl⟩, rfl, rfl, rfl, rfl, rfl, rfl, rfl, rfl⟩

theorem sameCounters_readEnd (reads : List PendingRead) :
    SameCounters handle (readEnd reads handle) := by
  have popped : SameCounters handle { handle with
      recv := { handle.recv with reads := reads }
      log := handle.log ++ [.read [] none] } :=
    ⟨⟨reads, rfl⟩, rfl, rfl, rfl, rfl, rfl, rfl, rfl, rfl⟩
  unfold readEnd
  dsimp only
  split
  · exact popped.trans (sameCounters_finishStream _)
  · exact popped

theorem handleResetFrameFor_out (reason : StableStatus) (turn : Turn) :
    ∃ frames, (handleResetFrameFor reason turn).out = turn.out ++ frames ∧
      (frames = [] ∨ frames = [.streamReset reason.code]) := by
  unfold handleResetFrameFor
  split
  · obtain ⟨sent, _, after, result, -, sameOut, -⟩ :=
      sendStreamFrame_point (.streamReset reason.code)
    rw [result]
    refine ⟨_, sameOut, ?_⟩
    cases sent with
    | false => exact .inl rfl
    | true => exact .inr rfl
  · exact ⟨[], (List.append_nil _).symm, .inl rfl⟩

/-! ### Effects -/

inductive Effect (limits : ByteStreamLimits) (watch : Watch) (handle : Handle)
    (out : List StreamFrame) : Handle × List StreamFrame → Prop
  | quiet {after : Handle} {frames : List StreamFrame} (same : SameCounters handle after)
      (silent : ∀ frame ∈ frames, frame.Silent) : Effect limits watch handle out (after, out ++ frames)
  | data {write : PendingWrite} {writes : List PendingWrite} (alive : handle.Alive)
      (front : handle.send.writes = write :: writes) (more : write.offset < write.data.length)
      (bytes : handle.send.creditBytes ≠ 0) (frames : handle.send.creditFrames ≠ 0) :
      Effect limits watch handle out
        (chargeChunk (chunkSize limits handle.send write) write writes handle,
          out ++ [frontFrame limits handle.send write])
  | read {read : PendingRead} {reads : List PendingRead} {chunk : List UInt8}
      {chunks : List (List UInt8)} (waiting : handle.recv.reads = read :: reads)
      (buffered : handle.recv.chunks = chunk :: chunks) :
      Effect limits watch handle out (readFront read reads chunk chunks handle, out)
  | note (safe : watch.update handle.recv)
      (calm : watch.refusals ∨ handle.recv.updateDue = false) :
      Effect limits watch handle out (noteConsumed handle, out)
  | report (safe : watch.update handle.recv) (due : handle.recv.updateDue = true) :
      Effect limits watch handle out
        (reportWindow (noteConsumed handle), out ++ [handle.recv.updateFrame])

theorem effect_of_same {handle after : Handle} (same : SameCounters handle after) :
    Effect limits watch handle out (after, out) := by
  have quiet : Effect limits watch handle out (after, out ++ []) := .quiet same nofun
  rwa [List.append_nil] at quiet

theorem effect_of_reset {turn : Turn} {handle : Handle} {reason : StableStatus}
    (same : SameCounters handle turn.handle) (sameOut : turn.out = out) :
    Effect limits watch handle out (handleResetFrameFor reason turn).point := by
  obtain ⟨frames, outEq, kind⟩ := handleResetFrameFor_out reason turn
  have point : (handleResetFrameFor reason turn).point =
      (finishStream .reset turn.handle, out ++ frames) :=
    Prod.ext (handleResetFrameFor_handle reason turn) (sameOut ▸ outEq)
  rw [point]
  refine .quiet (same.trans (sameCounters_finishStream _)) fun frame member => ?_
  rcases kind with rfl | rfl
  · cases member
  · rw [List.mem_singleton.mp member]
    trivial

theorem sameCounters_completeFront (write : PendingWrite) (writes : List PendingWrite) (bytes : Nat)
    (error : Option Error) : SameCounters handle (completeFront write writes bytes error handle) :=
  ⟨⟨_, rfl⟩, rfl, rfl, rfl, rfl, rfl, rfl, rfl, rfl⟩

theorem Action.effect {point point' : Handle × List StreamFrame}
    (action : Action limits watch point point') :
    Effect limits watch point.1 point.2 point' := by
  cases action with
  | sendData alive front more bytes frames => exact .data alive front more bytes frames
  | sendFailed alive front refused =>
    exact effect_of_reset (sameCounters_completeFront _ _ _ _) rfl
  | writeDone => exact effect_of_same (sameCounters_completeFront _ _ _ _)
  | @lastWriteDone handle out write writes sent =>
    refine .quiet ((sameCounters_completeFront _ _ _ _).trans (sameCounters_finishStream _))
      fun frame member => ?_
    cases sent with
    | false => cases member
    | true =>
      rw [List.mem_singleton.mp member]
      trivial
  | @sendFin handle out alive fresh none =>
    have same : SameCounters handle { handle with send := { handle.send with finSent := true } } :=
      ⟨⟨_, rfl⟩, rfl, rfl, rfl, rfl, rfl, rfl, rfl, rfl⟩
    refine .quiet (same.trans (sameCounters_finishStream _)) fun frame member => ?_
    rw [List.mem_singleton.mp member]
    trivial
  | finRefused | requestFin | pushWrite | pushRead | report | expire =>
    exact effect_of_same ⟨⟨_, rfl⟩, rfl, rfl, rfl, rfl, rfl, rfl, rfl, rfl⟩
  | readFront waiting buffered => exact .read waiting buffered
  | @update turn calm safe =>
    rcases maybeSendWindowUpdate_cases with ⟨same, notDue⟩ | ⟨due, same, -⟩
    · rw [same]
      exact .note safe (calm.imp_right fun accepting => (notDue accepting).1)
    · rw [same]
      exact .report safe due
  | readEnd => exact effect_of_same (sameCounters_readEnd _)
  | finishRemote => exact effect_of_same (sameCounters_finishStream _)
  | reset => exact effect_of_reset .refl rfl
  | fail =>
    exact effect_of_same ((sameCounters_failConnected _).trans
      ⟨⟨[], rfl⟩, rfl, rfl, rfl, rfl, rfl, rfl, rfl, rfl⟩)

end Heyaki
