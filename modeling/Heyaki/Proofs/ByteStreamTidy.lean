/-
Purpose: what holds of every handle in every run: a stream is in the map while
it is alive, FIN follows the last queued write only, and between calls either no
read waits or no data does.

Main exports: `Tidy`, `Quiet`
-/
import Heyaki.Proofs.ByteStreamLink

namespace Heyaki

variable {limits : ByteStreamLimits} {watch : Watch} {handle : Handle} {writes : List PendingWrite}
  {holds : Handle → Prop} {peer : Slot} {windowBytes windowFrames : Nat} {turn : Turn}
  {service : ByteStreamService} {id : StreamId} {system : System}
  {allowed : System → Side × Op → Prop}

/-! ### The terminal routine -/

@[simp] theorem failConnected_registered (error : Error) :
    (handle.failConnected error).registered = handle.registered := by
  unfold Handle.failConnected
  split <;> rfl

variable (terminal : StreamState)

@[simp] theorem finishStream_state : (finishStream terminal handle).state = terminal := rfl

@[simp] theorem finishStream_registered :
    (finishStream terminal handle).registered =
      (handle.registered && !(terminal == .reset || terminal == .closed)) := by
  unfold finishStream
  dsimp only
  rw [failConnected_registered]

variable (error : Error)

/-! ### The map and the order of writes -/

structure Tidy (handle : Handle) : Prop where
  listed : handle.registered = true ↔ handle.Alive
  noFin : handle.send.finSent = false → NoFinAfter handle.send.writes
  finLast : EndsSafely (· = []) handle.send.writes

theorem tidy_of_ended (notListed : handle.registered = false) (dead : ¬ handle.Alive)
    (none : handle.send.writes = []) : Tidy handle where
  listed := by
    rw [notListed]
    exact ⟨fun no => Bool.noConfusion no, fun alive => absurd alive dead⟩
  noFin _ := by
    rw [none]
    intro write member
    cases member
  finLast := by
    rw [none]
    trivial

theorem Tidy.of_same_writes {other : Handle} (tidy : Tidy handle)
    (writes : other.send.writes = handle.send.writes)
    (finSent : other.send.finSent = handle.send.finSent) (state : other.state = handle.state)
    (registered : other.registered = handle.registered) : Tidy other := by
  obtain ⟨listed, noFin, finLast⟩ := tidy
  refine ⟨?_, ?_, ?_⟩
  · unfold Handle.Alive
    rw [registered, state]
    exact listed
  · rw [writes, finSent]
    exact noFin
  · rw [writes]
    exact finLast

theorem Tidy.of_same {other : Handle} (tidy : Tidy handle) (send : other.send = handle.send)
    (state : other.state = handle.state) (registered : other.registered = handle.registered) :
    Tidy other :=
  tidy.of_same_writes (congrArg SendSide.writes send) (congrArg SendSide.finSent send) state
    registered

theorem tidy_finishStream {terminal : StreamState}
    (live : terminal = .reset ∨ terminal = .closed ∨ handle.registered = true) :
    Tidy (finishStream terminal handle) := by
  have none : (finishStream terminal handle).send.writes = [] := by rw [finishStream_send]
  refine ⟨?_, fun _ => ?_, ?_⟩
  · unfold Handle.Alive
    rw [finishStream_state, finishStream_registered]
    rcases live with rfl | rfl | listed
    · simp
    · simp
    · rw [listed]
      simp
  · rw [none]
    intro write member
    cases member
  · rw [none]
    trivial

theorem endsSafely_markFinAfter (none : NoFinAfter writes) :
    EndsSafely (· = []) (markFinAfter writes) := by
  induction writes with
  | nil => trivial
  | cons write writes ih =>
    cases writes with
    | nil => exact ⟨fun _ => rfl, trivial⟩
    | cons next writes =>
      refine ⟨fun last => ?_, ih fun other member => none other (List.mem_cons_of_mem _ member)⟩
      rw [none write List.mem_cons_self] at last
      cases last

theorem endsSafely_filter (keep : PendingWrite → Bool) (last : EndsSafely (· = []) writes) :
    EndsSafely (· = []) (writes.filter keep) := by
  induction writes with
  | nil => trivial
  | cons write writes ih =>
    rw [List.filter_cons]
    split
    · refine ⟨fun isLast => ?_, ih last.2⟩
      rw [last.1 isLast]
      rfl
    · exact ih last.2

theorem Tidy.action {point point' : Handle × List StreamFrame} (tidy : Tidy point.1)
    (action : Action limits watch point point') : Tidy point'.1 := by
  cases action with
  | @sendData handle out write writes alive front more bytes frames =>
    have last : EndsSafely (· = []) (write :: writes) := front ▸ tidy.finLast
    refine ⟨tidy.listed, fun fresh other member => ?_, last⟩
    have none : NoFinAfter (write :: writes) := front ▸ tidy.noFin fresh
    rcases List.mem_cons.mp member with rfl | member
    · exact none write List.mem_cons_self
    · exact none other (List.mem_cons_of_mem _ member)
  | sendFailed alive front refused | reset calm =>
    show Tidy (handleResetFrameFor _ _).handle
    rw [handleResetFrameFor_handle]
    exact tidy_finishStream (.inl rfl)
  | @writeDone handle out write writes alive front all notLast =>
    have last : EndsSafely (· = []) (write :: writes) := front ▸ tidy.finLast
    refine ⟨tidy.listed, fun fresh other member => ?_, last.2⟩
    have none : NoFinAfter (write :: writes) := front ▸ tidy.noFin fresh
    exact none other (List.mem_cons_of_mem _ member)
  | lastWriteDone alive | sendFin alive =>
    exact tidy_finishStream (.inr (.inr (tidy.listed.mpr alive)))
  | finRefused alive fresh none =>
    exact ⟨tidy.listed, fun no => Bool.noConfusion no, tidy.finLast⟩
  | requestFin alive fresh some =>
    exact ⟨tidy.listed, fun no => Bool.noConfusion no, endsSafely_markFinAfter (tidy.noFin fresh)⟩
  | @pushWrite handle out data deadline alive fresh =>
    have none : NoFinAfter (Heyaki.pushWrite data deadline handle).send.writes :=
      noFinAfter_append (tidy.noFin fresh) rfl
    exact ⟨tidy.listed, fun _ => none, endsSafely_of_noFinAfter none⟩
  | pushRead | report immediate => exact ⟨tidy.listed, tidy.noFin, tidy.finLast⟩
  | readFront waiting buffered =>
    unfold Heyaki.readFront
    dsimp only
    split
    · exact tidy.of_same rfl rfl rfl
    · exact tidy.of_same rfl rfl rfl
  | @update turn calm safe =>
    rcases maybeSendWindowUpdate_cases with ⟨same, -⟩ | ⟨-, same, -⟩
    all_goals
      rw [same]
      exact tidy.of_same rfl rfl rfl
  | @readEnd handle out read reads waiting ended ending =>
    unfold Heyaki.readEnd
    dsimp only
    split
    · exact tidy_finishStream (.inr (.inl rfl))
    · exact tidy.of_same rfl rfl rfl
  | finishRemote ended live ending =>
    refine tidy_finishStream ?_
    rcases live with alive | sent
    · exact .inr (.inr (tidy.listed.mpr alive))
    · exact .inr (.inl (if_pos sent))
  | expire =>
    refine ⟨tidy.listed, fun fresh other member => ?_, endsSafely_filter _ tidy.finLast⟩
    exact tidy.noFin fresh other (List.mem_filter.mp member).1
  | @fail handle out error allowed =>
    refine tidy_of_ended rfl (fun alive => alive.1 rfl) ?_
    unfold failStream
    simp

/-- Properties of both ends of a stream that speak of each handle alone. -/
def Both (holds : Handle → Prop) (own peer : Slot) : Prop :=
  (∀ handle, own.handle = some handle → holds handle) ∧
    ∀ handle, peer.handle = some handle → holds handle

theorem Both.symm {own : Slot} (both : Both holds own peer) :
    Both holds peer own :=
  ⟨both.2, both.1⟩

theorem Both.empty : Both holds {} {} := by
  refine ⟨fun handle has => ?_, fun handle has => ?_⟩
  · cases has
  · cases has

theorem Both.own {out : List StreamFrame} {peer' : Slot} (here : holds handle)
    (both : ∀ handle, peer.handle = some handle → holds handle)
    (same : peer'.handle = peer.handle) : Both holds ⟨some handle, out⟩ peer' := by
  refine ⟨fun other has => ?_, fun other has => both other (same ▸ has)⟩
  cases has
  exact here

theorem tidy_of_new {creditBytes creditFrames : Nat}
    (new : NewHandle windowBytes windowFrames creditBytes creditFrames handle) : Tidy handle := by
  refine ⟨?_, ?_, ?_⟩
  · unfold Handle.Alive
    rw [new.registered]
    rcases new.state with state | state <;> simp [state]
  · rw [new.send]
    intro _ write member
    cases member
  · rw [new.send]
    trivial

theorem tidy_takesData {offset length : Nat} {bytes : List UInt8} {after : Handle}
    (tidy : Tidy handle) (taken : TakesData offset length bytes handle after) : Tidy after := by
  refine ⟨?_, ?_, ?_⟩
  · rw [taken.registered]
    exact ⟨fun _ => taken.after_alive, fun _ => tidy.listed.mpr taken.alive⟩
  · rw [taken.send]
    exact tidy.noFin
  · rw [taken.send]
    exact tidy.finLast

theorem Tidy.link {own own' peer' : Slot} (tidy : Both Tidy own peer)
    (step : LinkStep limits watch (own, peer) (own', peer')) : Both Tidy own' peer' := by
  cases step with
  | act action => exact .own ((tidy.1 _ rfl).action action) tidy.2 rfl
  | opened bytes frames new kind | accepted front free bytes frames new kind refusal =>
    exact .own (tidy_of_new new) tidy.2 rfl
  | ignored front ignores | refused front free refusal => exact tidy
  | data registered front taken =>
    exact .own ((tidy_takesData (tidy.1 _ rfl) taken).of_same rfl rfl rfl) tidy.2 rfl
  | badPrelude registered front taken calm | rejected registered front calm
  | violation registered front calm allowed =>
    rw [handleResetFrameFor_handle]
    exact .own (tidy_finishStream (.inl rfl)) tidy.2 rfl
  | update registered front taken =>
    exact .own ((tidy.1 _ rfl).of_same_writes rfl rfl rfl rfl) tidy.2 rfl
  | fin registered alive front => exact .own ((tidy.1 _ rfl).of_same rfl rfl rfl) tidy.2 rfl
  | peerReset registered front => exact .own (tidy_finishStream (.inl rfl)) tidy.2 rfl

/-! ### Between calls -/

open ByteStreamService

def Quiet (service : ByteStreamService) : Prop :=
  ∀ id handle, (service.slots id).handle = some handle → Idle handle

/-- The service keeps its limits, and every handle of it is idle afterwards. -/
structure Settles (service after : ByteStreamService) : Prop where
  limits : after.limits = service.limits
  quiet : Quiet after

/-! ### Runs -/

def free : Watch := {}

theorem quiet_sweepDeadlines (sweep : Sweep) (all : Quiet service) :
    Quiet (service.sweepDeadlines sweep) := by
  have moves : Moves free service (fun _ => {}) (service.sweepDeadlines sweep) :=
    sweepDeadlines_moves (.inl trivial)
  exact fun id => (moves.goes id).rests (all id)

theorem dispatchSafe_of_forall {safe : ReceiveSide → Prop} (all : ∀ recv, safe recv) (rounds : Nat)
    (turn : Turn) : DispatchSafe safe rounds turn := by
  induction rounds generalizing turn with
  | zero => trivial
  | succ rounds ih =>
    unfold DispatchSafe
    split
    · exact ⟨all _, ih _⟩
    · trivial

theorem frameSafe_free (frame : StreamFrame) (idle : Idle turn.handle) :
    FrameSafe free frame turn := by
  refine ⟨.inl trivial, ?_⟩
  cases frame with
  | streamOpen | streamReset => trivial
  | streamData =>
    exact ⟨.inl trivial, fun _ _ => dispatchSafe_of_forall (fun _ => trivial) _ _,
      fun _ _ => ⟨trivial, trivial⟩⟩
  | streamWindowUpdate =>
    exact ⟨.inl trivial, idle, .inl trivial, endsSafely_of_forall fun _ => trivial⟩
  | streamFin =>
    exact ⟨dispatchSafe_of_forall (fun _ => trivial) _ _, fun _ _ => ⟨trivial, trivial⟩⟩

theorem stepSafe_free {side : Side} (op : Op) (quiet : Quiet (system side))
    (tidy : ∀ id handle, ((system side).slots id).handle = some handle → Tidy handle) :
    StepSafe free system side op := by
  cases op with
  | openStream | openGatewayStream | failAll => trivial
  | asyncReadSome id size deadline replies =>
    exact fun handle has => ⟨trivial, .inl trivial,
      fun _ _ => dispatchSafe_of_forall (fun _ => trivial) _ _, fun _ _ => ⟨trivial, trivial⟩⟩
  | asyncWrite id data deadline replies sweep =>
    exact ⟨.inl trivial, fun handle has =>
      ⟨quiet id handle has, (tidy id handle has).noFin, .inl trivial⟩⟩
  | shutdownWrite id replies =>
    exact fun handle has => ⟨quiet id handle has, .inl trivial, trivial⟩
  | reset | checkDeadlines => exact .inl trivial
  | deliver id channelId sweep env =>
    intro frame rest front
    exact ⟨.inl trivial, fun _ _ _ _ => ⟨.inl trivial, .inl trivial⟩, fun handle has _ =>
      frameSafe_free frame (quiet_sweepDeadlines sweep quiet id handle has)⟩

theorem settles_step {side : Side} {op : Op} (safe : StepSafe watch system side op)
    (quiet : ∀ side, Quiet (system side)) (other : Side) :
    Settles (system other) (system.step side op other) := by
  refine ⟨(step_goes safe).limits other, fun id => ?_⟩
  obtain ⟨rest, popped, goes⟩ := (step_goes safe).goes id
  by_cases same : other = side
  · rw [same]
    exact goes.rests (quiet side id)
  · rw [Side.eq_other same, popped]
    exact quiet side.other id

section

variable (run : System.Run allowed system)

include run

theorem System.Run.settled :
    (∀ side, Quiet (system side) ∧ validateByteStreamLimits (system side).limits = .ok ()) ∧
      ∀ side id, Both Tidy ((system side).slots id) ((system side.other).slots id) := by
  induction run with
  | start initial =>
    refine ⟨fun side => ⟨fun id handle has => ?_, initial.limitsValid side⟩, fun side id => ?_⟩
    · rw [initial.noSlots] at has
      cases has
    · rw [initial.noSlots, initial.noSlots]
      exact .empty
  | next event run ok ih =>
    obtain ⟨sides, tidy⟩ := ih
    have each (side : Side) (id : StreamId) := (tidy side id).1
    have safe := stepSafe_free event.2 (sides event.1).1 (each event.1)
    refine ⟨fun side => ?_,
      step_keeps safe Both.symm (fun both goes => goes.keeps Tidy.link both) tidy⟩
    have settles := settles_step safe (fun side => (sides side).1) side
    exact ⟨settles.quiet, settles.limits ▸ (sides side).2⟩

theorem System.Run.idle (side : Side) : Quiet (system side) :=
  (run.settled.1 side).1

theorem System.Run.limits_valid (side : Side) :
    validateByteStreamLimits (system side).limits = .ok () :=
  (run.settled.1 side).2

end

end Heyaki
