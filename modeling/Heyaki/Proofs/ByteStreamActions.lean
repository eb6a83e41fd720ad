/-
Purpose: what one stream can do.  Every call and every frame handler is a
sequence of atomic actions on the handle and its outgoing frames; the loops are
taken apart here once, and every invariant is then a statement about actions.

A `Watch` restricts the actions: which refusals of the session may occur, in
which state the window may be reported, and with which pending operations a
direction may end.
-/
import Heyaki.Client.ByteStream

namespace Heyaki

open List

variable {turn : Turn}

/-! ### The session's replies -/

/-- The session refuses none of the frames of this call. -/
def Turn.Accepting (turn : Turn) : Prop := ∀ reply ∈ turn.replies, reply = none

/-- The handle and its frames under way: what actions act on. -/
def Turn.point (turn : Turn) : Handle × List StreamFrame := (turn.handle, turn.out)

variable (frame : StreamFrame)

theorem sendStreamFrame_cases : (∃ error after, turn.sendStreamFrame frame = (some error, after) ∧
      after.point = turn.point ∧ ¬ turn.Accepting) ∨
    (∃ after, turn.sendStreamFrame frame = (none, after) ∧
      after.point = (turn.handle, turn.out ++ [frame]) ∧
      (turn.Accepting → after.Accepting)) := by
  rcases turn with ⟨handle, out, replies⟩
  rcases replies with _ | ⟨_ | error, replies⟩
  · exact .inr ⟨_, rfl, rfl, id⟩
  · exact .inr ⟨_, rfl, rfl, fun all reply member => all reply (mem_cons_of_mem _ member)⟩
  · refine .inl ⟨error, _, rfl, rfl, fun all => ?_⟩
    exact Option.some_ne_none _ (all (some error) mem_cons_self)

/-- The frame is sent unless the session refuses it; the handle stays. -/
theorem sendStreamFrame_point : ∃ (sent : Bool) (error : Option Error) (after : Turn),
      turn.sendStreamFrame frame = (error, after) ∧ after.handle = turn.handle ∧
      after.out = turn.out ++ (if sent then [frame] else []) ∧
      (sent = false → ¬ turn.Accepting) ∧ (turn.Accepting → after.Accepting) := by
  rcases sendStreamFrame_cases frame with
    ⟨error, after, sent, same, refused⟩ | ⟨after, sent, same, keeps⟩
  · obtain ⟨sameHandle, sameOut⟩ := Prod.mk.inj same
    exact ⟨false, error, after, sent, sameHandle, sameOut.trans (append_nil _).symm,
      fun _ => refused, fun accepting => absurd accepting refused⟩
  · obtain ⟨sameHandle, sameOut⟩ := Prod.mk.inj same
    exact ⟨true, none, after, sent, sameHandle, sameOut, nofun, keeps⟩

theorem sendStreamFrame_handle : (turn.sendStreamFrame frame).2.handle = turn.handle := by
  obtain ⟨_, _, after, result, same, -⟩ := sendStreamFrame_point frame
  rw [result]
  exact same

/-! ### Actions -/

/-- What the actions of a run may meet. -/
structure Watch where
  /-- The session may refuse a frame. -/
  refusals : Prop := True
  /-- The session may refuse a FIN. -/
  finRefusals : Prop := True
  /-- Data may exceed the window, or credit its counter. -/
  violations : Prop := True
  /-- A read may be queued. -/
  reads : Prop := True
  /-- An OPEN may be dropped without an answer. -/
  openDrops : Prop := True
  /-- A session loss may end the stream without a frame. -/
  losses : Prop := True
  /-- The window may be reported in this state. -/
  update : ReceiveSide → Prop := fun _ => True
  /-- A direction may end with these operations pending. -/
  finish : StreamState → List PendingRead → List PendingWrite → Prop := fun _ _ _ => True

variable (handle : Handle)

/-- The stream still sends and receives. -/
def Handle.Alive : Prop := handle.state ≠ .reset ∧ handle.state ≠ .closed

/-- A result reported without queueing anything. -/
def Immediate (state : StreamState) : Completion → Prop
  | .read bytes error => bytes = [] ∧ error ≠ none ∧ (error = some streamResetError → state = .reset)
  | .write _ bytes error => bytes = 0 ∧ error ≠ some streamResetError
  | .connected _ => False

/-- All bytes up to the peer's FIN have been read. -/
def ReceiveSide.AtEnd (recv : ReceiveSide) : Prop :=
  recv.finReceived = true ∧ recv.nextReceiveOffset = recv.finalOffset ∧ recv.chunks = []

def Handle.localTerminal : StreamState :=
  if handle.recv.finReceived then .closed else .halfClosedLocal

def Handle.remoteTerminal : StreamState :=
  if handle.send.finSent then .closed else .halfClosedRemote

inductive Action (limits : ByteStreamLimits) (watch : Watch) :
    Handle × List StreamFrame → Handle × List StreamFrame → Prop
  | sendData {handle : Handle} {out : List StreamFrame} {write : PendingWrite}
      {writes : List PendingWrite} (alive : handle.Alive)
      (front : handle.send.writes = write :: writes) (more : write.offset < write.data.length)
      (bytes : handle.send.creditBytes ≠ 0) (frames : handle.send.creditFrames ≠ 0) :
      Action limits watch (handle, out)
        (chargeChunk (chunkSize limits handle.send write) write writes handle,
          out ++ [frontFrame limits handle.send write])
  | sendFailed {turn : Turn} {write : PendingWrite} {writes : List PendingWrite} {error : Error}
      (alive : turn.handle.Alive) (front : turn.handle.send.writes = write :: writes)
      (refused : watch.refusals) :
      Action limits watch turn.point (handleResetFrameFor .unavailable { turn with
        handle := completeFront write writes write.offset (some error) turn.handle }).point
  | writeDone {handle : Handle} {out : List StreamFrame} {write : PendingWrite}
      {writes : List PendingWrite} (alive : handle.Alive)
      (front : handle.send.writes = write :: writes) (all : write.data.length ≤ write.offset)
      (notLast : write.finAfter = false) :
      Action limits watch (handle, out)
        (completeFront write writes write.data.length none handle, out)
  | lastWriteDone {handle : Handle} {out : List StreamFrame} {write : PendingWrite}
      {writes : List PendingWrite} {sent : Bool} (alive : handle.Alive)
      (front : handle.send.writes = write :: writes) (all : write.data.length ≤ write.offset)
      (last : write.finAfter = true) (idle : handle.recv.reads = [] ∨ handle.recv.chunks = [])
      (refused : sent = false → watch.finRefusals)
      (ending : watch.finish handle.localTerminal handle.recv.reads writes) :
      Action limits watch (handle, out)
        (finishLocal (completeFront write writes write.data.length none handle),
          out ++ if sent then [.streamFin handle.send.nextSendOffset] else [])
  | sendFin {handle : Handle} {out : List StreamFrame} (alive : handle.Alive)
      (fresh : handle.send.finSent = false) (none : handle.send.writes = [])
      (idle : handle.recv.reads = [] ∨ handle.recv.chunks = [])
      (ending : watch.finish handle.localTerminal handle.recv.reads []) :
      Action limits watch (handle, out)
        (finishLocal { handle with send := { handle.send with finSent := true } },
          out ++ [.streamFin handle.send.nextSendOffset])
  | finRefused {handle : Handle} {out : List StreamFrame} (alive : handle.Alive)
      (fresh : handle.send.finSent = false) (none : handle.send.writes = [])
      (refused : watch.finRefusals) :
      Action limits watch (handle, out)
        ({ handle with send := { handle.send with finSent := true } }, out)
  | requestFin {handle : Handle} {out : List StreamFrame} (alive : handle.Alive)
      (fresh : handle.send.finSent = false) (some : handle.send.writes ≠ []) :
      Action limits watch (handle, out)
        ({ handle with send := { handle.send with
            writes := markFinAfter handle.send.writes
            finSent := true } }, out)
  | pushWrite {handle : Handle} {out : List StreamFrame} {data : List UInt8}
      {deadline : Option Nat} (alive : handle.Alive) (fresh : handle.send.finSent = false)
      (open_ : handle.state ≠ .halfClosedLocal) (some : data ≠ []) :
      Action limits watch (handle, out) (Heyaki.pushWrite data deadline handle, out)
  | pushRead {handle : Handle} {out : List StreamFrame} {read : PendingRead}
      (some : read.size ≠ 0) (running : handle.state ≠ .reset) (allowed : watch.reads) :
      Action limits watch (handle, out) (Heyaki.pushRead read handle, out)
  | readFront {handle : Handle} {out : List StreamFrame} {read : PendingRead}
      {reads : List PendingRead} {chunk : List UInt8} {chunks : List (List UInt8)}
      (waiting : handle.recv.reads = read :: reads) (buffered : handle.recv.chunks = chunk :: chunks) :
      Action limits watch (handle, out) (Heyaki.readFront read reads chunk chunks handle, out)
  | update {turn : Turn} (calm : watch.refusals ∨ turn.Accepting)
      (safe : watch.update turn.handle.recv) :
      Action limits watch turn.point (maybeSendWindowUpdate turn).point
  | readEnd {handle : Handle} {out : List StreamFrame} {read : PendingRead}
      {reads : List PendingRead} (waiting : handle.recv.reads = read :: reads)
      (ended : handle.recv.AtEnd)
      (ending : handle.send.finSent = true → watch.finish .closed reads handle.send.writes) :
      Action limits watch (handle, out) (Heyaki.readEnd reads handle, out)
  | finishRemote {handle : Handle} {out : List StreamFrame} (ended : handle.recv.AtEnd)
      (live : handle.Alive ∨ handle.send.finSent = true)
      (ending : watch.finish handle.remoteTerminal handle.recv.reads handle.send.writes) :
      Action limits watch (handle, out) (Heyaki.finishRemote handle, out)
  | reset {turn : Turn} {reason : StableStatus} (calm : watch.refusals ∨ turn.Accepting) :
      Action limits watch turn.point (handleResetFrameFor reason turn).point
  | report {turn : Turn} {completion : Completion}
      (immediate : Immediate turn.handle.state completion) :
      Action limits watch turn.point (turn.complete completion).point
  | expire {handle : Handle} {out : List StreamFrame} {now : Nat} :
      Action limits watch (handle, out) (expirePending now handle, out)
  | fail {handle : Handle} {out : List StreamFrame} {error : Error} (allowed : watch.losses) :
      Action limits watch (handle, out) (failStream error handle, out)

/-- A sequence of actions. -/
abbrev Actions (limits : ByteStreamLimits) (watch : Watch) :=
  Relation.ReflTransGen (Action limits watch)

variable {limits : ByteStreamLimits} {watch : Watch}

/-! ### Window updates -/

theorem maybeSendWindowUpdate_cases :
    ((maybeSendWindowUpdate turn).point = (noteConsumed turn.handle, turn.out) ∧
      (turn.Accepting → turn.handle.recv.updateDue = false ∧
        (maybeSendWindowUpdate turn).Accepting)) ∨
    (turn.handle.recv.updateDue = true ∧
      (maybeSendWindowUpdate turn).point =
        (reportWindow (noteConsumed turn.handle), turn.out ++ [turn.handle.recv.updateFrame]) ∧
      (turn.Accepting → (maybeSendWindowUpdate turn).Accepting)) := by
  cases due : turn.handle.recv.updateDue with
  | false =>
    have noted : maybeSendWindowUpdate turn = { turn with handle := noteConsumed turn.handle } :=
      if_neg (Bool.eq_false_iff.mp due)
    rw [noted]
    exact .inl ⟨rfl, fun accepting => ⟨rfl, accepting⟩⟩
  | true =>
    unfold maybeSendWindowUpdate
    dsimp only
    rw [if_pos due]
    rcases sendStreamFrame_cases turn.handle.recv.updateFrame
      with ⟨error, after, sent, same, refused⟩ | ⟨after, sent, same, keeps⟩
    · rw [sent]
      exact .inl ⟨same, fun accepting => absurd accepting refused⟩
    · rw [sent]
      obtain ⟨sameHandle, sameOut⟩ := Prod.mk.inj same
      refine .inr ⟨rfl, ?_, keeps⟩
      exact Prod.ext (congrArg reportWindow sameHandle) sameOut

/-- A window update leaves what neither of its two changes touches. -/
theorem maybeSendWindowUpdate_keeps {α : Type} (part : Handle → α)
    (notes : part (noteConsumed turn.handle) = part turn.handle)
    (reports : part (reportWindow (noteConsumed turn.handle)) = part turn.handle) :
    part (maybeSendWindowUpdate turn).handle = part turn.handle := by
  rcases maybeSendWindowUpdate_cases with ⟨same, -⟩ | ⟨-, same, -⟩
  · exact (congrArg (fun point => part point.1) same).trans notes
  · exact (congrArg (fun point => part point.1) same).trans reports

theorem maybeSendWindowUpdate_accepting (accepting : turn.Accepting) :
    (maybeSendWindowUpdate turn).Accepting := by
  rcases maybeSendWindowUpdate_cases with ⟨-, keeps⟩ | ⟨-, -, keeps⟩
  · exact (keeps accepting).2
  · exact keeps accepting

/-! ### The dispatch loop -/

section

variable (read : PendingRead) (reads : List PendingRead) (chunk : List UInt8) (chunks : List (List UInt8))

include read reads chunk chunks

@[simp] theorem readFront_send (handle : Handle) :
    (readFront read reads chunk chunks handle).send = handle.send := by
  unfold readFront
  dsimp only
  split <;> rfl

@[simp] theorem readFront_finReceived (handle : Handle) :
    (readFront read reads chunk chunks handle).recv.finReceived = handle.recv.finReceived := by
  unfold readFront
  dsimp only
  split <;> rfl

end

/-- The peer's FIN may end its direction now, with the reads that are left and
the queued writes, or none if they have been failed already. -/
def Handle.RemoteEnds (watch : Watch) : Prop :=
  handle.recv.finReceived = true → ∀ reads,
    watch.finish handle.remoteTerminal reads handle.send.writes ∧
      watch.finish handle.remoteTerminal reads []

theorem Handle.RemoteEnds.of_same {handle other : Handle} (ends : handle.RemoteEnds watch)
    (sameFin : other.recv.finReceived = handle.recv.finReceived)
    (sameSend : other.send = handle.send) : other.RemoteEnds watch := by
  unfold Handle.RemoteEnds Handle.remoteTerminal at ends ⊢
  rw [sameFin, sameSend]
  exact ends

/-- Every report of the window that the dispatch loop makes is a safe one. -/
def DispatchSafe (safe : ReceiveSide → Prop) : Nat → Turn → Prop
  | 0, _ => True
  | rounds + 1, turn =>
    match turn.handle.recv.reads, turn.handle.recv.chunks with
    | read :: reads, chunk :: chunks =>
      safe (readFront read reads chunk chunks turn.handle).recv ∧
        DispatchSafe safe rounds (maybeSendWindowUpdate
          { turn with handle := readFront read reads chunk chunks turn.handle })
    | _, _ => True

variable (rounds : Nat)

theorem dispatchRounds_of_no_reads (none : turn.handle.recv.reads = []) :
    dispatchRounds rounds turn = turn := by
  cases rounds with
  | zero => rfl
  | succ rounds =>
    unfold dispatchRounds
    rw [none]

theorem dispatchRounds_actions (calm : watch.refusals ∨ turn.Accepting)
    (safe : DispatchSafe watch.update rounds turn) (ending : turn.handle.RemoteEnds watch) :
    Actions limits watch turn.point (dispatchRounds rounds turn).point := by
  induction rounds generalizing turn with
  | zero => exact .refl
  | succ rounds ih =>
    unfold dispatchRounds
    unfold DispatchSafe at safe
    split
    · exact .refl
    · rename_i read reads waiting empty
      split
      · rename_i ended
        have end_ : Action limits watch turn.point
            ({ turn with handle := readEnd reads turn.handle } : Turn).point :=
          .readEnd waiting ⟨ended.1, ended.2, empty⟩ fun sent => by
            have closed := (ending ended.1 reads).1
            rwa [Handle.remoteTerminal, if_pos sent] at closed
        refine .head end_ ?_
        by_cases sent : turn.handle.send.finSent = true
        · -- the stream is closed, and with it every read
          rw [dispatchRounds_of_no_reads]
          unfold readEnd
          rw [if_pos ⟨sent, empty⟩]
          simp only [finishStream]
        · have same : readEnd reads turn.handle = { turn.handle with
              recv := { turn.handle.recv with reads := reads }
              log := turn.handle.log ++ [.read [] none] } :=
            if_neg fun both => sent both.1
          refine ih calm ?_ ?_
          · cases rounds with
            | zero => trivial
            | succ rounds =>
              unfold DispatchSafe
              rw [same]
              simp only [empty]
          · rw [same]
            exact ending
      · exact .refl
    · rename_i read reads chunk chunks waiting buffered
      rw [waiting, buffered] at safe
      have read_ : Action limits watch turn.point
          ({ turn with handle := readFront read reads chunk chunks turn.handle } : Turn).point :=
        .readFront waiting buffered
      refine .head read_ (.head (.update calm safe.1) (ih ?_ safe.2 ?_))
      · rcases calm with calm | accepting
        · exact .inl calm
        · exact .inr (maybeSendWindowUpdate_accepting accepting)
      · exact ending.of_same
          (by rw [maybeSendWindowUpdate_keeps (·.recv.finReceived) rfl rfl]; simp)
          (by rw [maybeSendWindowUpdate_keeps (·.send) rfl rfl]; simp)

theorem tryDispatchReads_actions (turn : Turn) (calm : watch.refusals ∨ turn.Accepting)
    (safe : DispatchSafe watch.update turn.handle.recv.reads.length turn)
    (ending : turn.handle.RemoteEnds watch) :
    Actions limits watch turn.point (tryDispatchReads turn).point :=
  dispatchRounds_actions _ calm safe ending

/-! ### The write loop -/

/-- Every FIN that follows a queued write ends the direction in a permitted way. -/
def EndsSafely (finish : List PendingWrite → Prop) : List PendingWrite → Prop
  | [] => True
  | write :: writes => (write.finAfter = true → finish writes) ∧ EndsSafely finish writes

/-- No queued write is the one FIN follows. -/
def NoFinAfter (writes : List PendingWrite) : Prop := ∀ write ∈ writes, write.finAfter = false

theorem endsSafely_of_noFinAfter {finish : List PendingWrite → Prop} {writes : List PendingWrite}
    (none : NoFinAfter writes) : EndsSafely finish writes := by
  induction writes with
  | nil => trivial
  | cons write writes ih =>
    refine ⟨fun last => ?_, ih fun write member => none write (mem_cons_of_mem _ member)⟩
    rw [none write mem_cons_self] at last
    cases last

/-- Either no read waits or no data does. -/
def Idle (handle : Handle) : Prop := handle.recv.reads = [] ∨ handle.recv.chunks = []

theorem pumpRounds_actions (alive : turn.handle.Alive) (idle : Idle turn.handle)
    (calm : watch.refusals ∨ turn.Accepting)
    (finCalm : watch.finRefusals ∨ turn.Accepting ∨ NoFinAfter turn.handle.send.writes)
    (ending : EndsSafely (watch.finish turn.handle.localTerminal turn.handle.recv.reads)
      turn.handle.send.writes) :
    Actions limits watch turn.point (pumpRounds limits rounds turn).point := by
  induction rounds generalizing turn with
  | zero => exact .refl
  | succ rounds ih =>
    unfold pumpRounds
    split
    · exact .refl
    rename_i write writes front
    rw [front] at ending
    split
    · rename_i more
      split
      · exact .refl
      rename_i credit
      rw [not_or] at credit
      rcases sendStreamFrame_cases (frontFrame limits turn.handle.send write)
        with ⟨error, after, sent, same, refused⟩ | ⟨after, sent, same, keeps⟩
      · have refusals : watch.refusals := calm.resolve_right refused
        rw [sent]
        dsimp only
        split
        · rw [same]
        · rw [← same]
          obtain ⟨sameHandle, -⟩ := Prod.mk.inj same
          exact .single (.sendFailed (sameHandle ▸ alive) (sameHandle ▸ front) refusals)
      · rw [sent]
        dsimp only
        obtain ⟨sameHandle, sameOut⟩ := Prod.mk.inj same
        have step : Action limits watch turn.point
            (chargeChunk (chunkSize limits turn.handle.send write) write writes turn.handle,
              after.out) := by
          rw [sameOut]
          exact .sendData alive front more credit.1 credit.2
        rw [sameHandle]
        refine .head step (@ih ⟨_, after.out, after.replies⟩ alive idle ?_ ?_ ending)
        · exact calm.imp_right keeps
        · rcases finCalm with refusals | accepting | noFin
          · exact .inl refusals
          · exact .inr (.inl (keeps accepting))
          · refine .inr (.inr fun other member => ?_)
            rcases mem_cons.mp member with rfl | member
            · exact noFin write (front ▸ mem_cons_self)
            · exact noFin other (front ▸ mem_cons_of_mem _ member)
    · rename_i all
      dsimp only
      split
      · rename_i last
        obtain ⟨sent, _, after, result, sameHandle, sameOut, refused, -⟩ := sendStreamFrame_point
          (.streamFin
            (completeFront write writes write.data.length none turn.handle).send.nextSendOffset)
        rw [result]
        have refusals : sent = false → watch.finRefusals := by
          intro no
          rcases finCalm with refusals | accepting | noFin
          · exact refusals
          · exact absurd accepting (refused no)
          · rw [noFin write (front ▸ mem_cons_self)] at last
            cases last
        show Actions limits watch turn.point (finishLocal after.handle, after.out)
        rw [sameHandle, sameOut]
        exact .single (.lastWriteDone alive front (Nat.not_lt.mp all) last idle refusals
          (ending.1 last))
      · rename_i notLast
        have step : Action limits watch turn.point ({ turn with
            handle := completeFront write writes write.data.length none turn.handle } : Turn).point :=
          .writeDone alive front (Nat.not_lt.mp all) (Bool.eq_false_iff.mpr notLast)
        refine .head step (ih alive idle calm ?_ ending.2)
        rcases finCalm with refusals | accepting | noFin
        · exact .inl refusals
        · exact .inr (.inl accepting)
        · exact .inr (.inr fun other member => noFin other (front ▸ mem_cons_of_mem _ member))

end Heyaki
