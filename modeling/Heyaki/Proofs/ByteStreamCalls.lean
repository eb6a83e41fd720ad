/-
Purpose: the caller's operations, the deadline sweep and the frame handlers as
sequences of actions.  A frame handler first takes the frame into the handle and
then acts; what it takes is stated as an outcome of its own.
-/
import Heyaki.Proofs.ByteStreamActions

namespace Heyaki

variable {chunks : List (List UInt8)} {chunk : List UInt8} {limits : ByteStreamLimits}
  {watch : Watch}

/-! ### What the dispatch loop leaves alone -/

variable (read : PendingRead) (reads : List PendingRead)

/-- A handle as the dispatch loop may leave it: the state and the queued writes
are untouched, or the stream is closed and the writes have failed. -/
structure SameEnds (handle after : Handle) : Prop where
  finReceived : after.recv.finReceived = handle.recv.finReceived
  nextReceiveOffset : after.recv.nextReceiveOffset = handle.recv.nextReceiveOffset
  finalOffset : after.recv.finalOffset = handle.recv.finalOffset
  finSent : after.send.finSent = handle.send.finSent
  writes : after.send.writes = handle.send.writes ∨ after.send.writes = []
  state : after.state = handle.state ∨ handle.send.finSent = true

variable (handle : Handle)

theorem SameEnds.refl : SameEnds handle handle := ⟨rfl, rfl, rfl, rfl, .inl rfl, .inl rfl⟩

theorem SameEnds.trans {first second third : Handle} (one : SameEnds first second)
    (two : SameEnds second third) : SameEnds first third where
  finReceived := two.finReceived.trans one.finReceived
  nextReceiveOffset := two.nextReceiveOffset.trans one.nextReceiveOffset
  finalOffset := two.finalOffset.trans one.finalOffset
  finSent := two.finSent.trans one.finSent
  writes := by
    rcases two.writes with same | none
    · rw [same]
      exact one.writes
    · exact .inr none
  state := by
    rcases two.state with same | sent
    · rw [same]
      exact one.state
    · exact .inr (one.finSent ▸ sent)

variable (turn : Turn) {writes : List PendingWrite}

theorem sameEnds_maybeSendWindowUpdate :
    SameEnds turn.handle (maybeSendWindowUpdate turn).handle := by
  rcases maybeSendWindowUpdate_cases with ⟨same, -⟩ | ⟨-, same, -⟩
  · have handle : (maybeSendWindowUpdate turn).handle = noteConsumed turn.handle :=
      congrArg Prod.fst same
    rw [handle]
    exact ⟨rfl, rfl, rfl, rfl, .inl rfl, .inl rfl⟩
  · have handle : (maybeSendWindowUpdate turn).handle = reportWindow (noteConsumed turn.handle) :=
      congrArg Prod.fst same
    rw [handle]
    exact ⟨rfl, rfl, rfl, rfl, .inl rfl, .inl rfl⟩

theorem sameEnds_readFront (handle : Handle) :
    SameEnds handle (readFront read reads chunk chunks handle) := by
  unfold readFront
  dsimp only
  split
  · exact ⟨rfl, rfl, rfl, rfl, .inl rfl, .inl rfl⟩
  · exact ⟨rfl, rfl, rfl, rfl, .inl rfl, .inl rfl⟩

theorem failConnected_recv (error : Error) : (handle.failConnected error).recv = handle.recv := by
  unfold Handle.failConnected
  split <;> rfl

theorem failConnected_send (error : Error) : (handle.failConnected error).send = handle.send := by
  unfold Handle.failConnected
  split <;> rfl

variable (terminal : StreamState)

theorem finishStream_recv (handle : Handle) :
    (finishStream terminal handle).recv = { handle.recv with reads := [] } := by
  unfold finishStream
  dsimp only
  rw [failConnected_recv]

theorem finishStream_send (handle : Handle) :
    (finishStream terminal handle).send = { handle.send with writes := [] } := by
  unfold finishStream
  dsimp only
  rw [failConnected_send]

variable (reason : StableStatus)

@[simp] theorem handleResetFrameFor_handle (turn : Turn) :
    (handleResetFrameFor reason turn).handle = finishStream .reset turn.handle := by
  unfold handleResetFrameFor
  split
  · exact congrArg (finishStream .reset) (sendStreamFrame_handle _)
  · rfl

theorem sameEnds_readEnd (handle : Handle) : SameEnds handle (readEnd reads handle) := by
  unfold readEnd
  dsimp only
  split
  · rename_i both
    refine ⟨?_, ?_, ?_, ?_, .inr ?_, .inr both.1⟩
    · rw [finishStream_recv]
    · rw [finishStream_recv]
    · rw [finishStream_recv]
    · rw [finishStream_send]
    · rw [finishStream_send]
  · exact ⟨rfl, rfl, rfl, rfl, .inl rfl, .inl rfl⟩

theorem sameEnds_dispatchRounds (rounds : Nat) (turn : Turn) :
    SameEnds turn.handle (dispatchRounds rounds turn).handle := by
  induction rounds generalizing turn with
  | zero => exact .refl _
  | succ rounds ih =>
    unfold dispatchRounds
    split
    · exact .refl _
    · rename_i read reads _ _
      split
      · exact (sameEnds_readEnd reads turn.handle).trans
          (ih { turn with handle := readEnd reads turn.handle })
      · exact .refl _
    · rename_i read reads chunk chunks _ _
      have update := sameEnds_maybeSendWindowUpdate
        { turn with handle := readFront read reads chunk chunks turn.handle }
      exact ((sameEnds_readFront read reads turn.handle).trans update).trans (ih _)

theorem SameEnds.live {handle after : Handle} (same : SameEnds handle after)
    (alive : handle.Alive) : after.Alive ∨ after.send.finSent = true := by
  rcases same.state with state | sent
  · left
    unfold Handle.Alive
    rw [state]
    exact alive
  · right
    rw [same.finSent]
    exact sent

theorem Handle.RemoteEnds.after {handle after : Handle} (ends : handle.RemoteEnds watch)
    (same : SameEnds handle after) (received : handle.recv.finReceived = true) :
    watch.finish after.remoteTerminal after.recv.reads after.send.writes := by
  have both := ends received after.recv.reads
  unfold Handle.remoteTerminal at both ⊢
  rw [same.finSent]
  rcases same.writes with kept | none
  · rw [kept]
    exact both.1
  · rw [none]
    exact both.2

/-! ### The caller's operations -/

theorem pumpWrites_actions (idle : Idle turn.handle) (calm : watch.refusals ∨ turn.Accepting)
    (finCalm : watch.finRefusals ∨ turn.Accepting ∨ NoFinAfter turn.handle.send.writes)
    (ending : EndsSafely (watch.finish turn.handle.localTerminal turn.handle.recv.reads)
      turn.handle.send.writes) :
    Actions limits watch turn.point (pumpWrites limits turn).point := by
  unfold pumpWrites
  split
  · exact .refl
  · rename_i alive
    exact pumpRounds_actions _ (not_or.mp alive) idle calm finCalm ending

theorem asyncReadSome_actions (size : Nat) (deadline : Option Nat) (turn : Turn)
    (allowed : watch.reads) (calm : watch.refusals ∨ turn.Accepting)
    (safe : size ≠ 0 → turn.handle.state ≠ .reset → DispatchSafe watch.update (turn.handle.recv.reads.length + 1)
      { turn with handle := pushRead { size := size, deadline := deadline } turn.handle })
    (ending : turn.handle.RemoteEnds watch) :
    Actions limits watch turn.point (asyncReadSome size deadline turn).point := by
  unfold asyncReadSome
  split
  · exact .single (.report ⟨rfl, Option.some_ne_none _, fun same => absurd same (by decide)⟩)
  rename_i some
  split
  · rename_i reset
    exact .single (.report ⟨rfl, Option.some_ne_none _, fun _ => reset⟩)
  rename_i running
  split
  · exact .single (.report ⟨rfl, Option.some_ne_none _, fun same => absurd same (by decide)⟩)
  have push : Action limits watch turn.point
      (pushRead { size := size, deadline := deadline } turn.handle, turn.out) :=
    .pushRead some running allowed
  have rounds : (pushRead { size := size, deadline := deadline } turn.handle).recv.reads.length =
      turn.handle.recv.reads.length + 1 := List.length_append
  refine .head push (tryDispatchReads_actions { turn with handle := pushRead _ turn.handle } calm
    ?_ (ending.of_same rfl rfl))
  rw [rounds]
  exact safe some running

/-! A round per waiting read leaves either no read or no data. -/

theorem readFront_reads (handle : Handle) :
    (readFront read reads chunk chunks handle).recv.reads = reads := by
  unfold readFront
  dsimp only
  split <;> rfl

theorem readEnd_reads (handle : Handle) :
    (readEnd reads handle).recv.reads = reads ∨ (readEnd reads handle).recv.reads = [] := by
  unfold readEnd
  dsimp only
  split
  · right
    rw [finishStream_recv]
  · exact .inl rfl

theorem dispatchRounds_idle (rounds : Nat) {turn : Turn}
    (enough : turn.handle.recv.reads.length ≤ rounds) :
    (dispatchRounds rounds turn).handle.recv.reads = [] ∨
      (dispatchRounds rounds turn).handle.recv.chunks = [] := by
  induction rounds generalizing turn with
  | zero => exact .inl (List.length_eq_zero_iff.mp (Nat.le_zero.mp enough))
  | succ rounds ih =>
    unfold dispatchRounds
    split
    · rename_i none
      exact .inl none
    · rename_i read reads waiting empty
      split
      · refine ih ?_
        rw [waiting] at enough
        rcases readEnd_reads reads turn.handle with same | none
        · rw [same]
          exact Nat.le_of_succ_le_succ enough
        · rw [none]
          exact Nat.zero_le _
      · exact .inr empty
    · rename_i read reads chunk chunks waiting buffered
      refine ih ?_
      rw [waiting] at enough
      rw [maybeSendWindowUpdate_keeps (·.recv.reads) rfl rfl, readFront_reads]
      exact Nat.le_of_succ_le_succ enough

theorem noFinAfter_append {write : PendingWrite}
    (none : NoFinAfter writes) (notLast : write.finAfter = false) :
    NoFinAfter (writes ++ [write]) := by
  intro other member
  rcases List.mem_append.mp member with member | member
  · exact none other member
  · rw [List.mem_singleton.mp member]
    exact notLast

theorem asyncWrite_actions (data : List UInt8) (deadline : Option Nat) (turn : Turn)
    (idle : Idle turn.handle)
    (noFin : turn.handle.send.finSent = false → NoFinAfter turn.handle.send.writes)
    (calm : watch.refusals ∨ turn.Accepting) :
    Actions limits watch turn.point (asyncWrite limits data deadline turn).point := by
  unfold asyncWrite
  split
  · exact .single (.report ⟨rfl, by decide⟩)
  rename_i alive
  split
  · exact .single (.report ⟨rfl, by decide⟩)
  rename_i writable
  obtain ⟨fresh, notHalf⟩ := not_or.mp writable
  split
  · exact .single (.report ⟨rfl, by decide⟩)
  rename_i some
  split
  · exact .single (.report ⟨rfl, by decide⟩)
  split
  · exact .single (.report ⟨rfl, by decide⟩)
  have push : Action limits watch turn.point (pushWrite data deadline turn.handle, turn.out) :=
    .pushWrite (not_or.mp alive) (Bool.eq_false_iff.mpr fresh) notHalf some
  have none : NoFinAfter (pushWrite data deadline turn.handle).send.writes :=
    noFinAfter_append (noFin (Bool.eq_false_iff.mpr fresh)) rfl
  exact .head push (pumpWrites_actions { turn with handle := pushWrite data deadline turn.handle }
    idle calm (.inr (.inr none)) (endsSafely_of_noFinAfter none))

theorem shutdownWrite_actions (idle : Idle turn.handle)
    (finCalm : watch.finRefusals ∨ turn.Accepting)
    (ending : watch.finish turn.handle.localTerminal turn.handle.recv.reads []) :
    Actions limits watch turn.point (shutdownWrite turn).2.point := by
  unfold shutdownWrite
  split
  · exact .refl
  rename_i live
  obtain ⟨fresh, alive⟩ := not_or.mp live
  have fresh : turn.handle.send.finSent = false := Bool.eq_false_iff.mpr fresh
  split
  · rename_i some
    exact .single (.requestFin (not_or.mp alive) fresh some)
  rename_i none
  have none : turn.handle.send.writes = [] := Classical.not_not.mp none
  dsimp only
  rcases sendStreamFrame_cases (.streamFin turn.handle.send.nextSendOffset)
    with ⟨error, after, sent, same, refused⟩ | ⟨after, sent, same, -⟩
  · rw [sent]
    rw [same]
    exact .single (.finRefused (not_or.mp alive) fresh none (finCalm.resolve_right refused))
  · rw [sent]
    obtain ⟨sameHandle, sameOut⟩ := Prod.mk.inj same
    show Actions limits watch turn.point (finishLocal after.handle, after.out)
    rw [sameHandle, sameOut]
    exact .single (.sendFin (not_or.mp alive) fresh none idle ending)

theorem resetStream_actions (turn : Turn) (calm : watch.refusals ∨ turn.Accepting) :
    Actions limits watch turn.point (resetStream reason turn).point := by
  unfold resetStream
  split
  · exact .refl
  · exact .single (.reset calm)

theorem checkDeadlines_actions (now : Nat) (turn : Turn)
    (calm : watch.refusals ∨ turn.Accepting) :
    Actions limits watch turn.point (checkDeadlines now turn).point := by
  have expire : Action limits watch turn.point (expirePending now turn.handle, turn.out) := .expire
  unfold checkDeadlines
  dsimp only
  split
  · have reset : Action limits watch (expirePending now turn.handle, turn.out)
        (handleResetFrameFor .deadlineExceeded
          { turn with handle := expirePending now turn.handle }).point :=
      @Action.reset _ _ { turn with handle := expirePending now turn.handle } _ calm
    exact .head expire (.single reset)
  · exact .single expire

/-! ### Frames -/

/-- The bytes of a data frame that are for the caller; the others belong to the
gateway prelude. -/
def deliverable (bytes : List UInt8) : List UInt8 :=
  if handle.gateway.initiator && handle.gateway.preludePending then
    bytes.drop (takePrelude bytes handle).1
  else bytes

/-- A data frame taken into the handle, before its deliverable bytes are buffered. -/
structure TakesData (offset length : Nat) (bytes : List UInt8) (handle after : Handle) : Prop where
  alive : handle.Alive
  exact_ : offset = handle.recv.nextReceiveOffset
  size : length = bytes.length
  fits : bytes.length ≤ handle.recv.remainingBytes
  frames : handle.recv.remainingFrames ≠ 0
  recv : after.recv = (chargeData bytes handle).recv
  send : after.send = handle.send
  wrapped : after.wrapped = (chargeData bytes handle).wrapped
  violated : after.violated = handle.violated
  registered : after.registered = handle.registered
  state : after.state = handle.state ∨ handle.state = .opening ∧ after.state = .open
  log : after.log = handle.log ∨ after.log = handle.log ++ [.connected none]
  initiator : after.gateway.initiator = handle.gateway.initiator
  split_ : ∃ taken, taken ++ deliverable handle bytes = bytes ∧
    after.gateway.prelude = handle.gateway.prelude ++ taken ∧
    taken.length ≤ gatewayPreludeBytes - handle.gateway.prelude.length ∧
    (handle.gateway.initiator = false → taken = [])

theorem TakesData.after_alive {offset length : Nat} {bytes : List UInt8}
    {handle after : Handle} (taken : TakesData offset length bytes handle after) :
    after.Alive := by
  unfold Handle.Alive
  rcases taken.state with same | ⟨-, isOpen⟩
  · rw [same]
    exact taken.alive
  · rw [isOpen]
    decide

inductive DataOutcome (offset length : Nat) (bytes : List UInt8) (turn : Turn) : Turn → Prop
  | ignored (late : ¬ turn.handle.Alive ∨ offset < turn.handle.recv.nextReceiveOffset) :
      DataOutcome offset length bytes turn turn
  | malformed (alive : turn.handle.Alive)
      (wrong : length ≠ bytes.length ∨ turn.handle.recv.nextReceiveOffset < offset) :
      DataOutcome offset length bytes turn (handleResetFrameFor .protocolError turn)
  | violation (alive : turn.handle.Alive) (exact_ : offset = turn.handle.recv.nextReceiveOffset)
      (exceeds : turn.handle.recv.remainingBytes < bytes.length ∨
        turn.handle.recv.remainingFrames = 0) :
      DataOutcome offset length bytes turn (handleResetFrameFor .resourceExhausted
        { turn with handle := { turn.handle with violated := true } })
  | refusedPrelude {after : Handle} (taken : TakesData offset length bytes turn.handle after) :
      DataOutcome offset length bytes turn
        (handleResetFrameFor .protocolError { turn with handle := after })
  | delivered {after : Handle} (taken : TakesData offset length bytes turn.handle after) :
      DataOutcome offset length bytes turn
        (deliverData (deliverable turn.handle bytes) { turn with handle := after })

/-- The state, the log and the confirmed prelude are all that may change. -/
theorem connectGateway_spec : ∃ state log gateway,
    connectGateway handle = { handle with state, log, gateway } ∧
    gateway.initiator = handle.gateway.initiator ∧ gateway.prelude = handle.gateway.prelude ∧
    (state = handle.state ∨ handle.state = .opening ∧ state = .open) ∧
    (log = handle.log ∨ log = handle.log ++ [.connected none]) := by
  have state : (if handle.state = .opening then StreamState.open else handle.state) =
        handle.state ∨ handle.state = .opening ∧
          (if handle.state = .opening then StreamState.open else handle.state) = .open := by
    by_cases opening : handle.state = .opening
    · exact .inr ⟨opening, if_pos opening⟩
    · exact .inl (if_neg opening)
  unfold connectGateway
  dsimp only
  split
  · exact ⟨_, _, _, rfl, rfl, rfl, state, .inr rfl⟩
  · exact ⟨_, _, _, rfl, rfl, rfl, state, .inl rfl⟩

theorem handleData_outcome (offset length : Nat) (bytes : List UInt8) (turn : Turn) :
    DataOutcome offset length bytes turn (handleData offset length bytes turn) := by
  unfold handleData
  dsimp only
  split
  · rename_i late
    exact .ignored (.inl fun alive => late.elim alive.1 alive.2)
  rename_i alive
  have alive : turn.handle.Alive := not_or.mp alive
  split
  · rename_i wrong
    exact .malformed alive (.inl wrong)
  rename_i size
  have size : length = bytes.length := Classical.not_not.mp size
  split
  · rename_i late
    exact .ignored (.inr late)
  rename_i notLate
  split
  · rename_i early
    exact .malformed alive (.inr early)
  rename_i notEarly
  have exact_ : offset = turn.handle.recv.nextReceiveOffset :=
    Nat.le_antisymm (Nat.not_lt.mp notEarly) (Nat.not_lt.mp notLate)
  split
  · rename_i exceeds
    exact .violation alive exact_ exceeds
  rename_i within
  obtain ⟨fits, frames⟩ := not_or.mp within
  have fits : bytes.length ≤ turn.handle.recv.remainingBytes := Nat.not_lt.mp fits
  split
  · rename_i pending
    have initiator : turn.handle.gateway.initiator = true := (Bool.and_eq_true_iff.mp pending).1
    have rest : deliverable turn.handle bytes =
        bytes.drop (takePrelude bytes (chargeData bytes turn.handle)).1 := if_pos pending
    -- the bytes up to the prelude's length are kept back
    have split_ : ∃ taken, taken ++ deliverable turn.handle bytes = bytes ∧
        (takePrelude bytes (chargeData bytes turn.handle)).2.gateway.prelude =
          turn.handle.gateway.prelude ++ taken ∧
        taken.length ≤ gatewayPreludeBytes - turn.handle.gateway.prelude.length ∧
        (turn.handle.gateway.initiator = false → taken = []) := by
      rw [rest]
      refine ⟨bytes.take (takePrelude bytes (chargeData bytes turn.handle)).1,
        List.take_append_drop _ _, rfl, ?_, fun no => ?_⟩
      · exact Nat.le_trans (List.length_take_le _ _) (Nat.min_le_left _ _)
      · rw [initiator] at no
        cases no
    rw [← rest]
    split
    · split
      · obtain ⟨state, log, gateway, connected, same, prelude, opened, logged⟩ :=
          connectGateway_spec (takePrelude bytes (chargeData bytes turn.handle)).2
        rw [connected]
        refine .delivered ⟨alive, exact_, size, fits, frames, rfl, rfl, rfl, rfl, rfl, opened,
          logged, same, ?_⟩
        rw [prelude]
        exact split_
      · exact .refusedPrelude ⟨alive, exact_, size, fits, frames, rfl, rfl, rfl, rfl, rfl, .inl rfl,
          .inl rfl, rfl, split_⟩
    · exact .delivered ⟨alive, exact_, size, fits, frames, rfl, rfl, rfl, rfl, rfl, .inl rfl,
        .inl rfl, rfl, split_⟩
  · rename_i notPending
    have whole : deliverable turn.handle bytes = bytes := if_neg notPending
    have taken : TakesData offset length bytes turn.handle (chargeData bytes turn.handle) :=
      ⟨alive, exact_, size, fits, frames, rfl, rfl, rfl, rfl, rfl, .inl rfl, .inl rfl, rfl,
        [], whole, (List.append_nil _).symm, Nat.zero_le _, fun _ => rfl⟩
    have delivered := DataOutcome.delivered taken
    rwa [whole] at delivered

theorem deliverData_actions (deliverable : List UInt8) (turn : Turn)
    (alive : turn.handle.Alive) (calm : watch.refusals ∨ turn.Accepting)
    (safe : DispatchSafe watch.update turn.handle.recv.reads.length
      { turn with handle := bufferData deliverable turn.handle })
    (ending : turn.handle.RemoteEnds watch) :
    Actions limits watch (bufferData deliverable turn.handle, turn.out)
      (deliverData deliverable turn).point := by
  have ends : (bufferData deliverable turn.handle).RemoteEnds watch := ending.of_same rfl rfl
  have dispatch : Actions limits watch (bufferData deliverable turn.handle, turn.out)
      (tryDispatchReads { turn with handle := bufferData deliverable turn.handle }).point :=
    tryDispatchReads_actions { turn with handle := bufferData deliverable turn.handle } calm safe ends
  have same := sameEnds_dispatchRounds turn.handle.recv.reads.length
    { turn with handle := bufferData deliverable turn.handle }
  unfold deliverData
  dsimp only
  split
  · rename_i ended
    exact dispatch.tail (.finishRemote ended (same.live alive)
      (ends.after same (same.finReceived.symm.trans ended.1)))
  · exact dispatch

structure TakesUpdate (consumed additionalBytes additionalFrames : Nat)
    (handle : Handle) : Prop where
  fresh : handle.send.consumedByPeer ≤ consumed
  known : consumed ≤ handle.send.nextSendOffset
  room : additionalBytes ≤ 2 ^ 64 - 1 - handle.send.creditBytes

inductive UpdateOutcome (limits : ByteStreamLimits) (consumed additionalBytes additionalFrames : Nat)
    (turn : Turn) : Turn → Prop
  | ignored (stale : consumed < turn.handle.send.consumedByPeer) :
      UpdateOutcome limits consumed additionalBytes additionalFrames turn turn
  | unknown (ahead : turn.handle.send.nextSendOffset < consumed) :
      UpdateOutcome limits consumed additionalBytes additionalFrames turn
        (handleResetFrameFor .protocolError turn)
  | overflow (exceeds : 2 ^ 64 - 1 - turn.handle.send.creditBytes < additionalBytes) :
      UpdateOutcome limits consumed additionalBytes additionalFrames turn
        (handleResetFrameFor .resourceExhausted { turn with handle := { turn.handle with
          send := { turn.handle.send with consumedByPeer := consumed }
          violated := true } })
  | granted (taken : TakesUpdate consumed additionalBytes additionalFrames turn.handle) :
      UpdateOutcome limits consumed additionalBytes additionalFrames turn
        (pumpWrites limits { turn with
          handle := grantCredit consumed additionalBytes additionalFrames turn.handle })

theorem handleWindowUpdate_outcome (consumed additionalBytes additionalFrames : Nat) (turn : Turn) :
    UpdateOutcome limits consumed additionalBytes additionalFrames turn
      (handleWindowUpdate limits consumed additionalBytes additionalFrames turn) := by
  unfold handleWindowUpdate
  dsimp only
  split
  · rename_i stale
    exact .ignored stale
  rename_i fresh
  split
  · rename_i ahead
    exact .unknown ahead
  rename_i known
  split
  · rename_i exceeds
    exact .overflow exceeds
  rename_i room
  exact .granted ⟨Nat.not_lt.mp fresh, Nat.not_lt.mp known, Nat.not_lt.mp room⟩

inductive FinOutcome (finalOffset : Nat) (turn : Turn) : Turn → Prop
  | ignored (late : ¬ turn.handle.Alive) : FinOutcome finalOffset turn turn
  | mismatch (alive : turn.handle.Alive)
      (wrong : finalOffset ≠ turn.handle.recv.nextReceiveOffset) :
      FinOutcome finalOffset turn (handleResetFrameFor .protocolError
        { turn with handle := markFin finalOffset turn.handle })
  | waiting (alive : turn.handle.Alive)
      (exact_ : finalOffset = turn.handle.recv.nextReceiveOffset)
      (left : (tryDispatchReads { turn with
        handle := markFin finalOffset turn.handle }).handle.recv.chunks ≠ []) :
      FinOutcome finalOffset turn
        (tryDispatchReads { turn with handle := markFin finalOffset turn.handle })
  | finished (alive : turn.handle.Alive)
      (exact_ : finalOffset = turn.handle.recv.nextReceiveOffset)
      (empty : (tryDispatchReads { turn with
        handle := markFin finalOffset turn.handle }).handle.recv.chunks = []) :
      FinOutcome finalOffset turn
        { tryDispatchReads { turn with handle := markFin finalOffset turn.handle } with
          handle := finishRemote (tryDispatchReads { turn with
            handle := markFin finalOffset turn.handle }).handle }

theorem handleFin_outcome (finalOffset : Nat) (turn : Turn) :
    FinOutcome finalOffset turn (handleFin finalOffset turn) := by
  unfold handleFin
  split
  · rename_i late
    exact .ignored fun alive => late.elim alive.1 alive.2
  rename_i alive
  have alive : turn.handle.Alive := not_or.mp alive
  dsimp only
  split
  · rename_i wrong
    exact .mismatch alive wrong
  rename_i exact_
  have exact_ : finalOffset = turn.handle.recv.nextReceiveOffset := Classical.not_not.mp exact_
  split
  · rename_i empty
    exact .finished alive exact_ empty
  · rename_i left
    exact .waiting alive exact_ left

/-- After a FIN at the right offset the handler acts on the marked handle. -/
theorem handleFin_actions {finalOffset : Nat} {turn : Turn} (alive : turn.handle.Alive)
    (calm : watch.refusals ∨ turn.Accepting)
    (safe : DispatchSafe watch.update turn.handle.recv.reads.length
      { turn with handle := markFin finalOffset turn.handle })
    (ending : (markFin finalOffset turn.handle).RemoteEnds watch) :
    Actions limits watch (markFin finalOffset turn.handle, turn.out)
      (handleFin finalOffset turn).point := by
  have dispatch : Actions limits watch (markFin finalOffset turn.handle, turn.out)
      (tryDispatchReads { turn with handle := markFin finalOffset turn.handle }).point :=
    tryDispatchReads_actions { turn with handle := markFin finalOffset turn.handle } calm safe ending
  have same := sameEnds_dispatchRounds turn.handle.recv.reads.length
    { turn with handle := markFin finalOffset turn.handle }
  generalize outcome : handleFin finalOffset turn = after
  have cases_ := handleFin_outcome finalOffset turn
  rw [outcome] at cases_
  cases cases_ with
  | ignored late => exact absurd alive late
  | mismatch _ wrong =>
    exact .single (@Action.reset _ _ { turn with handle := markFin finalOffset turn.handle } _ calm)
  | waiting _ exact_ left => exact dispatch
  | finished _ exact_ empty =>
    have ended : (tryDispatchReads { turn with
        handle := markFin finalOffset turn.handle }).handle.recv.AtEnd :=
      ⟨same.finReceived, same.nextReceiveOffset.trans (exact_.symm.trans same.finalOffset.symm),
        empty⟩
    exact dispatch.tail (.finishRemote ended (same.live alive) (ending.after same rfl))

/-! ### Between calls -/

/-- No refusal or ending is excluded, but no read is queued. -/
def quiet : Watch := { reads := False }

theorem idle_finishStream : Idle (finishStream terminal handle) := by
  left
  rw [finishStream_recv]

theorem idle_handleResetFrameFor : Idle (handleResetFrameFor reason turn).handle := by
  rw [handleResetFrameFor_handle]
  exact idle_finishStream _ _

theorem idle_failStream (error : Error) : Idle (failStream error handle) := by
  left
  unfold failStream
  simp

theorem idle_tryDispatchReads : Idle (tryDispatchReads turn).handle :=
  dispatchRounds_idle _ (Nat.le_refl _)

theorem idle_deliverData (deliverable : List UInt8) :
    Idle (deliverData deliverable turn).handle := by
  unfold deliverData
  dsimp only
  split
  · exact idle_finishStream _ _
  · exact idle_tryDispatchReads _

theorem idle_asyncReadSome (size : Nat) (deadline : Option Nat) (idle : Idle turn.handle) :
    Idle (asyncReadSome size deadline turn).handle := by
  unfold asyncReadSome
  repeat' split
  · exact idle
  · exact idle
  · exact idle
  · exact idle_tryDispatchReads _

theorem Idle.action {point point' : Handle × List StreamFrame} (idle : Idle point.1)
    (action : Action limits quiet point point') : Idle point'.1 := by
  cases action with
  | sendData | writeDone | finRefused | requestFin | pushWrite | report => exact idle
  | sendFailed | reset => exact idle_handleResetFrameFor _ _
  | lastWriteDone | sendFin | finishRemote => exact idle_finishStream _ _
  | pushRead some running allowed => exact allowed.elim
  | readFront waiting buffered =>
    rcases idle with none | none
    · cases waiting.symm.trans none
    · cases buffered.symm.trans none
  | @update turn calm safe =>
    rcases maybeSendWindowUpdate_cases with ⟨same, -⟩ | ⟨-, same, -⟩
    · rw [same]
      exact idle
    · rw [same]
      exact idle
  | @readEnd handle out read reads waiting ended ending =>
    unfold Heyaki.readEnd
    dsimp only
    split
    · exact idle_finishStream _ _
    · exact .inr ended.2.2
  | @expire handle out now =>
    rcases idle with none | none
    · left
      show handle.recv.reads.filter _ = []
      rw [none]
      rfl
    · exact .inr none
  | fail => exact idle_failStream _ _

theorem Idle.actions (limits : ByteStreamLimits) {handle : Handle} {turn : Turn}
    {out : List StreamFrame} (idle : Idle handle)
    (actions : Actions limits quiet (handle, out) turn.point) :
    Idle turn.handle := by
  show Idle turn.point.1
  generalize turn.point = point at actions ⊢
  induction actions with
  | refl => exact idle
  | tail _ action ih => exact ih.action action

theorem endsSafely_of_forall {finish : List PendingWrite → Prop} (all : ∀ writes, finish writes) :
    EndsSafely finish writes := by
  induction writes with
  | nil => trivial
  | cons write writes ih => exact ⟨fun _ => all writes, ih⟩

end Heyaki
