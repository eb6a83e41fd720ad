/-
Purpose: one stream as its two ends see it.  A step of the two services moves
the pair of slots of each stream by link steps: actions of the acting end, and
arrivals of the peer's next frame.
-/
import Heyaki.Foundation.Machine
import Heyaki.Client.ByteStreamService
import Heyaki.Proofs.ByteStreamCalls

namespace Heyaki

variable {handle : Handle} {turn : Turn} {peer : Slot} {rest : List StreamFrame}
  {service : ByteStreamService} {id other : StreamId} {replies : List (Option Error)}
  {sweep : Sweep} {gateway : Bool} {reply : Option Error} {windowBytes windowFrames : Nat}
  {channelId : UInt32} {env : OpenReplies} {system : System} {side : Side} {op : Op}
  {allowed : System → Side × Op → Prop}

/-! ### Link steps -/

/-- A handle as it is created, with the credit the peer's OPEN brought. -/
structure NewHandle (windowBytes windowFrames creditBytes creditFrames : Nat)
    (handle : Handle) : Prop where
  recv : handle.recv = {
    windowBytes := windowBytes
    windowFrames := windowFrames
    remainingBytes := windowBytes
    remainingFrames := windowFrames }
  send : handle.send = { creditBytes := creditBytes, creditFrames := creditFrames }
  state : handle.state = .opening ∨ handle.state = .open
  registered : handle.registered = true
  log : handle.log = []
  violated : handle.violated = false
  wrapped : handle.wrapped = false
  prelude : handle.gateway.prelude = []

def Ignores (watch : Watch) (handle : Option Handle) (frame : StreamFrame) : Prop :=
  match handle with
  | none =>
    match frame with
    | .streamOpen _ _ _ => watch.openDrops
    | _ => True
  | some handle =>
    match frame with
    | .streamOpen _ _ _ => handle.state = .reset ∨ handle.registered = false ∧ watch.openDrops
    | .streamData offset _ _ =>
      handle.registered = false ∨ ¬ handle.Alive ∨ offset < handle.recv.nextReceiveOffset
    | .streamWindowUpdate consumed _ _ =>
      handle.registered = false ∨ consumed < handle.send.consumedByPeer
    | .streamFin _ => handle.registered = false ∨ ¬ handle.Alive
    | .streamReset _ => handle.registered = false ∨ handle.state = .reset

/-- A violation is noted, with the offset the update reports. -/
def Turn.violate (turn : Turn) (consumed : Nat) : Turn :=
  { turn with handle := { turn.handle with
    send := { turn.handle.send with consumedByPeer := consumed }
    violated := true } }

/-- One step of a stream, as the acting end (first) and its peer (second). -/
inductive LinkStep (limits : ByteStreamLimits) (watch : Watch) : Slot × Slot → Slot × Slot → Prop
  | act {handle after : Handle} {out out' : List StreamFrame} {peer : Slot}
      (action : Action limits watch (handle, out) (after, out')) :
      LinkStep limits watch (⟨some handle, out⟩, peer) (⟨some after, out'⟩, peer)
  | opened {windowBytes windowFrames : Nat} {gateway : Bool} {handle : Handle}
      (bytes : 0 < windowBytes ∧ windowBytes < 2 ^ 64)
      (frames : 0 < windowFrames ∧ windowFrames < 2 ^ 32)
      (new : NewHandle windowBytes windowFrames 0 0 handle)
      (kind : handle.gateway.initiator = gateway) :
      LinkStep limits watch ({}, {})
        (⟨some handle, [.streamOpen windowBytes windowFrames gateway]⟩, {})
  | ignored {own peer : Slot} {frame : StreamFrame} {rest : List StreamFrame}
      (front : peer.out = frame :: rest) (ignores : Ignores watch own.handle frame) :
      LinkStep limits watch (own, peer) (own, { peer with out := rest })
  | refused {own peer : Slot} {windowBytes windowFrames reason : Nat} {gateway sent : Bool}
      {rest : List StreamFrame}
      (front : peer.out = .streamOpen windowBytes windowFrames gateway :: rest)
      (free : ByteStreamService.registered own = false) (refusal : sent = false → watch.refusals) :
      LinkStep limits watch (own, peer)
        ({ own with out := own.out ++ if sent then [.streamReset reason] else [] },
          { peer with out := rest })
  | accepted {own peer : Slot} {windowBytes windowFrames : Nat} {gateway sent : Bool}
      {rest : List StreamFrame} {handle : Handle}
      (front : peer.out = .streamOpen windowBytes windowFrames gateway :: rest)
      (free : ByteStreamService.registered own = false)
      (bytes : windowBytes ≤ 64 * mib) (frames : windowFrames < 2 ^ 32)
      (new : NewHandle limits.defaultReceiveWindowBytes limits.defaultReceiveWindowFrames
        windowBytes windowFrames handle)
      (kind : handle.gateway.initiator = false)
      (refusal : sent = false → watch.refusals) :
      LinkStep limits watch (own, peer)
        (⟨some handle, own.out ++ if sent then [.streamWindowUpdate 0
            limits.defaultReceiveWindowBytes limits.defaultReceiveWindowFrames] else []⟩,
          { peer with out := rest })
  | data {handle after : Handle} {out rest : List StreamFrame} {peer : Slot} {offset length : Nat}
      {bytes : List UInt8} (registered : handle.registered = true)
      (front : peer.out = .streamData offset length bytes :: rest)
      (taken : TakesData offset length bytes handle after) :
      LinkStep limits watch (⟨some handle, out⟩, peer)
        (⟨some (bufferData (deliverable handle bytes) after), out⟩, { peer with out := rest })
  | badPrelude {turn : Turn} {after : Handle} {rest : List StreamFrame} {peer : Slot}
      {offset length : Nat} {bytes : List UInt8} (registered : turn.handle.registered = true)
      (front : peer.out = .streamData offset length bytes :: rest)
      (taken : TakesData offset length bytes turn.handle after)
      (calm : watch.refusals ∨ turn.Accepting) :
      LinkStep limits watch (⟨some turn.handle, turn.out⟩, peer)
        (⟨some (handleResetFrameFor .protocolError { turn with handle := after }).handle,
          (handleResetFrameFor .protocolError { turn with handle := after }).out⟩,
          { peer with out := rest })
  | rejected {turn : Turn} {frame : StreamFrame} {rest : List StreamFrame} {peer : Slot}
      {reason : StableStatus} (registered : turn.handle.registered = true)
      (front : peer.out = frame :: rest) (calm : watch.refusals ∨ turn.Accepting) :
      LinkStep limits watch (⟨some turn.handle, turn.out⟩, peer)
        (⟨some (handleResetFrameFor reason turn).handle, (handleResetFrameFor reason turn).out⟩,
          { peer with out := rest })
  | violation {turn : Turn} {frame : StreamFrame} {rest : List StreamFrame} {peer : Slot}
      {consumed : Nat} (registered : turn.handle.registered = true)
      (front : peer.out = frame :: rest) (calm : watch.refusals ∨ turn.Accepting)
      (allowed : watch.violations) :
      LinkStep limits watch (⟨some turn.handle, turn.out⟩, peer)
        (⟨some (handleResetFrameFor .resourceExhausted (turn.violate consumed)).handle,
          (handleResetFrameFor .resourceExhausted (turn.violate consumed)).out⟩,
          { peer with out := rest })
  | update {handle : Handle} {out rest : List StreamFrame} {peer : Slot}
      {consumed additionalBytes additionalFrames : Nat} (registered : handle.registered = true)
      (front : peer.out = .streamWindowUpdate consumed additionalBytes additionalFrames :: rest)
      (taken : TakesUpdate consumed additionalBytes additionalFrames handle) :
      LinkStep limits watch (⟨some handle, out⟩, peer)
        (⟨some (grantCredit consumed additionalBytes additionalFrames handle), out⟩,
          { peer with out := rest })
  | fin {handle : Handle} {out rest : List StreamFrame} {peer : Slot} {finalOffset : Nat}
      (registered : handle.registered = true) (alive : handle.Alive)
      (front : peer.out = .streamFin finalOffset :: rest) :
      LinkStep limits watch (⟨some handle, out⟩, peer)
        (⟨some (markFin finalOffset handle), out⟩, { peer with out := rest })
  | peerReset {handle : Handle} {out rest : List StreamFrame} {peer : Slot} {reason : Nat}
      (registered : handle.registered = true)
      (front : peer.out = .streamReset reason :: rest) :
      LinkStep limits watch (⟨some handle, out⟩, peer)
        (⟨some (finishStream .reset { handle with resetReason := some reason }), out⟩,
          { peer with out := rest })

abbrev LinkSteps (limits : ByteStreamLimits) (watch : Watch) :=
  Relation.ReflTransGen (LinkStep limits watch)

variable {limits : ByteStreamLimits} {watch : Watch}

/-- The slot of a stream whose call is under way. -/
abbrev Turn.slot (turn : Turn) : Slot := ⟨some turn.handle, turn.out⟩

def Slot.Rests (slot : Slot) : Prop := ∀ handle, slot.handle = some handle → Idle handle

theorem rests_of_idle {out : List StreamFrame} (idle : Idle handle) :
    Slot.Rests ⟨some handle, out⟩ := by
  intro other same
  cases same
  exact idle

/-- A whole call: link steps that leave the peer with the frames `rest` under way and the
own end idle, if it was. -/
structure Goes (limits : ByteStreamLimits) (watch : Watch) (peer : Slot)
    (rest : List StreamFrame) (own own' : Slot) : Prop where
  links : LinkSteps limits watch (own, peer) (own', { peer with out := rest })
  rests : own.Rests → own'.Rests

theorem Goes.refl {own : Slot} : Goes limits watch peer peer.out own own := ⟨.refl, id⟩

theorem Goes.trans {first second third : Slot} (one : Goes limits watch peer peer.out first second)
    (two : Goes limits watch peer rest second third) : Goes limits watch peer rest first third :=
  ⟨one.links.trans two.links, fun rests => two.rests (one.rests rests)⟩

theorem goes_of_reset {own : Slot} {reason : StableStatus}
    (step : LinkStep limits watch (own, peer)
      ((handleResetFrameFor reason turn).slot, { peer with out := rest })) :
    Goes limits watch peer rest own (handleResetFrameFor reason turn).slot :=
  ⟨.single step, fun _ => rests_of_idle (idle_handleResetFrameFor _ _)⟩

theorem Actions.links {after : Handle} {out out' : List StreamFrame}
    (actions : Actions limits watch (handle, out) (after, out')) :
    LinkSteps limits watch (⟨some handle, out⟩, peer) (⟨some after, out'⟩, peer) :=
  Relation.ReflTransGen.lift (fun point : Handle × List StreamFrame =>
    ((⟨some point.1, point.2⟩, peer) : Slot × Slot)) (fun _ _ => LinkStep.act) _ _ actions

/-- What a call covered by actions does to the slot of its stream. -/
theorem goes_of_actions {slot : Slot} {after : Turn} (has : slot.handle = some handle)
    (actions : Actions limits watch (handle, slot.out) after.point)
    (idle : Idle handle → Idle after.handle) : Goes limits watch peer peer.out slot after.slot := by
  refine ⟨?_, fun rests => rests_of_idle (idle (rests handle has))⟩
  have links : LinkSteps limits watch (⟨some handle, slot.out⟩, peer) (after.slot, peer) :=
    Actions.links actions
  rw [← has] at links
  exact links

/-! ### Frame handlers -/

/-- What a watch asks of a frame that arrives for a stream in the map. -/
def FrameSafe (watch : Watch) (frame : StreamFrame) (turn : Turn) : Prop :=
  (watch.refusals ∨ turn.Accepting) ∧
  match frame with
  | .streamData offset length bytes =>
    (watch.violations ∨ (turn.handle.Alive → offset = turn.handle.recv.nextReceiveOffset →
      bytes.length ≤ turn.handle.recv.remainingBytes ∧ turn.handle.recv.remainingFrames ≠ 0)) ∧
    (∀ after, TakesData offset length bytes turn.handle after →
      DispatchSafe watch.update turn.handle.recv.reads.length
        { turn with handle := bufferData (deliverable turn.handle bytes) after }) ∧
    turn.handle.RemoteEnds watch
  | .streamWindowUpdate _ additionalBytes _ =>
    (watch.violations ∨ additionalBytes ≤ 2 ^ 64 - 1 - turn.handle.send.creditBytes) ∧
    (turn.handle.recv.reads = [] ∨ turn.handle.recv.chunks = []) ∧
    (watch.finRefusals ∨ turn.Accepting ∨ NoFinAfter turn.handle.send.writes) ∧
    EndsSafely (watch.finish turn.handle.localTerminal turn.handle.recv.reads)
      turn.handle.send.writes
  | .streamFin finalOffset =>
    DispatchSafe watch.update turn.handle.recv.reads.length
      { turn with handle := markFin finalOffset turn.handle } ∧
    (markFin finalOffset turn.handle).RemoteEnds watch
  | _ => True

theorem handleData_goes {offset length : Nat} {bytes : List UInt8}
    (registered : turn.handle.registered = true)
    (front : peer.out = .streamData offset length bytes :: rest)
    (safe : FrameSafe watch (.streamData offset length bytes) turn) :
    Goes limits watch peer rest turn.slot (handleData offset length bytes turn).slot := by
  obtain ⟨calm, fits, dispatch, ending⟩ := safe
  generalize result : handleData offset length bytes turn = after
  have outcome := handleData_outcome offset length bytes turn
  rw [result] at outcome
  cases outcome with
  | ignored late => exact ⟨.single (.ignored front (.inr late)), id⟩
  | malformed alive wrong => exact goes_of_reset (.rejected registered front calm)
  | violation alive exact_ exceeds =>
    refine goes_of_reset (.violation registered front calm (fits.resolve_right fun within => ?_))
    obtain ⟨bytesFit, framesFit⟩ := within alive exact_
    exact exceeds.elim (fun more => absurd bytesFit (Nat.not_le.mpr more)) framesFit
  | refusedPrelude taken => exact goes_of_reset (.badPrelude registered front taken calm)
  | @delivered handle taken =>
    have received : handle.recv.reads.length = turn.handle.recv.reads.length := by
      rw [taken.recv]
      rfl
    have safe : DispatchSafe watch.update handle.recv.reads.length
        { turn with handle := bufferData (deliverable turn.handle bytes) handle } := by
      rw [received]
      exact dispatch handle taken
    have ends : handle.RemoteEnds watch := ending.of_same (by rw [taken.recv]; rfl) taken.send
    exact ⟨.head (.data registered front taken) (Actions.links (deliverData_actions _
      { turn with handle := handle } taken.after_alive calm safe ends)),
      fun _ => rests_of_idle (idle_deliverData _ _)⟩

theorem handleWindowUpdate_goes {consumed additionalBytes additionalFrames : Nat}
    (registered : turn.handle.registered = true)
    (front : peer.out = .streamWindowUpdate consumed additionalBytes additionalFrames :: rest)
    (safe : FrameSafe watch (.streamWindowUpdate consumed additionalBytes additionalFrames) turn) :
    Goes limits watch peer rest turn.slot
      (handleWindowUpdate limits consumed additionalBytes additionalFrames turn).slot := by
  obtain ⟨calm, room, idle, finCalm, ending⟩ := safe
  generalize result : handleWindowUpdate limits consumed additionalBytes additionalFrames turn = after
  have outcome : UpdateOutcome limits consumed additionalBytes additionalFrames turn _ :=
    handleWindowUpdate_outcome consumed additionalBytes additionalFrames turn
  rw [result] at outcome
  cases outcome with
  | ignored stale => exact ⟨.single (.ignored front (.inr stale)), id⟩
  | unknown ahead => exact goes_of_reset (.rejected registered front calm)
  | overflow exceeds =>
    exact goes_of_reset (.violation registered front calm
      (room.resolve_right fun fits => absurd fits (Nat.not_le.mpr exceeds)))
  | granted taken =>
    let granted : Turn :=
      { turn with handle := grantCredit consumed additionalBytes additionalFrames turn.handle }
    have still : Idle granted.handle := idle
    refine ⟨.head (.update registered front taken)
      (Actions.links (pumpWrites_actions granted idle calm finCalm ending)), fun _ => ?_⟩
    exact rests_of_idle (still.actions limits (pumpWrites_actions granted idle (.inl trivial)
      (.inl trivial) (endsSafely_of_forall fun _ => trivial)))

theorem handleFin_goes {finalOffset : Nat} (registered : turn.handle.registered = true)
    (front : peer.out = .streamFin finalOffset :: rest)
    (safe : FrameSafe watch (.streamFin finalOffset) turn) :
    Goes limits watch peer rest turn.slot (handleFin finalOffset turn).slot := by
  obtain ⟨calm, dispatch, ending⟩ := safe
  have acts (alive : turn.handle.Alive) : Actions limits watch _ (handleFin finalOffset turn).point :=
    handleFin_actions alive calm dispatch ending
  generalize result : handleFin finalOffset turn = after at acts
  have goes (alive : turn.handle.Alive) (idle : Idle after.handle) :
      Goes limits watch peer rest turn.slot after.slot :=
    ⟨.head (.fin registered alive front) (Actions.links (acts alive)), fun _ => rests_of_idle idle⟩
  have outcome := handleFin_outcome finalOffset turn
  rw [result] at outcome
  cases outcome with
  | ignored late => exact ⟨.single (.ignored front (.inr late)), id⟩
  | mismatch alive wrong => exact goes alive (idle_handleResetFrameFor _ _)
  | waiting alive exact_ left => exact goes alive (idle_tryDispatchReads _)
  | finished alive exact_ empty => exact goes alive (idle_finishStream _ _)

theorem handleStreamFrame_goes {frame : StreamFrame} (registered : turn.handle.registered = true)
    (front : peer.out = frame :: rest) (safe : FrameSafe watch frame turn) :
    Goes limits watch peer rest turn.slot (handleStreamFrame limits frame turn).slot := by
  cases frame with
  | streamOpen windowBytes windowFrames gateway =>
    unfold handleStreamFrame
    dsimp only
    split
    · exact goes_of_reset (.rejected registered front safe.1)
    · rename_i reset
      exact ⟨.single (.ignored front (.inl (Classical.not_not.mp reset))), id⟩
  | streamData offset length bytes => exact handleData_goes registered front safe
  | streamWindowUpdate consumed bytes frames =>
    exact handleWindowUpdate_goes registered front safe
  | streamFin finalOffset => exact handleFin_goes registered front safe
  | streamReset reason =>
    unfold handleStreamFrame handleReset
    dsimp only
    split
    · rename_i reset
      exact ⟨.single (.ignored front (.inr reset)), id⟩
    · exact ⟨.single (.peerReset registered front), fun _ => rests_of_idle (idle_finishStream _ _)⟩

/-! ### Services -/

open ByteStreamService Function

/-- A call for one stream of a service: the other slots stay. -/
structure Serves (watch : Watch) (service : ByteStreamService) (id : StreamId) (peer : Slot)
    (rest : List StreamFrame) (after : ByteStreamService) : Prop where
  limits : after.limits = service.limits
  others : ∀ other, other ≠ id → after.slots other = service.slots other
  own : Goes service.limits watch peer rest (service.slots id) (after.slots id)

theorem serves_same (goes : Goes service.limits watch peer rest (service.slots id)
    (service.slots id)) : Serves watch service id peer rest service :=
  ⟨rfl, fun _ _ => rfl, goes⟩

theorem serves_setSlot {slot : Slot}
    (goes : Goes service.limits watch peer rest (service.slots id) slot) :
    Serves watch service id peer rest (service.setSlot id slot) where
  limits := rfl
  others _ differ := update_of_ne differ _ _
  own := by
    show Goes _ _ _ _ _ (update service.slots id slot id)
    rw [update_self]
    exact goes

theorem serves_addSlot {slot : Slot}
    (goes : Goes service.limits watch peer rest (service.slots id) slot) :
    Serves watch service id peer rest (service.addSlot id slot) :=
  { serves_setSlot goes with }

/-- A call that acts on all streams of a service, each by itself. -/
structure Moves (watch : Watch) (service : ByteStreamService) (peers : StreamId → Slot)
    (after : ByteStreamService) : Prop where
  limits : after.limits = service.limits
  goes : ∀ id, Goes service.limits watch (peers id) (peers id).out (service.slots id)
    (after.slots id)

variable {peers : StreamId → Slot} {after : ByteStreamService}

theorem Moves.trans {last : ByteStreamService} (one : Moves watch service peers after)
    (two : Moves watch after peers last) : Moves watch service peers last :=
  ⟨two.limits.trans one.limits, fun id => (one.goes id).trans (one.limits ▸ two.goes id)⟩

theorem Serves.moves (serves : Serves watch service id (peers id) (peers id).out after) :
    Moves watch service peers after := by
  refine ⟨serves.limits, fun other => ?_⟩
  by_cases same : other = id
  · rw [same]
    exact serves.own
  · rw [serves.others other same]
    exact .refl

theorem onHandle_moves {call : Turn → Turn}
    (covered : ∀ handle, (service.slots id).handle = some handle →
      Actions service.limits watch (handle, (service.slots id).out)
          (call { handle := handle, out := (service.slots id).out, replies := replies }).point ∧
        (Idle handle → Idle
          (call { handle := handle, out := (service.slots id).out, replies := replies }).handle)) :
    Moves watch service peers (service.onHandle id replies call) := by
  unfold onHandle
  split
  · exact ⟨rfl, fun _ => .refl⟩
  rename_i handle has
  obtain ⟨actions, idle⟩ := covered handle has
  exact (serves_setSlot (goes_of_actions has actions idle)).moves

theorem mapRegistered_moves {call : StreamId → Turn → Turn}
    {replies : StreamId → List (Option Error)}
    (covered : ∀ id turn, turn.replies = replies id →
      Actions service.limits watch turn.point (call id turn).point ∧
        (Idle turn.handle → Idle (call id turn).handle)) :
    Moves watch service peers (service.mapRegistered call replies) := by
  refine ⟨rfl, fun id => ?_⟩
  unfold mapRegistered
  dsimp only
  split
  · exact .refl
  rename_i handle has
  split
  · obtain ⟨actions, idle⟩ := covered id ⟨handle, (service.slots id).out, replies id⟩ rfl
    exact goes_of_actions has actions idle
  · exact .refl

/-- The session refuses nothing during the sweep, if refusals are excluded. -/
def SweepSafe (watch : Watch) (sweep : Sweep) : Prop :=
  watch.refusals ∨ ∀ id, ∀ reply ∈ sweep.replies id, reply = none

theorem sweepDeadlines_moves (safe : SweepSafe watch sweep) :
    Moves watch service peers (service.sweepDeadlines sweep) :=
  mapRegistered_moves fun id turn same =>
    ⟨checkDeadlines_actions sweep.now turn (safe.imp_right fun accepting reply member =>
      accepting id reply (same ▸ member)), fun idle =>
      idle.actions service.limits (checkDeadlines_actions sweep.now turn (.inl trivial))⟩

theorem failAll_moves {error : Error} (allowed : watch.losses) :
    Moves watch service peers (service.failAll error) :=
  mapRegistered_moves fun _ _ _ => ⟨.single (.fail allowed), fun _ => idle_failStream _ _⟩

/-! ### Opening -/

section

variable (own : service.slots id = {})

include own

theorem openWith_serves (bytes : 0 < handle.recv.windowBytes ∧ handle.recv.windowBytes < 2 ^ 64)
    (frames : 0 < handle.recv.windowFrames ∧ handle.recv.windowFrames < 2 ^ 32)
    (new : NewHandle handle.recv.windowBytes handle.recv.windowFrames 0 0 handle)
    (kind : handle.gateway.initiator = gateway) (free : peer = {}) :
    Serves watch service id peer peer.out (service.openWith id handle gateway reply).2 := by
  subst free
  unfold openWith
  split
  · exact serves_same .refl
  · refine serves_addSlot ?_
    rw [own]
    refine ⟨.single (.opened bytes frames new kind), fun _ => rests_of_idle (.inl ?_)⟩
    rw [new.recv]

theorem openStream_serves (bytes : windowBytes < 2 ^ 64)
    (frames : windowFrames < 2 ^ 32) (free : peer = {}) :
    Serves watch service id peer peer.out
      (service.openStream id windowBytes windowFrames reply).2 := by
  unfold openStream
  split
  · exact serves_same .refl
  split
  · exact serves_same .refl
  rename_i positive
  obtain ⟨someBytes, someFrames⟩ := not_or.mp positive
  split
  · exact serves_same .refl
  exact openWith_serves own ⟨Nat.pos_of_ne_zero someBytes, bytes⟩
    ⟨Nat.pos_of_ne_zero someFrames, frames⟩
    ⟨rfl, rfl, .inr rfl, rfl, rfl, rfl, rfl, rfl⟩ rfl free

theorem openGatewayStream_serves {dialDeadline : Nat} {onConnected negotiated : Bool}
    {target : Option Error} {channel : Except Error UInt32}
    (bytes : windowBytes < 2 ^ 64) (frames : windowFrames < 2 ^ 32) (free : peer = {}) :
    Serves watch service id peer peer.out (service.openGatewayStream id windowBytes windowFrames
      dialDeadline onConnected target negotiated channel reply).2 := by
  unfold openGatewayStream
  split
  · exact serves_same .refl
  split
  · exact serves_same .refl
  rename_i positive
  obtain ⟨someBytes, someFrames⟩ := not_or.mp positive
  split
  · exact serves_same .refl
  split
  · exact serves_same .refl
  split
  · exact serves_same .refl
  split
  · exact serves_same .refl
  exact openWith_serves own ⟨Nat.pos_of_ne_zero someBytes, bytes⟩
    ⟨Nat.pos_of_ne_zero someFrames, frames⟩
    ⟨rfl, rfl, .inl rfl, rfl, rfl, rfl, rfl, rfl⟩ rfl free

end

theorem refuse_eq (slot : Slot) (status : StableStatus) :
    ∃ sent : Bool, refuse slot status replies =
        { slot with out := slot.out ++ if sent then [.streamReset status.code] else [] } ∧
      (sent = false → ∃ reply ∈ replies, reply ≠ none) := by
  rcases replies with _ | ⟨_ | error, replies⟩
  · exact ⟨true, rfl, fun no => Bool.noConfusion no⟩
  · exact ⟨true, rfl, fun no => Bool.noConfusion no⟩
  · refine ⟨false, ?_, fun _ => ⟨some error, List.mem_cons_self, Option.some_ne_none _⟩⟩
    rw [if_neg Bool.false_ne_true, List.append_nil]
    rfl

theorem refuse_serves {status : StableStatus}
    (front : peer.out = .streamOpen windowBytes windowFrames gateway :: rest)
    (free : registered (service.slots id) = false)
    (calm : watch.refusals ∨ ∀ reply ∈ replies, reply = none) :
    Serves watch service id peer rest
      (service.setSlot id (refuse (service.slots id) status replies)) := by
  obtain ⟨sent, same, refused⟩ := refuse_eq (service.slots id) status
  rw [same]
  refine serves_setSlot ⟨.single (.refused front free fun no =>
    calm.resolve_right fun accepting => ?_), fun rests => rests⟩
  obtain ⟨reply, member, some⟩ := refused no
  exact some (accepting reply member)

theorem finishStream_of_nothing_pending (noReads : handle.recv.reads = [])
    (noWrites : handle.send.writes = []) (kind : handle.gateway.initiator = false) :
    finishStream .reset handle = { handle with state := .reset, registered := false } := by
  have connected : ∀ error, handle.failConnected error = handle := by
    intro error
    unfold Handle.failConnected
    rw [kind]
    rfl
  have recv : { handle.recv with reads := [] } = handle.recv := by rw [← noReads]
  have send : { handle.send with writes := [] } = handle.send := by rw [← noWrites]
  unfold finishStream
  dsimp only
  rw [connected, recv, send, noReads, noWrites]
  simp

theorem refuse_eq_reset {status : StableStatus} (noReads : turn.handle.recv.reads = [])
    (noWrites : turn.handle.send.writes = []) (kind : turn.handle.gateway.initiator = false)
    (running : turn.handle.state ≠ .reset) :
    refuse ⟨some { turn.handle with state := .reset, registered := false }, turn.out⟩ status
        turn.replies =
      ⟨some (handleResetFrameFor status turn).handle, (handleResetFrameFor status turn).out⟩ := by
  have finished := finishStream_of_nothing_pending noReads noWrites kind
  rcases turn with ⟨handle, out, replies⟩
  unfold handleResetFrameFor
  rw [if_pos running]
  rcases replies with _ | ⟨_ | error, replies⟩
  all_goals
    dsimp only [Turn.sendStreamFrame]
    rw [finished]
    rfl

theorem acceptStream_serves {handled : Bool} {refusal : StableStatus}
    (front : peer.out = .streamOpen windowBytes windowFrames gateway :: rest)
    (free : registered (service.slots id) = false) (bytes : windowBytes ≤ 64 * mib)
    (frames : windowFrames < 2 ^ 32) (calm : watch.refusals ∨ ∀ reply ∈ replies, reply = none) :
    Serves watch service id peer rest (service.acceptStream id channelId windowBytes windowFrames
      gateway handled refusal replies) := by
  unfold acceptStream
  dsimp only
  generalize created : ({ service.newHandle channelId service.limits.defaultReceiveWindowBytes
      service.limits.defaultReceiveWindowFrames with
    state := .open
    gateway := { gateway := gateway }
    send := { creditBytes := windowBytes, creditFrames := windowFrames } } : Handle) = handle
  have new : NewHandle service.limits.defaultReceiveWindowBytes
      service.limits.defaultReceiveWindowFrames windowBytes windowFrames handle := by
    rw [← created]
    exact ⟨rfl, rfl, .inr rfl, rfl, rfl, rfl, rfl, rfl⟩
  have kind : handle.gateway.initiator = false := by rw [← created]
  have isOpen : handle.state = .open := by rw [← created]
  have none : handle.recv.reads = [] := by rw [new.recv]
  -- the new stream with its initial grant, which the session may have refused
  obtain ⟨sent, error, after, granted, sameHandle, sameOut, refused, keeps⟩ :=
    @sendStreamFrame_point ⟨handle, (service.slots id).out, replies⟩
      (.streamWindowUpdate 0 handle.recv.windowBytes handle.recv.windowFrames)
  have step := LinkStep.accepted front free bytes frames new kind fun no =>
    calm.resolve_right (refused no)
  unfold grantInitialCredit
  rw [granted]
  dsimp only at sameHandle sameOut ⊢
  rw [new.recv] at sameOut
  rw [← sameOut] at step
  split
  · rw [sameHandle]
    exact serves_addSlot ⟨.single step, fun _ => rests_of_idle (.inl none)⟩
  · rw [refuse_eq_reset (by rw [sameHandle, none]) (by rw [sameHandle, new.send])
      (by rw [sameHandle, kind]) (by rw [sameHandle, isOpen]; decide)]
    rw [← sameHandle] at step
    exact serves_addSlot ⟨.head step (Actions.links (.single (.reset (calm.imp_right keeps)))),
      fun _ => rests_of_idle (idle_handleResetFrameFor _ _)⟩

/-- What a watch asks of the answers while an OPEN is handled. -/
def OpenSafe (watch : Watch) (windowBytes windowFrames : Nat) (env : OpenReplies) : Prop :=
  (watch.refusals ∨ ∀ reply ∈ env.replies, reply = none) ∧
  (watch.openDrops ∨ (0 < windowBytes ∧ windowBytes ≤ 64 * mib ∧ 0 < windowFrames ∧
    windowFrames < 2 ^ 32 ∧ env.gatewayNegotiated = true ∧ env.connectParses = true ∧
    env.channelUsable = true))

theorem handleOpen_serves (front : peer.out = .streamOpen windowBytes windowFrames gateway :: rest)
    (free : registered (service.slots id) = false)
    (safe : OpenSafe watch windowBytes windowFrames env) :
    Serves watch service id peer rest
      (service.handleOpen id channelId windowBytes windowFrames gateway env) := by
  obtain ⟨calm, drops⟩ := safe
  have dropped (allowed : watch.openDrops) : Serves watch service id peer rest service := by
    refine serves_same ⟨.single (.ignored front ?_), fun rests => rests⟩
    unfold Ignores
    split
    · exact allowed
    rename_i handle has
    refine .inr ⟨?_, allowed⟩
    unfold registered at free
    rw [has] at free
    exact free
  unfold handleOpen
  split
  · rename_i wrong
    refine dropped (drops.resolve_right fun right => ?_)
    omega
  rename_i right
  have bytes : windowBytes ≤ 64 * mib := by omega
  have frames : windowFrames < 2 ^ 32 := by omega
  split
  · rename_i isGateway
    split
    · rename_i wrong
      refine dropped (drops.resolve_right fun right => ?_)
      simp [right.2.2.2.2.1, right.2.2.2.2.2.1] at wrong
    split
    · exact refuse_serves front free calm
    split
    · exact refuse_serves front free calm
    split
    · rename_i unusable
      refine dropped (drops.resolve_right fun right => ?_)
      simp [right.2.2.2.2.2.2] at unusable
    · subst isGateway
      exact acceptStream_serves front free bytes frames calm
  · rename_i plain
    have plain : gateway = false := Bool.eq_false_iff.mpr plain
    subst plain
    split
    · exact refuse_serves front free calm
    split
    · rename_i unusable
      refine dropped (drops.resolve_right fun right => ?_)
      simp [right.2.2.2.2.2.2] at unusable
    · exact acceptStream_serves front free bytes frames calm

/-! ### Arrivals -/

/-- What a watch asks of an arrival at a service. -/
structure ArrivalSafe (watch : Watch) (service : ByteStreamService) (id : StreamId)
    (frame : StreamFrame) (sweep : Sweep) (env : OpenReplies) : Prop where
  sweeps : SweepSafe watch sweep
  opens : ∀ windowBytes windowFrames gateway, frame = .streamOpen windowBytes windowFrames gateway →
    OpenSafe watch windowBytes windowFrames env
  arrives : ∀ handle, ((service.sweepDeadlines sweep).slots id).handle = some handle →
    handle.registered = true → FrameSafe watch frame
      { handle := handle, out := ((service.sweepDeadlines sweep).slots id).out,
        replies := env.replies }

theorem admitFrame_serves {frame : StreamFrame} (front : peer.out = frame :: rest)
    (safe : ArrivalSafe watch service id frame sweep env) :
    Serves watch (service.sweepDeadlines sweep) id peer rest
      (service.admitFrame id channelId frame sweep env) := by
  have frameSafe := safe.arrives
  unfold admitFrame
  dsimp only
  generalize service.sweepDeadlines sweep = swept at frameSafe ⊢
  split
  · rename_i isRegistered
    unfold registered at isRegistered
    cases has : (swept.slots id).handle with
    | none =>
      rw [has] at isRegistered
      cases isRegistered
    | some handle =>
      rw [has] at isRegistered
      unfold onHandle
      rw [has]
      have goes := @handleStreamFrame_goes ⟨handle, (swept.slots id).out, env.replies⟩ _ _
        swept.limits _ _ isRegistered front (frameSafe handle has isRegistered)
      unfold Turn.slot at goes
      dsimp only at goes
      rw [← has] at goes
      exact serves_setSlot goes
  · rename_i notRegistered
    have free : registered (swept.slots id) = false := Bool.eq_false_iff.mpr notRegistered
    cases frame with
    | streamOpen windowBytes windowFrames gateway =>
      exact handleOpen_serves front free (safe.opens _ _ _ rfl)
    | _ =>
      refine serves_same ⟨.single (.ignored front ?_), fun rests => rests⟩
      unfold registered at free
      cases has : (swept.slots id).handle with
      | none => trivial
      | some handle =>
        rw [has] at free
        exact .inl free

/-! ### Systems -/

/-- What a watch asks of a step; the rest of what happens is free. -/
def StepSafe (watch : Watch) (system : System) (side : Side) : Op → Prop
  | .openStream _ _ _ _ => True
  | .openGatewayStream _ _ _ _ _ _ _ _ _ => True
  | .asyncReadSome id size deadline replies =>
    ∀ handle, ((system side).slots id).handle = some handle →
      watch.reads ∧ (watch.refusals ∨ ∀ reply ∈ replies, reply = none) ∧
      (size ≠ 0 → handle.state ≠ .reset →
        DispatchSafe watch.update (handle.recv.reads.length + 1)
          { handle := pushRead { size := size, deadline := deadline } handle
            out := ((system side).slots id).out
            replies := replies }) ∧
      handle.RemoteEnds watch
  | .asyncWrite id _ _ replies sweep =>
    SweepSafe watch sweep ∧ ∀ handle, ((system side).slots id).handle = some handle →
      (handle.recv.reads = [] ∨ handle.recv.chunks = []) ∧
      (handle.send.finSent = false → NoFinAfter handle.send.writes) ∧
      (watch.refusals ∨ ∀ reply ∈ replies, reply = none)
  | .shutdownWrite id replies =>
    ∀ handle, ((system side).slots id).handle = some handle →
      (handle.recv.reads = [] ∨ handle.recv.chunks = []) ∧
      (watch.finRefusals ∨ ∀ reply ∈ replies, reply = none) ∧
      watch.finish handle.localTerminal handle.recv.reads []
  | .reset _ _ replies => watch.refusals ∨ ∀ reply ∈ replies, reply = none
  | .checkDeadlines sweep => SweepSafe watch sweep
  | .failAll _ => watch.losses
  | .deliver id _ sweep env =>
    ∀ frame rest, ((system side.other).slots id).out = frame :: rest →
      ArrivalSafe watch (system side) id frame sweep env

theorem Side.other_ne (side : Side) : side.other ≠ side := by
  cases side <;> decide

theorem Side.eq_other {other : Side} (differ : other ≠ side) : other = side.other := by
  cases other <;> cases side <;> first | rfl | exact absurd rfl differ

theorem Side.other_other : side.other.other = side := by
  cases side <;> rfl

theorem fresh_slots (fresh : system.fresh id = true) : (system side).slots id = {} := by
  unfold System.fresh at fresh
  simp only [Bool.and_eq_true, decide_eq_true_eq] at fresh
  cases side with
  | left => exact fresh.1
  | right => exact fresh.2

/-- What a step does to the acting side and to the frames under way from the other one. -/
structure StepGoes (watch : Watch) (system : System) (side : Side) (after : System) : Prop where
  limits : ∀ other, (after other).limits = (system other).limits
  goes : ∀ id, ∃ rest,
    (after side.other).slots id = { (system side.other).slots id with out := rest } ∧
      Goes (system side).limits watch ((system side.other).slots id) rest
        ((system side).slots id) ((after side).slots id)

theorem step_goes (safe : StepSafe watch system side op) :
    StepGoes watch system side (system.step side op) := by
  have acts {service : ByteStreamService}
      (moves : Moves watch (system side) (system side.other).slots service) :
      StepGoes watch system side (update system side service) := by
    refine ⟨fun other => ?_, fun id => ⟨((system side.other).slots id).out, ?_, ?_⟩⟩
    · by_cases same : other = side
      · rw [same, update_self]
        exact moves.limits
      · rw [update_of_ne same]
    · rw [update_of_ne side.other_ne]
    · rw [update_self]
      exact moves.goes id
  have stays : StepGoes watch system side system := ⟨fun _ => rfl, fun id => ⟨_, rfl, .refl⟩⟩
  cases op with
  | openStream opened windowBytes windowFrames reply =>
    unfold System.step
    dsimp only
    split
    · rename_i fresh
      exact acts (Serves.moves (openStream_serves (fresh_slots fresh) windowBytes.toNat_lt
        windowFrames.toNat_lt (fresh_slots fresh)))
    · exact stays
  | openGatewayStream opened windowBytes windowFrames dialDeadline onConnected target negotiated
      channel reply =>
    unfold System.step
    dsimp only
    split
    · rename_i fresh
      exact acts (Serves.moves (openGatewayStream_serves (fresh_slots fresh) windowBytes.toNat_lt
        windowFrames.toNat_lt (fresh_slots fresh)))
    · exact stays
  | asyncReadSome stream size deadline replies =>
    refine acts (onHandle_moves fun handle has => ?_)
    obtain ⟨allowed, calm, dispatch, ending⟩ := safe handle has
    exact ⟨asyncReadSome_actions size deadline ⟨handle, _, replies⟩ allowed calm dispatch ending,
      idle_asyncReadSome ⟨handle, _, replies⟩ size deadline⟩
  | asyncWrite stream data deadline replies sweep =>
    obtain ⟨sweepSafe, safe⟩ := safe
    refine acts (.trans (onHandle_moves fun handle has => ?_) (sweepDeadlines_moves sweepSafe))
    obtain ⟨idle, noFin, calm⟩ := safe handle has
    exact ⟨asyncWrite_actions data deadline ⟨handle, _, replies⟩ idle noFin calm, fun idle =>
      idle.actions _ (asyncWrite_actions data deadline ⟨handle, _, replies⟩ idle noFin
        (.inl trivial))⟩
  | shutdownWrite stream replies =>
    refine acts (@onHandle_moves _ _ _ _ _ (fun turn => (shutdownWrite turn).2)
      fun handle has => ?_)
    obtain ⟨idle, finCalm, ending⟩ := safe handle has
    exact ⟨shutdownWrite_actions ⟨handle, _, replies⟩ idle finCalm ending, fun idle =>
      idle.actions (system side).limits (shutdownWrite_actions ⟨handle, _, replies⟩ idle
        (.inl trivial) trivial)⟩
  | reset stream reason replies =>
    exact acts (onHandle_moves fun handle _ =>
      ⟨resetStream_actions reason ⟨handle, _, replies⟩ safe, fun idle =>
        idle.actions (system side).limits (resetStream_actions reason ⟨handle, _, replies⟩
          (.inl trivial))⟩)
  | checkDeadlines sweep => exact acts (sweepDeadlines_moves safe)
  | failAll error => exact acts (failAll_moves safe)
  | deliver stream channelId sweep env =>
    unfold System.step
    dsimp only
    cases front : ((system side.other).slots stream).out with
    | nil => exact stays
    | cons frame rest =>
      dsimp only
      have swept : Moves watch (system side) (system side.other).slots _ :=
        sweepDeadlines_moves (safe frame rest front).sweeps
      have serves : Serves watch _ stream _ rest
          ((system side).admitFrame stream channelId frame sweep env) :=
        admitFrame_serves front (safe frame rest front)
      refine ⟨fun other => ?_, fun id => ?_⟩
      · by_cases same : other = side
        · rw [same, update_self]
          exact serves.limits
        · rw [update_of_ne same]
          by_cases same : other = side.other
          · rw [same, update_self]
            rfl
          · rw [update_of_ne same]
      · rw [update_self, update_of_ne side.other_ne, update_self]
        by_cases same : id = stream
        · rw [same]
          exact ⟨rest, update_self _ _ _, (swept.goes stream).trans serves.own⟩
        · rw [serves.others id same]
          exact ⟨_, update_of_ne same _ _, swept.goes id⟩

/-! ### Runs -/

/-- States that runs of allowed steps reach from two attached services. -/
abbrev System.Run (allowed : System → Side × Op → Prop) : System → Prop :=
  Foundation.Machine.Reaches (fun system (event : Side × Op) => system.step event.1 event.2)
    System.Initial allowed

/-- A property of a stream's two ends that whole calls keep is kept by safe steps. -/
theorem step_keeps {holds : Slot → Slot → Prop} (safe : StepSafe watch system side op)
    (symm : ∀ {own peer}, holds own peer → holds peer own)
    (keep : ∀ {own peer own' rest}, holds own peer →
      Goes (system side).limits watch peer rest own own' → holds own' { peer with out := rest })
    (before : ∀ side id, holds ((system side).slots id) ((system side.other).slots id))
    (other : Side) (id : StreamId) :
    holds ((system.step side op other).slots id) ((system.step side op other.other).slots id) := by
  obtain ⟨rest, popped, goes⟩ := (step_goes safe).goes id
  have moved := keep (before side id) goes
  rw [← popped] at moved
  by_cases same : other = side
  · rw [same]
    exact moved
  rw [Side.eq_other same, Side.other_other]
  exact symm moved

theorem Goes.keeps {holds : Slot → Slot → Prop} {own own' : Slot}
    (goes : Goes limits watch peer rest own own')
    (keep : ∀ {own peer own' peer'}, holds own peer →
      LinkStep limits watch (own, peer) (own', peer') → holds own' peer')
    (before : holds own peer) : holds own' { peer with out := rest } := by
  have kept : ∀ pair, LinkSteps limits watch (own, peer) pair → holds pair.1 pair.2 := by
    intro pair steps
    induction steps with
    | refl => exact before
    | tail _ step kept => exact keep kept step
  exact kept _ goes.links

/-! ### A small system -/

def twoServices : System := fun _ => { limits := {}, channelId := some 1 }

theorem twoServices_initial : System.Initial twoServices :=
  ⟨fun _ => rfl, fun _ => rfl, fun _ => rfl, fun _ _ => rfl⟩

def streamOne : StreamId := ⟨List.replicate 15 0 ++ [1], rfl, rfl⟩

/-- The next frame of the stream arrives; nothing has a deadline, nothing is refused. -/
def arrival : Op := .deliver streamOne 1 { now := 0 } {}

def writing (data : List UInt8) : Op := .asyncWrite streamOne data none [] { now := 0 }

def reading (size : Nat) : Op := .asyncReadSome streamOne size none []

variable (events : List (Side × Op))

def afterEvents : System :=
  events.foldl (fun system event => system.step event.1 event.2) twoServices

/-- One end of the sample stream after a list of events. -/
def slotAfter (side : Side) : Slot := (afterEvents events side).slots streamOne

abbrev EventsAllowed (allowed : System → Side × Op → Prop) (events : List (Side × Op)) : Prop :=
  Foundation.Machine.EachAllowed (fun system (event : Side × Op) => system.step event.1 event.2)
    allowed twoServices events

theorem run_afterEvents {events : List (Side × Op)} (each : EventsAllowed allowed events) :
    System.Run allowed (afterEvents events) :=
  Foundation.Machine.Reaches.foldl (.start twoServices_initial) each

theorem run_events : System.Run (fun _ _ => True) (afterEvents events) :=
  run_afterEvents (Foundation.Machine.eachAllowed_true _ events)

end Heyaki
