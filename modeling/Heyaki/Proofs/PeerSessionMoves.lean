/-
Purpose: what the calls of a session and its pump can do.

The log of a session is a run of a small automaton: its entries change the state
as `follow` says.  `Does legal` says that a function appends entries that are
legal in the states they find; `Calm` describes every function that neither
authorizes the session nor hands a frame to a handler.  The functions are walked
once, for every relation that the small changes they are made of belong to.
-/
import Heyaki.Foundation.Machine
import Heyaki.Proofs.SessionChannels
import Heyaki.Client.PeerSession

namespace Heyaki.PeerSession

variable {channelId : UInt32}

open Foundation
open Foundation.Machine (EachAllowed)

variable {session after : PeerSession} {entry : SessionRecord}

/-! ### The automaton of the log -/

def follow (state : PeerSessionState) : SessionRecord → PeerSessionState
  | .state next => next
  | _ => state

/-- Entries were appended, each legal in the state it found, and the state is the
one they lead to. -/
def Does (legal : PeerSessionState → SessionRecord → Prop) (session after : PeerSession) : Prop :=
  ∃ records, after.log = session.log ++ records ∧
    after.state = records.foldl follow session.state ∧
    EachAllowed follow legal session.state records

variable {legal : PeerSessionState → SessionRecord → Prop} {first second third : PeerSession}

theorem does_of_same (log : after.log = session.log) (state : after.state = session.state) :
    Does legal session after :=
  ⟨[], by rw [log, List.append_nil], state, trivial⟩

theorem Does.trans (one : Does legal first second)
    (two : Does legal second third) : Does legal first third := by
  obtain ⟨records, log, state, each⟩ := one
  obtain ⟨more, moreLog, moreState, moreEach⟩ := two
  refine ⟨records ++ more, ?_, ?_, ?_⟩
  · rw [moreLog, log, List.append_assoc]
  · rw [moreState, state, List.foldl_append]
  · rw [state] at moreEach
    exact each.append moreEach

theorem does_record (ok : legal session.state entry)
    (stays : follow session.state entry = session.state) :
    Does legal session (session.record entry) :=
  ⟨[entry], rfl, stays.symm, ok, trivial⟩

/-! ### Calm functions -/

/-- Entries of functions that neither authorize nor deliver nor ask the pairing
service: the state is only set to closed, or to active where it was authenticated. -/
def CalmRecord (state : PeerSessionState) : SessionRecord → Prop
  | .state next => next = .closed ∨ (next = .active ∧ state = .authenticated)
  | .delivered .. | .admitted .. | .evaluated .. | .presented .. => False
  | _ => True

structure Calm (session after : PeerSession) : Prop where
  config : after.config = session.config
  admission : after.admission = session.admission
  basic : after.basicCommunication = session.basicCommunication
  authorizedScopes : after.authorizedScopes = session.authorizedScopes
  policyScopes : after.policyScopes = session.policyScopes
  does : Does CalmRecord session after
  /-- A handler that was not there before is in the log. -/
  handlers : ∀ {channel : Nat} {handler : ChannelHandler},
    after.channelHandlers.find? channel = some handler →
      session.channelHandlers.find? channel = some handler ∨ .opened channel handler ∈ after.log

/-- What calmness is about, but for new entries. -/
def watched (session : PeerSession) :=
  (session.config, session.admission, session.basicCommunication, session.authorizedScopes,
    session.policyScopes, session.log, session.state, session.channelHandlers)

theorem calm_of_same (same : watched after = watched session) : Calm session after := by
  simp only [watched, Prod.mk.injEq] at same
  obtain ⟨config, admission, basic, authorizedScopes, policyScopes, log, state, handlers⟩ := same
  exact ⟨config, admission, basic, authorizedScopes, policyScopes, does_of_same log state,
    fun found => .inl (handlers ▸ found)⟩

theorem Calm.refl (session : PeerSession) : Calm session session := calm_of_same rfl

theorem Calm.trans (one : Calm first second) (two : Calm second third) : Calm first third where
  config := two.config.trans one.config
  admission := two.admission.trans one.admission
  basic := two.basic.trans one.basic
  authorizedScopes := two.authorizedScopes.trans one.authorizedScopes
  policyScopes := two.policyScopes.trans one.policyScopes
  does := one.does.trans two.does
  handlers found := by
    cases two.handlers found with
    | inl earlier =>
      obtain ⟨records, log, -, -⟩ := two.does
      exact (one.handlers earlier).imp_right fun member => log ▸ List.mem_append_left records member
    | inr logged => exact .inr logged

theorem calm_record (ok : CalmRecord session.state entry)
    (stays : follow session.state entry = session.state) :
    Calm session (session.record entry) :=
  ⟨rfl, rfl, rfl, rfl, rfl, does_record ok stays, .inl⟩

theorem calm_registerHandler (session : PeerSession) (channelId : UInt32)
    (handler : ChannelHandler) : Calm session (session.registerHandler channelId handler) := by
  unfold registerHandler
  dsimp only
  split
  · exact calm_record trivial rfl
  refine ⟨rfl, rfl, rfl, rfl, rfl, ⟨[.opened channelId.toNat handler], rfl, rfl, trivial, trivial⟩,
    fun {channel other} found => ?_⟩
  rcases SortedMap.find?_of_insert found with ⟨rfl, rfl⟩ | ⟨-, old⟩
  · exact .inr (List.mem_append_right _ (.head _))
  · exact .inl old

theorem calm_closeBusinessChannel (session : PeerSession) (channelId : UInt32) :
    Calm session (session.closeBusinessChannel channelId) := by
  refine ⟨rfl, rfl, rfl, rfl, rfl, does_of_same rfl rfl, fun {channel handler} found => .inl ?_⟩
  exact (SortedMap.find?_of_erase found).2

/-! ### Walks -/

/-- An entry about neither the state nor the frames of the session. -/
def Plain : SessionRecord → Prop
  | .state .. | .delivered .. | .admitted .. | .evaluated .. | .presented .. => False
  | .emitted .. | .sent .. => False
  | _ => True

/-- The small changes that the functions below are made of. -/
structure Walk (relates : PeerSession → PeerSession → Prop) : Prop where
  trans : ∀ {first second third}, relates first second → relates second third → relates first third
  config : ∀ {session after}, relates session after → after.config = session.config
  same : ∀ {session after : PeerSession}, Calm session after → after.log = session.log →
    after.channels = session.channels → relates session after
  closed : ∀ session, relates session (session.setState .closed)
  active : ∀ {session : PeerSession}, session.state = .authenticated →
    relates session (session.setState .active)
  record : ∀ {session entry}, Plain entry → relates session (session.record entry)
  fewer : ∀ {session : PeerSession} {channels : SessionChannelManager},
    (∀ klass, (channels.queues klass).Sublist (session.channels.queues klass)) →
      relates session { session with channels := channels }
  returned : ∀ {session : PeerSession} {queued channels},
    session.channels.nextToSend = some (queued, channels) →
      relates session { session with channels := channels.returnToSend queued }
  sent : ∀ {session : PeerSession} {queued channels physical},
    session.channels.nextToSend = some (queued, channels) →
      relates session ({ session with channels := channels }.record (.sent physical queued))
  control : ∀ {session : PeerSession} {klass frame receipt channels},
    session.channels.enqueue 0 klass frame = (.ok receipt, channels) →
      relates session { session with channels := channels }
  opened : ∀ session channelId handler, relates session (session.registerHandler channelId handler)
  dropped : ∀ session channelId, relates session (session.closeBusinessChannel channelId)

/-- The scheduler is not part of what calmness is about. -/
theorem walk_calm : Walk Calm where
  trans := Calm.trans
  config := Calm.config
  same calm _ _ := calm
  closed _ := ⟨rfl, rfl, rfl, rfl, rfl, ⟨[_], rfl, rfl, .inl rfl, trivial⟩, .inl⟩
  active state := ⟨rfl, rfl, rfl, rfl, rfl, ⟨[_], rfl, rfl, .inr ⟨rfl, state⟩, trivial⟩,
    .inl⟩
  record {_ entry} plain := by
    cases entry with
    | state | delivered | admitted | evaluated | presented | emitted | sent => exact plain.elim
    | _ => exact calm_record trivial rfl
  fewer _ := calm_of_same rfl
  returned _ := calm_of_same rfl
  sent _ := ⟨rfl, rfl, rfl, rfl, rfl, ⟨[_], rfl, rfl, trivial, trivial⟩, .inl⟩
  control _ := calm_of_same rfl
  opened := calm_registerHandler
  dropped := calm_closeBusinessChannel

namespace Walk

variable {domain : ChannelDomain} {type : FrameType} {env : SessionEnv}
  {relates : PeerSession → PeerSession → Prop} (walk : Walk relates)

include walk

theorem unchanged (same : watched after = watched session)
    (channels : after.channels = session.channels) : relates session after :=
  walk.same (calm_of_same same) (congrArg (·.2.2.2.2.2.1) same) channels

theorem refl (session : PeerSession) : relates session session := walk.unchanged rfl rfl

theorem fail (session : PeerSession) (error : Error) : relates session (session.fail error) := by
  have noted : relates session { session with lastError := some error } := walk.unchanged rfl rfl
  exact walk.trans noted (walk.trans (walk.closed _) (walk.record trivial))

theorem close (reason : CloseReason) : relates session (session.close reason) := by
  unfold PeerSession.close
  split
  · exact walk.refl session
  · exact walk.trans (walk.closed session) (walk.record trivial)

theorem activate (session : PeerSession) : relates session session.activate := by
  unfold PeerSession.activate
  split
  · exact walk.active ‹_›
  · exact walk.refl session

/-! ### The pump -/

theorem pumpRounds (rounds : Nat) (answers : List (Except Error Unit)) (session : PeerSession) :
    relates session (session.pumpRounds rounds answers) := by
  induction rounds generalizing answers session with
  | zero => exact walk.refl session
  | succ rounds ih =>
    unfold PeerSession.pumpRounds
    split
    · exact walk.refl session
    rename_i queued channels next
    have dropped := walk.fewer (SessionChannelManager.nextToSend_closeChannel_sublist next)
    split
    · exact walk.trans dropped (ih _ _)
    · exact walk.returned next
    split
    · exact walk.trans dropped (walk.fail _ _)
    split
    · exact walk.trans (walk.sent next) (ih _ _)
    · split
      · exact walk.returned next
      · exact walk.trans dropped (walk.fail _ _)
    · exact walk.returned next

theorem pump (env : CallEnv) : relates session (session.pump env) := walk.pumpRounds _ _ session

theorem enqueueControlFrame (session : PeerSession) (env : CallEnv) (type : FrameType)
    (payload : List UInt8) : relates session (session.enqueueControlFrame env type payload).2 := by
  unfold PeerSession.enqueueControlFrame
  split
  · exact walk.refl session
  dsimp only
  split
  · exact walk.refl session
  split
  · rename_i refused
    exact walk.fewer (SessionChannelManager.enqueue_refused refused)
  · rename_i admitted
    exact walk.trans (walk.control admitted) (walk.pump env)

theorem ensurePhysicalChannel (session : PeerSession) (domain : ChannelDomain) :
    relates session (session.ensurePhysicalChannel domain) := by
  have opening : relates session { session with
      openingPhysicalChannels := Function.update session.openingPhysicalChannels domain true } :=
    walk.unchanged rfl rfl
  unfold PeerSession.ensurePhysicalChannel
  split_ifs
  · exact walk.refl session
  · exact walk.refl session
  · exact walk.refl session
  · exact walk.trans opening (walk.record trivial)

/-! ### Calls on the control channel -/

/-- Most calls send one control frame and then note something of their own. -/
theorem after_enqueue {env : CallEnv} {type : FrameType} {payload : List UInt8}
    {result : Except Error Unit}
    (sent : session.enqueueControlFrame env type payload = (result, after)) :
    relates session after := by
  have related := walk.enqueueControlFrame session env type payload
  rw [sent] at related
  exact related

theorem sendHello (env : CallEnv) : relates session (session.sendHello env).2 := by
  unfold PeerSession.sendHello
  split
  · exact walk.refl session
  split
  · rename_i sent
    exact walk.after_enqueue sent
  · rename_i sent
    apply walk.trans (walk.after_enqueue sent)
    exact walk.unchanged rfl rfl

theorem sendPing (env : CallEnv) (pingId : UInt64) :
    relates session (session.sendPing env pingId).2 := by
  unfold PeerSession.sendPing
  split
  · exact walk.refl session
  split
  · rename_i sent
    exact walk.after_enqueue sent
  · rename_i sent
    apply walk.trans (walk.after_enqueue sent)
    exact walk.unchanged rfl rfl

theorem sendRestartFrame (env : CallEnv) (payload : List UInt8) :
    relates session (session.sendRestartFrame env type payload).2 := by
  unfold PeerSession.sendRestartFrame
  split_ifs
  · exact walk.refl session
  · exact walk.refl session
  · exact walk.refl session
  · exact walk.refl session
  · exact walk.enqueueControlFrame session env type payload

theorem submitPairing (env : CallEnv) (capability : Capability) (absent : String)
    (requestId : RequestId) (scopes : List (List UInt8)) (encoded : Except Error (List UInt8)) :
    relates session
      (session.submitPairing env capability absent type requestId scopes encoded).2 := by
  unfold PeerSession.submitPairing
  split
  · exact walk.refl session
  split
  · exact walk.refl session
  split
  · exact walk.refl session
  split
  · exact walk.refl session
  split
  · exact walk.refl session
  split
  · rename_i sent
    exact walk.after_enqueue sent
  · rename_i sent
    apply walk.trans (walk.after_enqueue sent)
    exact walk.unchanged rfl rfl

theorem sendPairingResult (env : CallEnv) (result : PairingResultBody) :
    relates session (session.sendPairingResult env result).2 := by
  unfold PeerSession.sendPairingResult
  split
  · exact walk.refl session
  · split
    · exact walk.refl session
    · exact walk.enqueueControlFrame session env .pairingResult _

/-! ### Logical channels -/

theorem queues {channels : SessionChannelManager} (same : channels.queues = session.channels.queues) :
    relates session { session with channels := channels } :=
  walk.fewer fun _ => same ▸ .refl _

theorem openBusinessChannel (policy : QueueFullPolicy) (frames bytes token : Nat) :
    relates session (session.openBusinessChannel domain policy frames bytes token).2 := by
  have same := session.channels.queues_allocateChannel session.config.initiator domain policy
    frames bytes
  unfold PeerSession.openBusinessChannel
  split
  · exact walk.refl session
  split
  · exact walk.refl session
  split
  · exact walk.refl session
  split
  · rename_i allocated
    rw [allocated] at same
    exact walk.queues same
  · rename_i allocated
    rw [allocated] at same
    apply walk.trans _ (walk.activate _)
    apply walk.trans _ (walk.ensurePhysicalChannel _ domain)
    exact walk.trans (walk.queues same) (walk.opened _ _ _)

theorem failBusinessChannel (channelId : UInt32) :
    relates session (session.failBusinessChannel channelId) := by
  have closed := walk.dropped session channelId
  unfold PeerSession.failBusinessChannel
  dsimp only
  split
  · exact closed
  split
  · exact closed
  · refine walk.trans ?_ (walk.record trivial)
    apply walk.trans closed
    exact walk.unchanged rfl rfl

theorem adoptBusinessChannel (channelId : UInt32) (policy : QueueFullPolicy)
    (frames bytes token : Nat) :
    relates session
      (session.adoptBusinessChannel channelId domain policy frames bytes token).2 := by
  have same := session.channels.queues_openChannel channelId domain policy frames bytes
  unfold PeerSession.adoptBusinessChannel
  split
  · exact walk.refl session
  split
  · rename_i opened
    rw [opened] at same
    exact walk.queues same
  · rename_i opened
    rw [opened] at same
    apply walk.trans _ (walk.ensurePhysicalChannel _ domain)
    exact walk.trans (walk.queues same) (walk.opened _ _ _)

/-! ### Local calls -/

/-- A frame that a service sends is the one call that is more than a walk. -/
theorem call (env : CallEnv) (call : LocalCall)
    (frames : ∀ channelId klass frame, call = .sendFrame channelId klass frame →
      relates session (session.sendFrame env channelId klass frame).2) :
    relates session (session.call env call) := by
  cases call with
  | sendPing pingId => exact walk.sendPing env pingId
  | sendRestartFrame type payload => exact walk.sendRestartFrame env payload
  | setRestartHandler | setDomainHandler =>
    exact walk.unchanged rfl rfl
  | submitPairingRequest | submitPairingApprovalRequest => exact walk.submitPairing ..
  | sendPairingResult result => exact walk.sendPairingResult env result
  | openBusinessChannel => exact walk.openBusinessChannel ..
  | closeBusinessChannel channelId => exact walk.dropped session channelId
  | failBusinessChannel channelId => exact walk.failBusinessChannel channelId
  | adoptBusinessChannel => exact walk.adoptBusinessChannel ..
  | sendFrame channelId klass frame => exact frames channelId klass frame rfl
  | pump => exact walk.pump env
  | close reason => exact walk.close reason

/-! ### Handlers -/

theorem denyPairing (authorizedPeer : Bool) (result : PairingResultBody) (error : Error) :
    relates session (session.denyPairing env authorizedPeer result error) := by
  unfold PeerSession.denyPairing
  cases encodePairingResult result with
  | error _ =>
    split_ifs
    · exact walk.refl session
    · exact walk.fail session error
  | ok payload =>
    have answered := walk.enqueueControlFrame session env.toCallEnv .pairingResult payload
    split_ifs
    · exact answered
    · exact walk.trans answered (walk.fail _ error)

variable (frame : Frame)

theorem handlePairingApprovalRequest :
    relates session (session.handlePairingApprovalRequest env frame) := by
  unfold PeerSession.handlePairingApprovalRequest
  split
  · exact walk.fail session _
  dsimp only
  split
  · exact walk.refl session
  split
  · split
    · exact walk.refl session
    · exact walk.fail session _
  · split
    · exact walk.denyPairing ..
    split
    · exact walk.denyPairing ..
    · split
      · exact walk.refl session
      · exact walk.denyPairing ..

theorem handleRestartFrame : relates session (session.handleRestartFrame frame) := by
  unfold PeerSession.handleRestartFrame
  split_ifs
  · exact walk.fail session _
  · exact walk.refl session
  · exact walk.record trivial
  · exact walk.refl session

theorem handlePing : relates session (session.handlePing env frame) := by
  unfold PeerSession.handlePing
  split
  · split
    · rename_i sent
      exact walk.trans (walk.after_enqueue sent) (walk.fail _ _)
    · rename_i sent
      exact walk.after_enqueue sent
  · exact walk.refl session

theorem handlePong : relates session (session.handlePong frame) := by
  unfold PeerSession.handlePong
  split
  · exact walk.unchanged rfl rfl
  · exact walk.refl session

theorem noteBusinessViolation (channel : TransportChannel) :
    relates session (session.noteBusinessViolation channel) := by
  have counted : relates session
      { session with businessViolations := session.businessViolations + 1 } :=
    walk.unchanged rfl rfl
  unfold PeerSession.noteBusinessViolation
  dsimp only
  split
  · exact walk.trans counted (walk.fail _ _)
  · exact walk.trans counted (walk.record trivial)

theorem handleTransportState (state : TransportState) :
    relates session (session.handleTransportState env state) := by
  cases state with
  | progress =>
    unfold PeerSession.handleTransportState
    dsimp only
    split
    · exact walk.fail session _
    · exact walk.refl session
  | failed error =>
    have noted : relates session
        { session with lastError := error.orElse fun _ => session.lastError } :=
      walk.unchanged rfl rfl
    exact walk.trans noted (walk.closed _)
  | closed => exact walk.closed session

variable (result : Except Error TransportChannel)

theorem controlOpened : relates session (session.controlOpened env result) := by
  unfold PeerSession.controlOpened
  split
  · exact walk.fail session _
  rename_i channel
  have opened : relates session { session with
      control := some channel
      physicalChannels := Function.update session.physicalChannels .control (some channel) } :=
    walk.unchanged rfl rfl
  dsimp only
  split
  · exact walk.trans opened (walk.fail _ _)
  have sent := walk.trans opened (walk.sendHello env.toCallEnv)
  revert sent
  generalize PeerSession.sendHello _ env.toCallEnv = outcome
  obtain ⟨result, after⟩ := outcome
  intro sent
  cases result with
  | error error => exact walk.trans sent (walk.fail after error)
  | ok _ => exact sent

theorem physicalOpened : relates session (session.physicalOpened env domain result) := by
  have known : relates session { session with
      openingPhysicalChannels := Function.update session.openingPhysicalChannels domain false } :=
    walk.unchanged rfl rfl
  unfold PeerSession.physicalOpened
  split
  · exact walk.trans known (walk.fail _ _)
  · apply walk.trans _ (walk.pump env.toCallEnv)
    exact walk.unchanged rfl rfl

theorem adoptPhysicalChannel (channel : TransportChannel) :
    relates session (session.adoptPhysicalChannel env channel) := by
  unfold PeerSession.adoptPhysicalChannel
  split
  · exact walk.refl session
  split
  · exact walk.refl session
  · apply walk.trans _ (walk.pump env.toCallEnv)
    exact walk.unchanged rfl rfl

end Walk

/-! ### Calls are calm -/

theorem calm_sendFrame (env : CallEnv) (klass : FrameClass) (frame : Frame) :
    Calm session (session.sendFrame env channelId klass frame).2 := by
  unfold sendFrame
  dsimp only
  split
  · exact .refl session
  have ensured := walk_calm.ensurePhysicalChannel session
    ((frameTypeDomain frame.type).getD .message)
  split
  · exact ensured.trans (calm_of_same rfl)
  · apply Calm.trans _ (walk_calm.pump env)
    refine Calm.trans ?_ (calm_record trivial rfl)
    exact ensured.trans (calm_of_same rfl)

theorem calm_call (session : PeerSession) (env : CallEnv) (call : LocalCall) :
    Calm session (session.call env call) :=
  walk_calm.call env call fun channelId klass frame _ =>
    calm_sendFrame env klass frame

theorem calm_calls (calls : List (CallEnv × LocalCall)) (session : PeerSession) :
    Calm session (calls.foldl (fun session (env, call) => session.call env call) session) := by
  induction calls generalizing session with
  | nil => exact .refl session
  | cons entry calls ih => exact (calm_call session entry.1 entry.2).trans (ih _)

end Heyaki.PeerSession
