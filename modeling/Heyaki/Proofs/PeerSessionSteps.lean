/-
Purpose: everything that one event can do to a session.

`Path` lists the outcomes of an event: it is calm, it starts the session, it
accepts a hello, it authorizes or restricts the session, or it hands a frame to a
handler.  What else happens belongs to a relation that is closed under walks; `Move`
takes the calm one.  `Authority` lists what can authorize a session.  The invariants
of a session are proved from these cases, not from the handlers.
-/
import Heyaki.Proofs.PeerSessionMoves

namespace Heyaki.PeerSession

open Foundation
open SessionChannelManager (AllQueued)

variable {session : PeerSession} {env : CallEnv} {request : PairingRequestBody}

/-! ### Sends that do not fail -/

/-- Nothing that the pump can meet closes the session: the queued frames fit the
limits and the transport answers with success or back-pressure. -/
structure Undisturbed (session : PeerSession) (sends : List (Except Error Unit)) : Prop where
  encodes : AllQueued
    (fun queued => ∃ bytes, encodeFrame queued.frame session.config.limits = .ok bytes)
    session.channels
  sends : ∀ {error : Error}, .error error ∈ sends → error.code = .wouldBlock

theorem pumpRounds_state (rounds : Nat) (answers : List (Except Error Unit)) (session : PeerSession)
    (undisturbed : Undisturbed session answers) :
    (pumpRounds rounds answers session).state = session.state := by
  induction rounds generalizing answers session with
  | zero => rfl
  | succ rounds ih =>
    unfold pumpRounds
    split
    · rfl
    rename_i queued channels next
    have rest := undisturbed.encodes.next next
    split
    · apply ih answers
      exact ⟨fun klass _ member => rest.2 klass _
        ((channels.queues_closeChannel_sublist queued.channelId klass).subset member),
        undisturbed.sends⟩
    · rfl
    · split
      · rename_i refused
        obtain ⟨bytes, encoded⟩ := rest.1
        rw [refused] at encoded
        cases encoded
      · split
        · rename_i answers
          exact ih answers _ ⟨rest.2, fun member =>
            undisturbed.sends (List.mem_cons_of_mem _ member)⟩
        · exact if_pos (undisturbed.sends List.mem_cons_self) ▸ rfl
        · rfl

theorem enqueueControlFrame_state (undisturbed : Undisturbed session env.sends)
    (type : FrameType) (payload : List UInt8) :
    (session.enqueueControlFrame env type payload).2.state = session.state := by
  unfold enqueueControlFrame
  split
  · rfl
  dsimp only
  split
  · rfl
  rename_i bytes encoded
  have queued := undisturbed.encodes.enqueue 0 .control
    ⟨type.code, 0, 0, env.messageId, payload⟩ ⟨bytes, encoded⟩
  split
  · rfl
  · rename_i added
    rw [added] at queued
    exact pumpRounds_state _ _ _ ⟨queued, undisturbed.sends⟩

theorem sendHello_state (undisturbed : Undisturbed session env.sends) :
    (session.sendHello env).2.state = session.state := by
  unfold sendHello
  split
  · rfl
  rename_i payload _
  have kept := enqueueControlFrame_state undisturbed .sessionHello payload
  split
  all_goals
    rename_i sent
    rw [sent] at kept
    exact kept

/-! ### What an event can do -/

def received (session : PeerSession) : SessionEvent → Option (TransportChannel × Frame)
  | .message channel payload =>
    match parseFrame payload session.config.limits with
    | .parsed consumed frame => if consumed = payload.length then some (channel, frame) else none
    | _ => none
  | _ => none

def controlFrame (session : PeerSession) (event : SessionEvent) : Option Frame :=
  (session.received event).bind fun (channel, frame) =>
    if channel.kind = .control then some frame else none

def businessFrame (session : PeerSession) (event : SessionEvent) : Option Frame :=
  (session.received event).bind fun (channel, frame) =>
    if channel.kind = .control then none else some frame

def greet (session : PeerSession) (frame : Frame) : PeerSession :=
  { session with
    admission := (session.admission.admitHello frame.payload session.config.nowUnixMilliseconds).2 }

structure HelloAccepted (session : PeerSession) (frame : Frame) : Prop where
  type : frameType? frame.type = some .sessionHello
  first : session.admission.acceptedPayload = none
  accepted : (session.greet frame).admission.acceptedPayload = some frame.payload

/-- What authorizes a session, with the session at the moment of the verdict and the
scopes that it then holds for its peer. -/
inductive Authority (session : PeerSession) (env : SessionEnv) (frame : Frame) :
    PeerSession → List (List UInt8) → Prop
  | noAuthorizer (hello : HelloAccepted session frame)
      (absent : session.config.hasTrustAuthorizer = false) :
      Authority session env frame (session.greet frame) []
  | trusted {trust : SessionAuthorization} (hello : HelloAccepted session frame)
      (present : session.config.hasTrustAuthorizer = true)
      (verdict : env.authorize env.wallClock = .ok trust) (trusts : trust.trusted = true) :
      Authority session env frame (session.greet frame) trust.scopes
  | evaluated {request : PairingRequestBody} {result : PairingResultBody} {grant : SignedTrustGrant}
      (type : frameType? frame.type = some .pairingRequest)
      (restricted : session.state = .pairingRestricted)
      (parsed : parsePairingRequest frame.payload = .ok request)
      (present : session.config.hasPairingEvaluator = true)
      (verdict : env.evaluate request = .ok result) (status : result.status = .ok)
      (granted : result.grant = some grant) :
      Authority session env frame (session.record (.evaluated request)) grant.grantedScopes
  | accepted {pending : RequestId × PairingNonce} {result : PairingResultBody}
      {grant : SignedTrustGrant} (type : frameType? frame.type = some .pairingResult)
      (restricted : session.state = .pairingRestricted)
      (waiting : session.pendingPairing = some pending)
      (parsed : parsePairingResult frame.payload = .ok result)
      (present : session.config.hasPairingResultSink = true)
      (verdict : env.acceptResult result pending.1 pending.2 session.pendingPairingScopes = .ok ())
      (status : result.status = .ok) (granted : result.grant = some grant) :
      Authority session env frame
        (session.record (.presented result pending session.pendingPairingScopes))
        grant.grantedScopes

/-- A frame may be handed to a handler: the session is authorized, or the domain of
the frame is one of basic communication. -/
def Admits (session : PeerSession) (frame : Frame) : Prop :=
  session.authenticated = true ∨
    ∃ domain, frameTypeDomain frame.type = some domain ∧ session.basicDomainAllowed domain = true

/-- A send that handling the frame may make does not close the session. -/
def SendsPass (session : PeerSession) (env : SessionEnv) (frame : Frame) : Prop :=
  (frameType? frame.type = some .sessionHello ∧ session.hellosSent = 0) ∨
    frameType? frame.type = some .pairingRequest → Undisturbed session env.sends

def IsCall : SessionRecord → Prop
  | .evaluated .. | .presented .. => True
  | _ => False

/-- The session after an event, up to the changes of a relation. -/
inductive Path (relates : PeerSession → PeerSession → Prop) (session : PeerSession)
    (event : SessionEnv × SessionEvent) : PeerSession → Prop
  | calm {after : PeerSession} (calm : relates session after) : Path relates session event after
  | start {after : PeerSession} (fresh : session.state ≠ .closed)
      (calm : relates ({ session with started := true }.setState .authenticating) after) :
      Path relates session event after
  | hello {frame : Frame} {after : PeerSession}
      (received : session.controlFrame event.2 = some frame)
      (hello : HelloAccepted session frame) (calm : relates (session.greet frame) after) :
      Path relates session event after
  | asked {after : PeerSession} (entry : SessionRecord) (call : IsCall entry)
      (calm : relates (session.record entry) after) : Path relates session event after
  | authorized {frame : Frame} {start middle : PeerSession} {scopes : List (List UInt8)}
      (received : session.controlFrame event.2 = some frame)
      (authority : Authority session event.1 frame start scopes) (calm : relates start middle)
      (steady : SendsPass session event.1 frame → middle.state = session.state) :
      Path relates session event (middle.upgradeToAuthorized scopes)
  | restricted {frame : Frame} {middle : PeerSession} (basic : Bool)
      (received : session.controlFrame event.2 = some frame)
      (hello : HelloAccepted session frame) (calm : relates (session.greet frame) middle)
      (steady : SendsPass session event.1 frame → middle.state = session.state) :
      Path relates session event (middle.restrict event.1 basic)
  | delivered {frame : Frame} {handler : ChannelHandler}
      (received : session.businessFrame event.2 = some frame) (admits : Admits session frame)
      (known : unknownFrameAction frame = .process)
      (found : session.channelHandlers.find? frame.channelId.toNat = some handler) :
      Path relates session event (session.activate.record (.delivered handler frame))
  | admitted {frame : Frame} {domain : ChannelDomain} {after : PeerSession} (token : Nat)
      (received : session.businessFrame event.2 = some frame) (admits : Admits session frame)
      (typed : frameTypeDomain frame.type = some domain)
      (calm : relates (session.record (.admitted domain token frame)) after) :
      Path relates session event after

/-- The session after an event, up to calm changes. -/
abbrev Move : PeerSession → SessionEnv × SessionEvent → PeerSession → Prop := Path Calm

/-- The calls of the services during an event belong to the relation. -/
structure Served (relates : PeerSession → PeerSession → Prop) (session : PeerSession)
    (event : SessionEnv × SessionEvent) : Prop where
  handled : ∀ {frame : Frame} (domain : ChannelDomain) (token : Nat),
    session.businessFrame event.2 = some frame →
      relates (session.record (.admitted domain token frame))
        ((event.1.admitFrame frame).1.foldl (fun session (env, call) => session.call env call)
          (session.record (.admitted domain token frame)))
  called : ∀ {call : LocalCall}, event.2 = .call call →
    relates session (session.call event.1.toCallEnv call)

/-! ### States and entries of calm functions -/

theorem calmRecord_of_each {state : PeerSessionState} {records : List SessionRecord}
    (each : Machine.EachAllowed follow CalmRecord state records) :
    ∀ entry ∈ records, CalmRecord state entry := by
  induction records generalizing state with
  | nil => nofun
  | cons first records ih =>
    intro entry member
    cases member with
    | head => exact each.1
    | tail _ later =>
      have calm := ih each.2 entry later
      cases entry with
      | state next =>
        refine calm.imp_right fun active => ⟨active.1, ?_⟩
        cases first with
        | state first =>
          have reached : first = .authenticated := active.2
          rcases each.1 with closed | active
          · cases reached.symm.trans closed
          · cases reached.symm.trans active.1
        | _ => exact active.2
      | _ => exact calm

theorem Calm.records {after : PeerSession} (calm : Calm session after) :
    ∃ records, after.log = session.log ++ records ∧
      after.state = records.foldl follow session.state ∧
      ∀ entry ∈ records, CalmRecord session.state entry := by
  obtain ⟨records, log, state, each⟩ := calm.does
  exact ⟨records, log, state, calmRecord_of_each each⟩

def Appends (allowed : SessionRecord → Prop) (session after : PeerSession) : Prop :=
  ∃ records, after.log = session.log ++ records ∧ ∀ entry ∈ records, allowed entry

section Appends

variable {allowed : SessionRecord → Prop} {session middle after : PeerSession}

theorem appends_of_log (log : after.log = session.log) : Appends allowed session after :=
  ⟨[], by rw [log, List.append_nil], nofun⟩

theorem Appends.trans (first : Appends allowed session middle)
    (second : Appends allowed middle after) : Appends allowed session after := by
  obtain ⟨earlier, middleLog, earlierEach⟩ := first
  obtain ⟨records, log, each⟩ := second
  refine ⟨earlier ++ records, ?_, ?_⟩
  · rw [log, middleLog, List.append_assoc]
  · intro entry member
    rcases List.mem_append.mp member with old | new
    · exact earlierEach entry old
    · exact each entry new

theorem appends_record (entry : SessionRecord) (ok : allowed entry)
    (log : after.log = session.log ++ [entry]) : Appends allowed session after :=
  ⟨[entry], log, fun _ member => List.mem_singleton.mp member ▸ ok⟩

theorem Calm.appends (calm : Calm session after)
    (weaker : ∀ entry, CalmRecord session.state entry → allowed entry) :
    Appends allowed session after := by
  obtain ⟨records, log, -, each⟩ := calm.records
  exact ⟨records, log, fun entry member => weaker entry (each entry member)⟩

end Appends

theorem foldl_follow_cases {start : PeerSessionState} (records : List SessionRecord)
    (state : PeerSessionState) (calm : ∀ entry ∈ records, CalmRecord start entry)
    (before : state = start ∨ state = .closed ∨ (state = .active ∧ start = .authenticated)) :
    let after := records.foldl follow state
    after = start ∨ after = .closed ∨ (after = .active ∧ start = .authenticated) := by
  induction records generalizing state with
  | nil => exact before
  | cons entry records ih =>
    apply ih
    · intro later member
      exact calm later (List.mem_cons_of_mem entry member)
    · have first := calm entry List.mem_cons_self
      cases entry with
      | state next => exact .inr first
      | _ => exact before

/-- A calm function keeps the state, closes the session, or activates it. -/
theorem Calm.state_cases {after : PeerSession} (calm : Calm session after) :
    after.state = session.state ∨ after.state = .closed ∨
      (after.state = .active ∧ session.state = .authenticated) := by
  obtain ⟨records, -, state, each⟩ := calm.records
  rw [state]
  exact foldl_follow_cases records session.state each (.inl rfl)

/-! ### Frames of the session -/

theorem pairingAnswer_granted {env : SessionEnv}
    {grant : SignedTrustGrant} (granted : (pairingAnswer env request).grant = some grant)
    (status : (pairingAnswer env request).status = .ok) :
    ∃ result, env.evaluate request = .ok result ∧ result.status = .ok ∧
      result.grant = some grant := by
  unfold pairingAnswer at granted status
  cases verdict : env.evaluate request with
  | error error =>
    rw [verdict] at granted
    cases granted
  | ok result =>
    rw [verdict] at granted status
    exact ⟨result, rfl, status, granted⟩

namespace Walk

variable {relates : PeerSession → PeerSession → Prop} (walk : Walk relates)
  {event : SessionEnv × SessionEvent} {channel : TransportChannel} {frame : Frame}

include walk

section

variable (received : session.controlFrame event.2 = some frame) {ready : PeerSession}

include received

theorem path_authorizePeer {middle : PeerSession} (hello : HelloAccepted session frame)
    (calm : relates (session.greet frame) middle)
    (steady : SendsPass session event.1 frame → middle.state = session.state) :
    Path relates session event (middle.authorizePeer event.1) := by
  unfold authorizePeer
  have config : middle.config = (session.greet frame).config := walk.config calm
  split
  · rename_i absent
    rw [config, Bool.not_eq_true'] at absent
    exact .authorized received (.noAuthorizer hello absent) calm steady
  · rename_i present
    rw [config, Bool.not_eq_true, Bool.not_eq_false'] at present
    split
    · exact .hello received hello (walk.trans calm (walk.fail middle _))
    rename_i trust verdict
    split
    · rename_i trusts
      exact .authorized received (.trusted hello present verdict trusts) calm steady
    dsimp only
    split
    · exact .hello received hello (walk.trans calm (walk.fail middle _))
    · exact .restricted _ received hello calm steady

/-- The own hello goes out before the peer is authorized.  A send that fails here
closes the session and is not reported. -/
theorem path_sendHello (hello : HelloAccepted session frame)
    (calm : relates (session.greet frame) ready) (channels : ready.channels = session.channels)
    (state : ready.state = session.state) (first : session.hellosSent = 0) :
    Path relates session event (match ready.sendHello event.1.toCallEnv with
      | (.error error, session) => session.fail error
      | (.ok (), session) => session.authorizePeer event.1) := by
  have sent := walk.trans calm (walk.sendHello event.1.toCallEnv)
  have steady : SendsPass session event.1 frame →
      (ready.sendHello event.1.toCallEnv).2.state = session.state := by
    intro pass
    have undisturbed := pass (.inl ⟨hello.type, first⟩)
    rw [← state]
    apply sendHello_state
    exact ⟨by rw [channels, walk.config calm]; exact undisturbed.encodes, undisturbed.sends⟩
  revert sent steady
  generalize ready.sendHello event.1.toCallEnv = outcome
  obtain ⟨result, after⟩ := outcome
  intro sent steady
  cases result with
  | error error => exact .hello received hello (walk.trans sent (walk.fail after error))
  | ok _ => exact walk.path_authorizePeer received hello sent steady

theorem path_handleHello (type : frameType? frame.type = some .sessionHello) :
    Path relates session event (session.handleHello event.1 channel frame) := by
  have bound : relates session { session with
      control := some channel
      physicalChannels := Function.update session.physicalChannels .control (some channel) } :=
    walk.unchanged rfl rfl
  unfold handleHello
  dsimp only
  split
  · exact .calm (walk.trans bound (walk.fail _ _))
  rcases session.admission.admit_cases frame.payload session.config.nowUnixMilliseconds with
    ⟨negotiated, first, admitted, -⟩ | ⟨same, other⟩
  · -- the hello is accepted: the own one may have to be sent first
    have accepted : HelloAccepted session frame := ⟨type, first, by rw [greet, admitted]⟩
    rw [admitted]
    dsimp only
    rw [if_neg (not_not_intro rfl)]
    split
    · rename_i unsent
      apply walk.path_sendHello received accepted
      · rw [greet, admitted]
        exact walk.unchanged rfl rfl
      · rfl
      · rfl
      · exact unsent
    · apply walk.path_authorizePeer received accepted
      · rw [greet, admitted]
        exact walk.unchanged rfl rfl
      · exact fun _ => rfl
  · apply Path.calm
    revert same other
    generalize session.admission.admitHello frame.payload session.config.nowUnixMilliseconds = outcome
    obtain ⟨result, admission⟩ := outcome
    intro same other
    cases same
    cases result with
    | error error => exact walk.trans bound (walk.fail _ error)
    | ok outcome =>
      dsimp only
      rw [if_pos (other outcome rfl)]
      exact bound

theorem path_answerPairing
    {authorizedPeer : Bool} (type : frameType? frame.type = some .pairingRequest)
    (restricted : authorizedPeer = false → session.state = .pairingRestricted)
    (parsed : parsePairingRequest frame.payload = .ok request)
    (present : session.config.hasPairingEvaluator = true)
    (calm : relates (session.record (.evaluated request)) ready)
    (channels : ready.channels = session.channels) (state : ready.state = session.state) :
    Path relates session event
      (ready.answerPairing event.1 authorizedPeer (pairingAnswer event.1 request)) := by
  unfold answerPairing
  dsimp only
  have asked {after : PeerSession} (calm : relates (session.record (.evaluated request)) after) :
      Path relates session event after := .asked (.evaluated request) trivial calm
  have recorded (admission : PairingRequestAdmission) :
      relates (session.record (.evaluated request)) { ready with pairingAdmission := admission } :=
    walk.trans calm (walk.unchanged rfl rfl)
  split
  · exact asked (walk.trans (recorded _) (walk.fail _ _))
  rename_i admission _
  split
  · exact asked (walk.trans (recorded _) (walk.fail _ _))
  rename_i payload _
  have sent := walk.trans (recorded admission)
    (walk.enqueueControlFrame _ event.1.toCallEnv .pairingResult payload)
  have steady : SendsPass session event.1 frame →
      ({ ready with pairingAdmission := admission }.enqueueControlFrame event.1.toCallEnv
        .pairingResult payload).2.state = session.state := by
    intro pass
    have undisturbed := pass (.inr type)
    rw [← state]
    apply enqueueControlFrame_state
    refine ⟨?_, undisturbed.sends⟩
    have encodes := undisturbed.encodes
    rw [← channels] at encodes
    exact walk.config calm ▸ encodes
  revert sent steady
  generalize PeerSession.enqueueControlFrame _ event.1.toCallEnv .pairingResult payload = outcome
  obtain ⟨result, after⟩ := outcome
  intro sent steady
  cases result with
  | error error => exact asked (walk.trans sent (walk.fail after error))
  | ok _ =>
    dsimp only
    split
    · rename_i grant granted
      split
      · rename_i upgrade
        have alone : authorizedPeer = false := by simpa using upgrade.2
        obtain ⟨result, verdict, status, grants⟩ := pairingAnswer_granted granted upgrade.1
        apply Path.authorized received _ sent steady
        exact .evaluated type (restricted alone) parsed present verdict status grants
      · split
        · exact asked sent
        · exact asked (walk.trans sent (walk.fail after _))
    · split
      · exact asked sent
      · exact asked (walk.trans sent (walk.fail after _))

theorem path_handlePairingRequest (type : frameType? frame.type = some .pairingRequest) :
    Path relates session event (session.handlePairingRequest event.1 frame) := by
  have limited (admission : PairingRequestAdmission) :
      relates session { session with pairingAdmission := admission } :=
    walk.unchanged rfl rfl
  unfold handlePairingRequest
  split
  · exact .calm (walk.fail session _)
  rename_i gate
  have restricted : session.authenticated = false → session.state = .pairingRestricted := by
    intro alone
    by_contra other
    exact gate ⟨by rw [alone]; rfl, other⟩
  dsimp only
  split
  · split
    · exact .calm (walk.refl session)
    · exact .calm (walk.fail session _)
  · split
    · split
      · exact .calm (walk.refl session)
      · exact .calm (walk.fail session _)
    · rename_i request parsed
      split
      · exact .calm (walk.denyPairing ..)
      split
      · exact .calm (walk.trans (limited _) (walk.denyPairing ..))
      rename_i admission _
      split
      · split
        · exact .calm (walk.trans (limited _) (walk.fail _ _))
        apply Path.calm
        split
        · rename_i same
          exact walk.trans (walk.trans (limited _) (walk.after_enqueue same)) (walk.fail _ _)
        · rename_i same
          exact walk.trans (limited _) (walk.after_enqueue same)
      · split
        · exact .calm (walk.trans (limited _) (walk.denyPairing ..))
        rename_i present
        rw [Bool.not_eq_true, Bool.not_eq_false'] at present
        apply walk.path_answerPairing received type restricted parsed present
        · exact walk.unchanged rfl rfl
        · rfl
        · rfl

theorem path_handlePairingResult (type : frameType? frame.type = some .pairingResult) :
    Path relates session event (session.handlePairingResult event.1 frame) := by
  have settled : relates session { session with pendingPairing := none } := walk.unchanged rfl rfl
  unfold handlePairingResult
  split
  · split
    · exact .calm (walk.refl session)
    · exact .calm (walk.fail session _)
  · rename_i pending waiting
    split
    · exact .calm (walk.fail session _)
    rename_i gate
    split
    · exact .calm (walk.fail session _)
    rename_i result parsed
    split
    · exact .calm (walk.fail session _)
    split
    · rename_i grant status granted
      unfold acceptPairingResult
      split
      · exact .calm (walk.fail session _)
      rename_i present
      rw [Bool.not_eq_true, Bool.not_eq_false'] at present
      dsimp only
      split
      · exact .asked (.presented ..) trivial (walk.fail _ _)
      rename_i verdict
      split
      · rename_i alone
        have restricted : session.state = .pairingRestricted := by
          by_contra other
          exact gate ⟨other, alone⟩
        apply Path.authorized received
        · exact .accepted type restricted waiting parsed present verdict status granted
        · exact walk.unchanged rfl rfl
        · exact fun _ => rfl
      · exact .asked (.presented ..) trivial
          (walk.unchanged rfl rfl)
    · dsimp only
      split
      · exact .calm settled
      · exact .calm (walk.trans settled (walk.fail _ _))

theorem path_handleControlFrame :
    Path relates session event (session.handleControlFrame event.1 channel frame) := by
  unfold handleControlFrame
  split
  · exact walk.path_handleHello received ‹_›
  · exact walk.path_handlePairingRequest received ‹_›
  · exact walk.path_handlePairingResult received ‹_›
  · exact .calm (walk.handlePairingApprovalRequest frame)
  · exact .calm (walk.handleRestartFrame frame)
  · exact .calm (walk.handleRestartFrame frame)
  · exact .calm (walk.handleRestartFrame frame)
  · exact .calm (walk.handlePing frame)
  · exact .calm (walk.handlePong frame)
  · exact .calm (walk.close .peerClosed)
  · split
    · exact .calm (walk.refl session)
    · exact .calm (walk.fail session _)

/-! ### Business frames -/

end

section

variable (served : Served relates session event) (received : session.businessFrame event.2 = some frame)

include served received

theorem path_admitFrame (admits : Admits session frame) :
    Path relates session event (session.admitFrame event.1 channel frame) := by
  unfold admitFrame
  split
  · exact .calm (walk.refl session)
  rename_i domain typed
  split
  · exact .calm (walk.refl session)
  rename_i token _
  dsimp only
  apply Path.admitted token received admits typed
  have called := served.handled domain token received
  split
  · exact walk.trans called (walk.record trivial)
  · exact walk.trans called (walk.activate _)

theorem path_handleBusinessFrame :
    Path relates session event (session.handleBusinessFrame event.1 channel frame) := by
  unfold handleBusinessFrame
  split
  · exact .calm (walk.noteBusinessViolation channel)
  rename_i gate
  have admits : Admits session frame := by
    cases authenticated : session.authenticated with
    | true => exact .inl authenticated
    | false =>
      rw [authenticated, Bool.not_false, Bool.true_and, Bool.not_eq_true, Bool.not_eq_false',
        Option.any_eq_true] at gate
      exact .inr gate
  split
  · exact .calm (walk.trans (walk.dropped session frame.channelId)
      (walk.record trivial))
  · exact .calm (walk.refl session)
  rename_i known
  split
  · exact walk.path_admitFrame served received admits
  · exact .delivered received admits known ‹_›

end

theorem path_handleMessage (env : SessionEnv) (channel : TransportChannel) (payload : List UInt8)
    (served : Served relates session (env, .message channel payload)) :
    Path relates session (env, .message channel payload) (session.handleMessage env channel payload) := by
  have refused : relates session
      (if channel.kind = .control then
        session.fail (peerSessionError .protocol "control_frame_invalid")
      else session.noteBusinessViolation channel) := by
    split
    · exact walk.fail session _
    · exact walk.noteBusinessViolation channel
  unfold handleMessage
  split
  · rename_i consumed frame parsed
    split
    · rename_i whole
      have received : session.received (.message channel payload) = some (channel, frame) := by
        simp [received, parsed, whole]
      split
      · rename_i control
        apply walk.path_handleControlFrame
        simp [controlFrame, received, control]
      · rename_i business
        apply walk.path_handleBusinessFrame served
        simp [businessFrame, received, business]
    · exact .calm refused
  · exact .calm refused

theorem path_start (env : SessionEnv) : Path relates session (env, .start) session.start.2 := by
  unfold start
  split
  · exact .calm (walk.refl session)
  rename_i fresh
  apply Path.start (not_or.mp fresh).2
  dsimp only
  split
  · exact walk.record trivial
  · exact walk.refl _

/-- Everything an event does to a session, once its services are accounted for. -/
theorem path_step (served : Served relates session event) :
    Path relates session event (session.step event) := by
  obtain ⟨env, event⟩ := event
  cases event with
  | start => exact walk.path_start env
  | message channel payload => exact walk.path_handleMessage env channel payload served
  | transportState state => exact .calm (walk.handleTransportState state)
  | controlOpened result => exact .calm (walk.controlOpened result)
  | physicalOpened domain result => exact .calm (walk.physicalOpened result)
  | channelOpened channel => exact .calm (walk.adoptPhysicalChannel channel)
  | writable => exact .calm (walk.pump env.toCallEnv)
  | call call => exact .calm (served.called rfl)

end Walk

/-- Everything an event does to a session. -/
theorem move_step (session : PeerSession) (event : SessionEnv × SessionEvent) :
    Move session event (session.step event) :=
  walk_calm.path_step ⟨fun _ _ _ => calm_calls _ _, fun _ => calm_call session event.1.toCallEnv _⟩

end Heyaki.PeerSession
