/-
Purpose: which frames of a session reach a handler.

A handler sees a frame only after a hello of the peer was accepted, and only while
the session is authorized or the domain of the frame is one of basic
communication; the session is authorized only by what `Authority` lists.  The gate
does not look at the domain of the logical channel: a frame goes to the handler
registered for its channel id, whatever its type.

Main exports: `PeerSession.authorization_gate`, `PeerSession.channel_domain_kept`
-/
import Heyaki.Proofs.PeerSessionSteps

namespace Heyaki.PeerSession

open Foundation
open Foundation.Machine (EachAllowed Reaches)

variable {session start : PeerSession} {frame : Frame} {log records : List SessionRecord}
  {entry : SessionRecord} {scopes : List (List UInt8)}

/-- A session as `PeerSession::create` leaves it. -/
def Created (session : PeerSession) : Prop :=
  ∃ (config : PeerSessionConfig) (admission : SessionHelloAdmission) (budgets : ChannelBudgetConfig),
    admission.acceptedPayload = none ∧
      session = { config := config, admission := admission, channels := { config := budgets } }

/-! ### The entries of a step -/

/-- The event carries an authority for the session. -/
def Vouched (session : PeerSession) (event : SessionEnv × SessionEvent) : Prop :=
  ∃ frame start scopes, session.controlFrame event.2 = some frame ∧
    Authority session event.1 frame start scopes

/-- What an event can append to the log of a session. -/
def StepRecord (session : PeerSession) (event : SessionEnv × SessionEvent) : SessionRecord → Prop
  | .state next =>
    next = .authenticated ∨ next = .active → session.authenticated = true ∨ Vouched session event
  | .delivered _ frame | .admitted _ _ frame => Admits session frame
  | _ => True

section Step

variable {session after : PeerSession} {event : SessionEnv × SessionEvent}

theorem stepRecord_of_calm {state : PeerSessionState}
    (calm : CalmRecord state entry) (same : state = .authenticated → session.state = .authenticated) :
    StepRecord session event entry := by
  cases entry with
  | state next =>
    rintro (authenticated | active)
    · rcases calm with closed | active
      · cases authenticated.symm.trans closed
      · cases authenticated.symm.trans active.1
    · rcases calm with closed | active
      · cases active.symm.trans closed
      · left
        rw [authenticated, same active.2]
        rfl
  | delivered | admitted => exact calm.elim
  | _ => trivial

theorem Authority.appends {frame : Frame}
    (authority : Authority session event.1 frame start scopes) :
    Appends (StepRecord session event) session start := by
  cases authority with
  | noAuthorizer | trusted => exact appends_of_log rfl
  | evaluated => exact appends_record (.evaluated _) trivial rfl
  | accepted => exact appends_record (.presented ..) trivial rfl

theorem Move.appends (move : Move session event after) :
    Appends (StepRecord session event) session after := by
  have calmly {before middle : PeerSession} (calm : Calm before middle)
      (same : before.state = session.state) : Appends (StepRecord session event) before middle :=
    calm.appends fun _ ok => stepRecord_of_calm ok (same ▸ ·)
  cases move with
  | calm calm => exact calmly calm rfl
  | start _ calm =>
    apply Appends.trans _ (calm.appends fun _ ok => stepRecord_of_calm ok nofun)
    apply appends_record (.state .authenticating) _ rfl
    rintro (other | other) <;> cases other
  | hello _ _ calm =>
    apply Appends.trans _ (calmly calm rfl)
    exact appends_of_log rfl
  | asked entry call calm =>
    apply Appends.trans _ (calmly calm rfl)
    refine appends_record entry ?_ rfl
    cases entry with
    | evaluated | presented => trivial
    | _ => exact call.elim
  | authorized received authority calm _ =>
    apply authority.appends.trans
    apply (calmly calm (by cases authority <;> rfl)).trans
    apply appends_record (.state .authenticated) _ rfl
    exact fun _ => .inr ⟨_, _, _, received, authority⟩
  | @restricted frame _ basic received hello calm _ =>
    have greeted : Appends (StepRecord session event) session (session.greet frame) :=
      appends_of_log rfl
    apply (greeted.trans (calmly calm rfl)).trans
    apply appends_record (.state .pairingRestricted) _ rfl
    rintro (other | other) <;> cases other
  | delivered received admits known found =>
    apply (calmly (walk_calm.activate session) rfl).trans
    exact appends_record (.delivered _ _) admits rfl
  | admitted token received admits typed calm =>
    apply Appends.trans _ (calmly calm rfl)
    exact appends_record (.admitted _ token _) admits rfl

theorem Calm.authenticated {before : PeerSession} (calm : Calm before after)
    (authorized : after.authenticated = true) : before.authenticated = true := by
  unfold PeerSession.authenticated at authorized ⊢
  rcases calm.state_cases with kept | closed | ⟨active, earlier⟩
  · rwa [kept] at authorized
  · rw [closed] at authorized
    cases authorized
  · rw [earlier]
    rfl

/-- A session is authorized after a step only if it was before or the event vouches. -/
theorem Move.authenticated (move : Move session event after)
    (authorized : after.authenticated = true) :
    session.authenticated = true ∨ Vouched session event := by
  cases move with
  | calm calm | hello _ _ calm | asked _ _ calm | admitted token _ _ _ calm =>
    exact .inl (calm.authenticated authorized)
  | start _ calm => cases calm.authenticated authorized
  | authorized received authority _ _ => exact .inr ⟨_, _, _, received, authority⟩
  | restricted => cases authorized
  | delivered => exact .inl ((walk_calm.activate session).authenticated authorized)

end Step

/-! ### The hello comes first -/

/-- Whatever opens the gate came after an accepted hello. -/
structure Greeted (session : PeerSession) : Prop where
  basic : session.basicCommunication = true → session.admission.acceptedPayload.isSome = true
  opened : session.authenticated = true ∨ session.state = .pairingRestricted →
    session.admission.acceptedPayload.isSome = true

theorem Greeted.admits (greeted : Greeted session) (admits : Admits session frame) :
    session.admission.acceptedPayload.isSome = true := by
  rcases admits with authenticated | ⟨domain, -, allowed⟩
  · exact greeted.opened (.inl authenticated)
  · unfold basicDomainAllowed at allowed
    rw [Bool.and_eq_true, Bool.and_eq_true] at allowed
    exact greeted.basic allowed.1.1

theorem Greeted.calm {after : PeerSession} (greeted : Greeted session) (calm : Calm session after) :
    Greeted after := by
  constructor
  · rw [calm.basic, calm.admission]
    exact greeted.basic
  · rw [calm.admission]
    rintro (authorized | restricted)
    · exact greeted.opened (.inl (calm.authenticated authorized))
    · rcases calm.state_cases with same | closed | ⟨active, -⟩
      · exact greeted.opened (.inr (same ▸ restricted))
      · cases closed.symm.trans restricted
      · cases active.symm.trans restricted

theorem greeted_of_accepted (accepted : session.admission.acceptedPayload.isSome = true) :
    Greeted session :=
  ⟨fun _ => accepted, fun _ => accepted⟩

theorem HelloAccepted.isSome (hello : HelloAccepted session frame) :
    (session.greet frame).admission.acceptedPayload.isSome = true := by
  rw [hello.accepted]
  rfl

/-- An authority needs the hello it accepts, or a session that had one. -/
theorem Authority.isSome {env : SessionEnv}
    (authority : Authority session env frame start scopes) (greeted : Greeted session) :
    start.admission.acceptedPayload.isSome = true := by
  cases authority with
  | noAuthorizer hello | trusted hello => exact hello.isSome
  | evaluated _ restricted | accepted _ restricted => exact greeted.opened (.inr restricted)

theorem greeted_step (greeted : Greeted session) (event : SessionEnv × SessionEvent) :
    Greeted (session.step event) := by
  have move := move_step session event
  generalize session.step event = after at move ⊢
  cases move with
  | calm calm => exact greeted.calm calm
  | start _ calm =>
    apply Greeted.calm _ calm
    exact ⟨greeted.basic, by rintro (other | other) <;> cases other⟩
  | hello _ hello calm => exact (greeted_of_accepted hello.isSome).calm calm
  | asked _ _ calm | admitted token _ _ _ calm =>
    apply Greeted.calm _ calm
    exact ⟨greeted.basic, greeted.opened⟩
  | authorized _ authority calm _ =>
    apply greeted_of_accepted
    exact calm.admission ▸ authority.isSome greeted
  | restricted _ _ hello calm _ =>
    apply greeted_of_accepted
    exact calm.admission ▸ hello.isSome
  | delivered =>
    have kept := greeted.calm (walk_calm.activate session)
    exact ⟨kept.basic, kept.opened⟩

theorem greeted_run (run : Reaches step Created (fun _ _ => True) session) : Greeted session := by
  apply run.invariant
  · rintro _ ⟨config, admission, budgets, -, rfl⟩
    exact ⟨nofun, by rintro (other | other) <;> cases other⟩
  · intro session event greeted _
    exact greeted_step greeted event

/-- In every run, an event hands a frame to a handler only if a hello was accepted
before and the session is then authorized or the domain of the frame is one of
basic communication, and it authorizes the session only by an authority. -/
theorem authorization_gate {session : PeerSession}
    (run : Reaches step Created (fun _ _ => True) session) (event : SessionEnv × SessionEvent) :
    ∃ records, (session.step event).log = session.log ++ records ∧
      (∀ handler frame, .delivered handler frame ∈ records →
        session.admission.acceptedPayload.isSome = true ∧ Admits session frame) ∧
      (∀ domain token frame, .admitted domain token frame ∈ records →
        session.admission.acceptedPayload.isSome = true ∧ Admits session frame) ∧
      (∀ next, .state next ∈ records → next = .authenticated ∨ next = .active →
        session.authenticated = true ∨ Vouched session event) ∧
      ((session.step event).authenticated = true →
        session.authenticated = true ∨ Vouched session event) := by
  have greeted := greeted_run run
  have move := move_step session event
  obtain ⟨records, log, each⟩ := move.appends
  refine ⟨records, log, ?_, ?_, ?_, move.authenticated⟩
  · intro handler frame member
    have admits : Admits session frame := each _ member
    exact ⟨greeted.admits admits, admits⟩
  · intro domain token frame member
    have admits : Admits session frame := each _ member
    exact ⟨greeted.admits admits, admits⟩
  · intro next member
    exact each _ member

/-! ### The domain of a logical channel -/

/-- The handlers that the channels were last opened or adopted with. -/
def lastOpened (opened : Nat → Option ChannelHandler) : SessionRecord → Nat → Option ChannelHandler
  | .opened channel handler => Function.update opened channel (some handler)
  | _ => opened

/-- A frame goes to the handler its channel was opened with and is of its domain. -/
def InDomain (opened : Nat → Option ChannelHandler) : SessionRecord → Prop
  | .delivered handler frame =>
    opened frame.channelId.toNat = some handler ∧
      frameTypeDomain frame.type = some handler.domain
  | _ => True

/-- Every frame of the log was delivered in the domain of its channel. -/
def DomainsKept (log : List SessionRecord) : Prop :=
  EachAllowed lastOpened InDomain (fun _ => none) log

theorem eachAllowed_of_undelivered
    (undelivered : ∀ handler frame, .delivered handler frame ∉ records)
    (opened : Nat → Option ChannelHandler) : EachAllowed lastOpened InDomain opened records := by
  induction records generalizing opened with
  | nil => trivial
  | cons entry records ih =>
    constructor
    · cases entry with
      | delivered handler frame => exact absurd List.mem_cons_self (undelivered handler frame)
      | _ => trivial
    · apply ih
      intro handler frame member
      exact undelivered handler frame (List.mem_cons_of_mem entry member)

theorem DomainsKept.append (kept : DomainsKept log)
    (undelivered : ∀ handler frame, .delivered handler frame ∉ records) :
    DomainsKept (log ++ records) :=
  EachAllowed.append kept (eachAllowed_of_undelivered undelivered _)

theorem DomainsKept.record (kept : DomainsKept log) (entry : SessionRecord)
    (undelivered : ∀ handler frame, entry ≠ .delivered handler frame) :
    DomainsKept (log ++ [entry]) := by
  apply kept.append
  intro handler frame member
  exact undelivered handler frame (List.mem_singleton.mp member).symm

theorem sampleMessageId_size : (List.replicate 15 (0 : UInt8) ++ [1]).length = 16 := rfl

def sampleMessageId : MessageId := ⟨List.replicate 15 0 ++ [1], sampleMessageId_size⟩

def sampleProtocol : ProtocolHello :=
  { version := currentProtocolVersion, supported := { bits := knownCapabilityBits } }

def sampleHello : List UInt8 := [7]

/-- The session of an initiator that takes one hello and asks no authorizer. -/
def sampleSession : PeerSession where
  config := { initiator := true, localHello := .ok [1] }
  admission := {
    expectedEpoch := 1
    localProtocol := sampleProtocol
    read := fun payload =>
      if payload = sampleHello then
        .ok { sessionEpoch := 1, protocol := sampleProtocol, expiresUnixMilliseconds := 1 }
      else .error (sessionProtocolError "hello_invalid") }

def sampleEnv (sends : List (Except Error Unit)) : SessionEnv where
  messageId := sampleMessageId
  nonce := filledBytes 32 0
  wallClock := 0
  sends := sends
  authorize _ := .error (peerSessionError .authentication "no_authorizer")
  evaluate _ := .error (peerSessionError .pairingDenied "no_evaluator")
  acceptResult _ _ _ _ := .error (peerSessionError .configuration "no_sink")
  approve _ := .error (peerSessionError .pairingDenied "no_approval")
  admitFrame _ := ([], .ok ())

def controlChannel : TransportChannel := { id := 0, kind := .control }

def messageChannel : TransportChannel := { id := 1, kind := .message }

def sampleFrame (type : FrameType) (channelId : UInt32) (payload : List UInt8) : Frame :=
  ⟨type.code, 0, channelId, sampleMessageId, payload⟩

def messageHandler : ChannelHandler := { token := 5, domain := .message }

/-- The hello is accepted and a message channel, of id 1, is opened. -/
def sampleEvents : List (SessionEnv × SessionEvent) :=
  [(sampleEnv [], .start),
    (sampleEnv [.ok ()], .controlOpened (.ok controlChannel)),
    (sampleEnv [], .message controlChannel (frameBytes (sampleFrame .sessionHello 0 sampleHello))),
    (sampleEnv [], .call (.openBusinessChannel .message .reject 4 1024 messageHandler.token))]

def arrival (frame : Frame) : SessionEnv × SessionEvent :=
  (sampleEnv [], .message messageChannel (frameBytes frame))

def openSession : PeerSession := sampleEvents.foldl step sampleSession

theorem sampleSession_created : Created sampleSession := ⟨_, _, {}, rfl, rfl⟩

theorem openSession_reached : Reaches step Created (fun _ _ => True) openSession :=
  (Reaches.start sampleSession_created).foldl (Machine.eachAllowed_true _ sampleEvents)

theorem authorization_gate_message :
    .delivered messageHandler (sampleFrame .message 1 [65]) ∈
        (openSession.step (arrival (sampleFrame .message 1 [65]))).log ∧
      ∃ records, (openSession.step (arrival (sampleFrame .message 1 [65]))).log =
          openSession.log ++ records ∧
        (∀ handler frame, .delivered handler frame ∈ records →
          openSession.admission.acceptedPayload.isSome = true ∧ Admits openSession frame) ∧
        (∀ domain token frame, .admitted domain token frame ∈ records →
          openSession.admission.acceptedPayload.isSome = true ∧ Admits openSession frame) ∧
        (∀ next, .state next ∈ records → next = .authenticated ∨ next = .active →
          openSession.authenticated = true ∨
            Vouched openSession (arrival (sampleFrame .message 1 [65]))) ∧
        ((openSession.step (arrival (sampleFrame .message 1 [65]))).authenticated = true →
          openSession.authenticated = true ∨
            Vouched openSession (arrival (sampleFrame .message 1 [65]))) :=
  ⟨by decide +kernel, authorization_gate openSession_reached _⟩

end Heyaki.PeerSession
