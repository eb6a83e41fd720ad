/-
Purpose: when a closed session stays closed.

The handlers do not look at the closed state.  A hello is still accepted by a
closed session; a send that fails inside the handling of a hello or of a pairing
request closes the session before the handler authorizes it; and the flag of basic
communication outlives the session.  In runs that avoid the three, closed is
absorbing.

Main exports: `PeerSession.closed_absorbing`
-/
import Heyaki.Proofs.PeerSessionGate

namespace Heyaki.PeerSession

open Foundation
open Foundation.Machine (EachAllowed Reaches)

/-- From closed there is no other state, and no frame is handed to a handler. -/
def Absorbing (state : PeerSessionState) : SessionRecord → Prop
  | .state next => state = .closed → next = .closed
  | .delivered .. | .admitted .. => state ≠ .closed
  | _ => True

/-- A hello is accepted only by a session that is not closed, the sends made while a
hello or a pairing request is handled do not close it, and a closed session gets no
frame of basic communication. -/
structure Careful (session : PeerSession) (event : SessionEnv × SessionEvent) : Prop where
  hello : ∀ {frame : Frame}, session.controlFrame event.2 = some frame →
    HelloAccepted session frame → session.state ≠ .closed ∧ SendsPass session event.1 frame
  pairing : ∀ {frame : Frame}, session.controlFrame event.2 = some frame →
    session.state = .pairingRestricted → SendsPass session event.1 frame
  business : ∀ {frame : Frame}, session.businessFrame event.2 = some frame →
    session.state = .closed → ¬ Admits session frame

theorem Calm.absorbing {session after : PeerSession} (calm : Calm session after) :
    Does Absorbing session after := by
  obtain ⟨records, log, state, each⟩ := calm.does
  refine ⟨records, log, state, each.mono ?_⟩
  intro state entry ok
  cases entry with
  | state next =>
    rintro rfl
    rcases ok with closed | ⟨-, other⟩
    · exact closed
    · cases other
  | delivered | admitted => exact ok.elim
  | _ => trivial

section Step

variable {session : PeerSession} {event : SessionEnv × SessionEvent}

theorem does_call {entry : SessionRecord} (call : IsCall entry) :
    Does Absorbing session (session.record entry) := by
  cases entry with
  | evaluated | presented => exact does_record trivial rfl
  | _ => exact call.elim

theorem absorbing_step (careful : Careful session event) :
    Does Absorbing session (session.step event) := by
  have move := move_step session event
  generalize session.step event = after at move ⊢
  cases move with
  | calm calm => exact calm.absorbing
  | start fresh calm =>
    apply Does.trans _ calm.absorbing
    exact ⟨[_], rfl, rfl, fun closed => absurd closed fresh, trivial⟩
  | hello _ _ calm => exact Does.trans (does_of_same rfl rfl) calm.absorbing
  | asked _ call calm => exact (does_call call).trans calm.absorbing
  | authorized received authority calm steady =>
    -- An authority acts on a session that is not closed.
    obtain ⟨opened, pass⟩ : session.state ≠ .closed ∧ SendsPass session event.1 _ := by
      cases authority with
      | noAuthorizer hello | trusted hello => exact careful.hello received hello
      | evaluated _ restricted | accepted _ restricted =>
        exact ⟨restricted ▸ nofun, careful.pairing received restricted⟩
    refine Does.trans (Does.trans ?_ calm.absorbing)
      ⟨[_], rfl, rfl, fun closed => absurd closed (steady pass ▸ opened), trivial⟩
    cases authority with
    | noAuthorizer | trusted => exact does_of_same rfl rfl
    | evaluated | accepted => exact does_call trivial
  | restricted basic received hello calm steady =>
    obtain ⟨opened, pass⟩ := careful.hello received hello
    have before := Does.trans (does_of_same rfl rfl) calm.absorbing
    exact before.trans ⟨[_], rfl, rfl, fun closed => absurd closed (steady pass ▸ opened), trivial⟩
  | delivered received admits known found =>
    have opened : session.state ≠ .closed := fun closed => careful.business received closed admits
    apply (walk_calm.activate session).absorbing.trans
    apply does_record _ rfl
    unfold activate
    split
    · exact nofun
    · exact opened
  | admitted token received admits typed calm =>
    have opened : session.state ≠ .closed := fun closed => careful.business received closed admits
    apply Does.trans _ calm.absorbing
    exact does_record opened rfl

end Step

/-- In every run of careful steps, the state is the one the log leads to, and after
closed the log has no other state and no frame handed to a handler. -/
theorem closed_absorbing {session : PeerSession} (run : Reaches step Created Careful session) :
    session.state = session.log.foldl follow .idle ∧
      EachAllowed follow Absorbing .idle session.log := by
  apply run.invariant
  · rintro _ ⟨config, admission, budgets, -, rfl⟩
    exact ⟨rfl, trivial⟩
  · intro session event ⟨state, each⟩ careful
    obtain ⟨records, log, after, eachNew⟩ := absorbing_step careful
    rw [log]
    constructor
    · rw [after, state, List.foldl_append]
    · rw [state] at eachNew
      exact each.append eachNew

/-! ### Samples -/

theorem careful_of_none {session : PeerSession} {event : SessionEnv × SessionEvent}
    (control : session.controlFrame event.2 = none)
    (business : session.businessFrame event.2 = none) : Careful session event := by
  constructor
  · intro frame received
    cases control.symm.trans received
  · intro frame received
    cases control.symm.trans received
  · intro frame received
    cases business.symm.trans received

theorem sampleEvents_careful : EachAllowed step Careful sampleSession sampleEvents := by
  refine ⟨careful_of_none rfl rfl, careful_of_none rfl rfl, ?_, careful_of_none rfl rfl, trivial⟩
  have hello : ((sampleEvents.take 2).foldl step sampleSession).controlFrame
      (.message controlChannel (frameBytes (sampleFrame .sessionHello 0 sampleHello))) =
        some (sampleFrame .sessionHello 0 sampleHello) := by decide +kernel
  constructor
  · intro frame received _
    cases hello.symm.trans received
    -- the own hello is out since the control channel opened
    refine ⟨by decide +kernel, fun sends => ?_⟩
    have sent : ((sampleEvents.take 2).foldl step sampleSession).hellosSent = 1 := by decide +kernel
    rcases sends with ⟨-, unsent⟩ | other
    · cases sent.symm.trans unsent
    · cases other
  · intro frame _ restricted
    have state : ((sampleEvents.take 2).foldl step sampleSession).state = .authenticating := by
      decide +kernel
    cases state.symm.trans restricted
  · intro frame received
    have none : ((sampleEvents.take 2).foldl step sampleSession).businessFrame
        (.message controlChannel (frameBytes (sampleFrame .sessionHello 0 sampleHello))) = none := by
      decide +kernel
    cases none.symm.trans received

def closedSession : PeerSession := openSession.step (sampleEnv [], .call (.close .localShutdown))

/-- A message that arrives after the local close. -/
theorem closed_absorbing_message :
    (closedSession.step (arrival (sampleFrame .message 1 [65]))).state =
        (closedSession.step (arrival (sampleFrame .message 1 [65]))).log.foldl follow .idle ∧
      EachAllowed follow Absorbing .idle
        (closedSession.step (arrival (sampleFrame .message 1 [65]))).log := by
  apply closed_absorbing
  have opened := (Reaches.start sampleSession_created).foldl sampleEvents_careful
  apply Reaches.next _ (.next _ opened (careful_of_none rfl rfl))
  have control : closedSession.controlFrame (arrival (sampleFrame .message 1 [65])).2 = none := by
    decide +kernel
  constructor
  · intro frame received
    cases control.symm.trans received
  · intro frame received
    cases control.symm.trans received
  · rintro frame _ _ (authorized | ⟨domain, _, basic⟩)
    · have closed : closedSession.authenticated = false := by decide +kernel
      cases closed.symm.trans authorized
    · have unset : closedSession.basicCommunication = false := by decide +kernel
      have allowed : closedSession.basicDomainAllowed domain = true := basic
      simp [basicDomainAllowed, unset] at allowed

def transportLost : Error := { code := .transport, component := "transport", safeDetail := "closed" }

/-- The responder of the sample: its own hello goes out when the peer's arrives. -/
def responderSession : PeerSession :=
  { sampleSession with config := { sampleSession.config with initiator := false } }

/-- The transport refuses the own hello, which closes the session; the handler of
the peer's hello then authorizes it. -/
theorem closed_session_authorized :
    ∃ session, Reaches step Created (fun _ _ => True) session ∧
      session.log = [.state .authenticating, .state .closed, .closeTransport .protocolError,
        .state .authenticated] ∧
      session.state = .authenticated := by
  refine ⟨[(sampleEnv [], .start), (sampleEnv [.error transportLost],
    .message controlChannel (frameBytes (sampleFrame .sessionHello 0 sampleHello)))].foldl step
      responderSession, ?_, ?_, ?_⟩
  · exact (Reaches.start ⟨_, _, {}, rfl, rfl⟩).foldl (Machine.eachAllowed_true _ _)
  · decide +kernel
  · decide +kernel

end Heyaki.PeerSession
