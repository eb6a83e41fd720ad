/-
Purpose: two restarts at once end in one, as far as the admission of the peers'
objects lets them.

An admission keeps its own restart for ever and compares every later offer with it
alone.  A superseded side therefore still takes itself for the initiator, and lets an
offer through that beats its own restart but not the one that survived.  The results
are about runs in which neither shows.

Trusted boundary: `IdentityCrypto`
Main exports: `SessionRestartAdmission.admitOffer_cases`, `restart_glare_converges`,
`restart_glare_diverges`
-/
import Heyaki.Core.SessionRestart
import Heyaki.Foundation.Transaction
import Heyaki.Proofs.SessionHello

namespace Heyaki

open Foundation
open Foundation.Transaction (bind_eq_ok)

namespace SessionRestartAdmission

variable {crypto : IdentityCrypto} {admission : SessionRestartAdmission} {payload : List UInt8}
  {now : UInt64} {steady : Nat} {read : ReadDescription}

structure Keeps (before after : SessionRestartAdmission) : Prop where
  context : after.context = before.context
  own : after.localRestart = before.localRestart
  accepted : after.acceptedRequest = before.acceptedRequest

theorem Keeps.refl : Keeps admission admission := ⟨rfl, rfl, rfl⟩

/-! ### Offers -/

theorem readOffer_parses {context : SessionRestartContext}
    (reads : readOffer crypto context payload now = .ok read) :
    parseSignedOffer payload = .ok read.description := by
  obtain ⟨offer, parsed, rest⟩ := bind_eq_ok.mp reads
  split_ifs at rest
  · cases rest
  · obtain ⟨_, _, rest⟩ := bind_eq_ok.mp rest
    obtain ⟨_, _, rest⟩ := bind_eq_ok.mp rest
    obtain ⟨_, _, rest⟩ := bind_eq_ok.mp rest
    cases rest
    exact parsed

/-- What an offer can do to a side that has a restart of its own. -/
inductive OfferCase (admission : SessionRestartAdmission) (own : RequestId) (payload : List UInt8) :
    Except Error (Option AdmittedSessionRestartOffer) × SessionRestartAdmission → Prop
  | failed {error : Error} {after : SessionRestartAdmission} (keeps : Keeps admission after) :
      OfferCase admission own payload (.error error, after)
  | suppressed {offer : SignedOffer} {after : SessionRestartAdmission}
      (parsed : parseSignedOffer payload = .ok offer) (keeps : Keeps admission after)
      (loses : offer.binding.requestId < own) : OfferCase admission own payload (.ok none, after)
  | known {offer : SignedOffer} {after : SessionRestartAdmission}
      (parsed : parseSignedOffer payload = .ok offer) (keeps : Keeps admission after)
      (same : admission.acceptedRequest = some offer.binding.requestId) :
      OfferCase admission own payload (.ok none, after)
  | superseded {offer : SignedOffer} {admitted : AdmittedSessionRestartOffer}
      {after : SessionRestartAdmission} (parsed : parseSignedOffer payload = .ok offer)
      (wins : own < offer.binding.requestId) (context : after.context = admission.context)
      (kept : after.localRestart = admission.localRestart)
      (accepted : after.acceptedRequest = some offer.binding.requestId) :
      OfferCase admission own payload (.ok (some admitted), after)

variable (replay : SignalingReplayCache) {binding : SignalBinding}

theorem consultReplay_keeps {domain : SigningDomain}
    {nonce : Option SignalingNonce} {sequence : Option UInt32}
    {result : Except Error SignalingReplayDecision × SessionRestartAdmission}
    (asked : admission.consultReplay replay domain binding nonce sequence steady = result) :
    Keeps admission result.2 := by
  subst asked
  exact ⟨rfl, rfl, rfl⟩

theorem acceptOffer_cases {own : RequestId} {glare : Bool}
    (parsed : parseSignedOffer payload = .ok read.description)
    (wins : own < read.description.binding.requestId) :
    OfferCase admission own payload (admission.acceptOffer replay read glare steady) := by
  unfold acceptOffer
  dsimp only
  split
  · rename_i asked
    exact .failed { consultReplay_keeps replay asked with }
  · rename_i asked
    exact .failed { consultReplay_keeps replay asked with }
  · rename_i asked
    exact .failed { consultReplay_keeps replay asked with }
  · rename_i asked
    obtain ⟨context, kept, -⟩ := consultReplay_keeps replay asked
    exact .superseded parsed wins context kept rfl

theorem admitOffer_cases {own : RequestId} (restarts : admission.localRestart = some own)
    (accepts : admission.acceptedRequest.isSome) :
    OfferCase admission own payload (admission.admitOffer crypto payload now steady) := by
  unfold admitOffer
  cases admission.replay with
  | none => exact .failed (.refl)
  | some replay =>
    cases reads : readOffer crypto admission.context payload now with
    | error error => exact .failed ⟨rfl, rfl, rfl⟩
    | ok read =>
      have parsed := readOffer_parses reads
      simp only [restarts, accepts, Option.any_some, sessionRestartOfferWins, Bool.true_and]
      split_ifs with glare same conflict
      · rw [Bool.and_eq_true, bne_iff_ne, Bool.not_eq_true', decide_eq_false_iff_not] at glare
        exact .suppressed parsed ⟨rfl, restarts.symm ▸ rfl, rfl⟩
          (lt_of_le_of_ne (not_lt.mp glare.2) glare.1)
      · exact .known parsed ⟨rfl, restarts.symm ▸ rfl, rfl⟩ same
      · exact .failed ⟨rfl, restarts.symm ▸ rfl, rfl⟩
      · apply acceptOffer_cases replay parsed
        rw [Bool.not_eq_true', bne_eq_false_iff_eq] at conflict
        by_contra loses
        apply glare
        rw [Bool.and_eq_true, bne_iff_ne, Bool.not_eq_true', decide_eq_false_iff_not]
        exact ⟨conflict, loses⟩

/-! ### Answers and candidates -/

/-- An object that is taken is bound to the accepted restart, with this side as its
initiator. -/
def AsInitiator (admission : SessionRestartAdmission) (binding : SignalBinding) : Prop :=
  binding.initiator = admission.context.own ∧ admission.acceptedRequest = some binding.requestId

theorem asInitiator_of_answerBound
    (bound : admission.answerBound binding = .ok ()) : admission.AsInitiator binding := by
  unfold answerBound at bound
  cases accepts : admission.acceptedRequest with
  | none => simp [accepts] at bound
  | some accepted =>
    cases nonce : admission.initiatorNonce with
    | none => simp [accepts, nonce] at bound
    | some initiatorNonce =>
      simp only [accepts, nonce] at bound
      split_ifs at bound with missing mismatch
      simp only [not_or, not_not] at mismatch
      exact ⟨mismatch.1, by rw [accepts, mismatch.2.2.1]⟩

theorem asInitiator_of_candidateBound (restarts : admission.localRestart.isSome)
    (bound : admission.candidateBound binding = .ok ()) : admission.AsInitiator binding := by
  simp only [candidateBound, restarts, if_true] at bound
  split at bound
  · rename_i accepted _ _ _ accepts _ _ _
    split_ifs at bound with mismatch
    simp only [not_or, not_not] at mismatch
    exact ⟨mismatch.1, by rw [accepts, mismatch.2.2.1]⟩
  · cases bound

/-- Answers leave the restarts as they are, and one that is taken is bound to the
accepted restart as this side's own. -/
theorem admitAnswer_spec (payload : List UInt8) (now : UInt64) (steady : Nat) :
    Keeps admission (admission.admitAnswer crypto payload now steady).2 ∧
      ((∃ error, (admission.admitAnswer crypto payload now steady).1 = .error error) ∨
        ∃ answer, parseSignedAnswer payload = .ok answer ∧ admission.AsInitiator answer.binding) := by
  unfold admitAnswer
  cases admission.replay with
  | none => exact ⟨.refl, .inl ⟨_, rfl⟩⟩
  | some replay =>
    cases reads : readAnswer crypto admission payload now with
    | error error => exact ⟨⟨rfl, rfl, rfl⟩, .inl ⟨_, rfl⟩⟩
    | ok read =>
      obtain ⟨_, parsed, rest⟩ := bind_eq_ok.mp reads
      obtain ⟨_, bound, _⟩ := bind_eq_ok.mp rest
      refine ⟨?_, .inr ⟨_, parsed, asInitiator_of_answerBound bound⟩⟩
      dsimp only
      split_ifs
      · exact ⟨rfl, rfl, rfl⟩
      · exact ⟨rfl, rfl, rfl⟩
      · cases hashSignalingTranscript crypto.sha256 (admission.canonicalOffer.getD [])
          read.canonical with
        | error error => exact ⟨rfl, rfl, rfl⟩
        | ok transcript =>
          dsimp only
          unfold acceptAnswer
          dsimp only
          split <;> exact { consultReplay_keeps replay (by assumption) with }

theorem acceptCandidate_keeps (candidate : SignedCandidate) :
    Keeps admission (admission.acceptCandidate replay candidate payload steady).2 := by
  unfold acceptCandidate
  split
  · exact { consultReplay_keeps replay (by assumption) with }
  · rename_i asked
    split_ifs <;> exact { consultReplay_keeps replay asked with }
  · exact { consultReplay_keeps replay (by assumption) with }
  · rename_i asked
    split_ifs <;> exact { consultReplay_keeps replay asked with }

theorem admitCandidate_spec (crypto : IdentityCrypto) {admission : SessionRestartAdmission}
    (restarts : admission.localRestart.isSome) (payload : List UInt8) (now : UInt64) (steady : Nat) :
    Keeps admission (admission.admitCandidate crypto payload now steady).2 ∧
      ((∃ error, (admission.admitCandidate crypto payload now steady).1 = .error error) ∨
        ∃ candidate, parseSignedCandidate payload = .ok candidate ∧
          admission.AsInitiator candidate.binding) := by
  unfold admitCandidate
  cases admission.replay with
  | none => exact ⟨.refl, .inl ⟨_, rfl⟩⟩
  | some replay =>
    cases reads : readCandidate crypto admission payload now with
    | error error => exact ⟨⟨rfl, rfl, rfl⟩, .inl ⟨_, rfl⟩⟩
    | ok candidate =>
      obtain ⟨_, parsed, rest⟩ := bind_eq_ok.mp reads
      obtain ⟨_, bound, _⟩ := bind_eq_ok.mp rest
      exact ⟨acceptCandidate_keeps replay candidate,
        .inr ⟨_, parsed, asInitiator_of_candidateBound restarts bound⟩⟩

theorem setLocalRestartAnswer_keeps (responderNonce : SignalingNonce)
    (canonicalAnswer : List UInt8) :
    Keeps admission (admission.setLocalRestartAnswer crypto responderNonce canonicalAnswer).2 := by
  unfold setLocalRestartAnswer
  cases admission.canonicalOffer with
  | none => exact .refl
  | some canonicalOffer =>
    dsimp only
    cases hashSignalingTranscript crypto.sha256 canonicalOffer canonicalAnswer <;>
      exact ⟨rfl, rfl, rfl⟩

end SessionRestartAdmission

open SessionRestartAdmission

/-! ### Two sides -/

/-- Any object of the peer, at any time, and the answer that a side makes itself. -/
inductive RestartEvent where
  | offer (payload : List UInt8) (now : UInt64) (steady : Nat)
  | answer (payload : List UInt8) (now : UInt64) (steady : Nat)
  | candidate (payload : List UInt8) (now : UInt64) (steady : Nat)
  | answered (responderNonce : SignalingNonce) (canonicalAnswer : List UInt8)

/-- A side with the requests of the offers that it processed without an error. -/
structure RestartSide where
  admission : SessionRestartAdmission
  processed : List RequestId := []

namespace RestartSide

variable {own survivor : RequestId} {side : RestartSide}

def offerRequest? (payload : List UInt8) : Option RequestId :=
  (parseSignedOffer payload).toOption.map fun offer => offer.binding.requestId

def step (crypto : IdentityCrypto) (side : RestartSide) : RestartEvent → RestartSide
  | .offer payload now steady =>
    match side.admission.admitOffer crypto payload now steady with
    | (.ok _, admission) =>
      { admission := admission
        processed := (offerRequest? payload).toList ++ side.processed }
    | (.error _, admission) => { side with admission := admission }
  | .answer payload now steady =>
    { side with admission := (side.admission.admitAnswer crypto payload now steady).2 }
  | .candidate payload now steady =>
    { side with admission := (side.admission.admitCandidate crypto payload now steady).2 }
  | .answered responderNonce canonicalAnswer =>
    { side with
      admission := (side.admission.setLocalRestartAnswer crypto responderNonce canonicalAnswer).2 }

/-- A side that has sent an offer of its own. -/
def registered (context : SessionRestartContext) (own : RequestId) (nonce : SignalingNonce)
    (canonicalOffer : List UInt8) : RestartSide :=
  { admission := (create context).setLocalRestart own nonce canonicalOffer }

/-- The restart that a side holds, given the request of its own. -/
structure Holds (own : RequestId) (side : RestartSide) (survivor : RequestId) : Prop where
  restarts : side.admission.localRestart = some own
  accepts : side.admission.acceptedRequest = some survivor
  origin : survivor = own ∨ survivor ∈ side.processed
  atLeastOwn : own ≤ survivor
  greatest : ∀ request ∈ side.processed, request ≤ survivor

/-- An offer that beats the own restart does not lose against the one that survived,
and no answer or candidate of the surviving restart reaches a superseded side. -/
def Admissible (own : RequestId) (side : RestartSide) : RestartEvent → Prop
  | .offer payload _ _ => ∀ offer, parseSignedOffer payload = .ok offer →
      own < offer.binding.requestId →
        ∀ survivor ∈ side.admission.acceptedRequest, survivor ≤ offer.binding.requestId
  | .answer payload _ _ => ∀ answer, parseSignedAnswer payload = .ok answer →
      side.admission.acceptedRequest ≠ some own →
        side.admission.acceptedRequest ≠ some answer.binding.requestId
  | .candidate payload _ _ => ∀ candidate, parseSignedCandidate payload = .ok candidate →
      side.admission.acceptedRequest ≠ some own →
        side.admission.acceptedRequest ≠ some candidate.binding.requestId
  | .answered _ _ => True

section

variable (holds : Holds own side survivor)

include holds

theorem Holds.keeps {admission : SessionRestartAdmission} (keeps : side.admission.Keeps admission) :
    Holds own { side with admission := admission } survivor :=
  { holds with
    restarts := keeps.own.trans holds.restarts
    accepts := keeps.accepted.trans holds.accepts }

/-- An offer that changes nothing was at most the surviving one. -/
theorem Holds.processed {admission : SessionRestartAdmission}
    (keeps : side.admission.Keeps admission) {request : RequestId} (atMost : request ≤ survivor) :
    Holds own { admission := admission, processed := request :: side.processed } survivor where
  restarts := keeps.own.trans holds.restarts
  accepts := keeps.accepted.trans holds.accepts
  origin := holds.origin.imp_right (List.mem_cons_of_mem _)
  atLeastOwn := holds.atLeastOwn
  greatest other member := by
    rcases List.mem_cons.mp member with rfl | before
    · exact atMost
    · exact holds.greatest other before

/-- What survives is kept, or gives way to a request that wins against it. -/
theorem Holds.step {event : RestartEvent}
    (admissible : side.Admissible own event) (crypto : IdentityCrypto) :
    ∃ next, Holds own (side.step crypto event) next ∧ survivor ≤ next := by
  cases event with
  | answered responderNonce canonicalAnswer =>
    exact ⟨survivor, holds.keeps (setLocalRestartAnswer_keeps ..), le_refl _⟩
  | answer payload now steady =>
    exact ⟨survivor, holds.keeps (admitAnswer_spec ..).1, le_refl _⟩
  | candidate payload now steady =>
    have restarts : side.admission.localRestart.isSome := by rw [holds.restarts]; rfl
    exact ⟨survivor,
      holds.keeps (admitCandidate_spec crypto restarts ..).1, le_refl _⟩
  | offer payload now steady =>
    have accepts : side.admission.acceptedRequest.isSome := by rw [holds.accepts]; rfl
    have outcome : SessionRestartAdmission.OfferCase side.admission own payload
        (side.admission.admitOffer crypto payload now steady) :=
      admitOffer_cases holds.restarts accepts
    simp only [RestartSide.step]
    generalize side.admission.admitOffer crypto payload now steady = result at outcome
    cases outcome with
    | failed keeps => exact ⟨survivor, holds.keeps keeps, le_refl _⟩
    | suppressed parsed keeps loses =>
      refine ⟨survivor, ?_, le_refl _⟩
      rw [offerRequest?, parsed]
      exact holds.processed keeps (le_trans (le_of_lt loses) holds.atLeastOwn)
    | known parsed keeps same =>
      refine ⟨survivor, ?_, le_refl _⟩
      rw [offerRequest?, parsed]
      apply holds.processed keeps
      rw [holds.accepts] at same
      exact le_of_eq (Option.some.inj same).symm
    | @superseded offer _ after parsed wins context kept accepted =>
      have later := admissible offer parsed wins survivor holds.accepts
      refine ⟨offer.binding.requestId, ?_, later⟩
      rw [offerRequest?, parsed]
      refine ⟨kept.trans holds.restarts, accepted, .inr (List.mem_cons_self ..), le_of_lt wins, ?_⟩
      intro other member
      rcases List.mem_cons.mp member with rfl | before
      · exact le_refl _
      · exact le_trans (holds.greatest other before) later

end

end RestartSide

/-- Two peers that have each sent an offer of their own. -/
abbrev RestartSystem := Bool → RestartSide

namespace RestartSystem

variable (crypto : IdentityCrypto) (own : Bool → RequestId) {system : RestartSystem}

def step (system : RestartSystem) (event : Bool × RestartEvent) : RestartSystem :=
  Function.update system event.1 ((system event.1).step crypto event.2)

/-- Each side has registered its restart, and the contexts face each other. -/
def Starts (system : RestartSystem) : Prop :=
  ∃ context : Bool → SessionRestartContext,
    (∀ side, (context side).peer = (context !side).own ∧
      (context side).sessionId = (context !side).sessionId) ∧
    ∀ side, ∃ nonce canonicalOffer, system side =
      .registered (context side) (own side) nonce canonicalOffer

def Admissible (system : RestartSystem) (event : Bool × RestartEvent) : Prop :=
  (system event.1).Admissible (own event.1) event.2

variable {crypto own}

theorem Starts.holds (starts : Starts own system) (side : Bool) :
    (system side).Holds (own side) (own side) := by
  obtain ⟨context, -, registered⟩ := starts
  obtain ⟨nonce, canonicalOffer, is⟩ := registered side
  rw [is]
  exact ⟨rfl, rfl, .inl rfl, le_refl _, fun _ member => nomatch member⟩

def Settled (own : Bool → RequestId) (system : RestartSystem) : Prop :=
  ∀ side, ∃ survivor, (system side).Holds (own side) survivor

theorem Settled.step (settled : Settled own system) {event : Bool × RestartEvent}
    (admissible : Admissible own system event) :
    Settled own (system.step crypto event) := by
  intro side
  obtain ⟨survivor, before⟩ := settled event.1
  obtain ⟨next, after, -⟩ := before.step admissible crypto
  by_cases same : side = event.1
  · subst same
    rw [RestartSystem.step, Function.update_self]
    exact ⟨next, after⟩
  · rw [RestartSystem.step, Function.update_of_ne same]
    exact settled side

end RestartSystem

/-! ### Convergence -/

/-- Where an object of the peer is admissible, it fails or is taken by a side whose
own restart survived, as the initiator. -/
theorem RestartSide.Holds.taken {own survivor : RequestId} {side : RestartSide}
    (holds : side.Holds own survivor) (asInitiator : side.admission.AsInitiator binding)
    (admissible : side.admission.acceptedRequest ≠ some own →
      side.admission.acceptedRequest ≠ some binding.requestId) :
    survivor = own ∧ binding.initiator = side.admission.context.own ∧ binding.requestId = own := by
  have accepted := asInitiator.2
  rw [holds.accepts] at accepted admissible
  by_cases same : survivor = own
  · cases accepted
    exact ⟨same, asInitiator.1, same⟩
  · exact absurd accepted (admissible fun equal => same (Option.some.inj equal))

/-- Two peers that have each sent an offer, with objects of the peer delivered in any
order.  Once both have processed the other's offer, and no third one, the greater of
the two survives at both.  Answers and candidates are taken only by a side whose own
restart survived, as its initiator; all others fail, among them the answers to a
superseded offer.  And what survives gives way only to an offer that wins against it. -/
theorem restart_glare_converges {crypto : IdentityCrypto} {own : Bool → RequestId}
    (distinct : own true ≠ own false) {system : RestartSystem}
    (run : Machine.Reaches (RestartSystem.step crypto) (RestartSystem.Starts own)
      (RestartSystem.Admissible own) system) :
    ((∀ side, ∀ request ∈ (system side).processed, request = own !side) →
      (∀ side, own (!side) ∈ (system side).processed) →
      ∃ winner, sessionRestartOfferWins (own winner) (own !winner) = true ∧
        ∀ side, (system side).admission.acceptedRequest = some (own winner)) ∧
    ∀ side, ∃ survivor, (system side).admission.acceptedRequest = some survivor ∧
      (∀ payload now steady,
        RestartSystem.Admissible own system (side, .answer payload now steady) →
        (∃ error, ((system side).admission.admitAnswer crypto payload now steady).1 = .error error) ∨
        ∃ answer, parseSignedAnswer payload = .ok answer ∧ survivor = own side ∧
          answer.binding.initiator = (system side).admission.context.own ∧
          answer.binding.requestId = own side) ∧
      (∀ payload now steady,
        RestartSystem.Admissible own system (side, .candidate payload now steady) →
        (∃ error, ((system side).admission.admitCandidate crypto payload now steady).1 =
          .error error) ∨
        ∃ candidate, parseSignedCandidate payload = .ok candidate ∧ survivor = own side ∧
          candidate.binding.initiator = (system side).admission.context.own ∧
          candidate.binding.requestId = own side) ∧
      ∀ event, RestartSystem.Admissible own system (side, event) →
        ∃ next, ((system side).step crypto event).admission.acceptedRequest = some next ∧
          (next = survivor ∨ sessionRestartOfferWins next survivor = true) := by
  have settled : RestartSystem.Settled own system :=
    run.invariant (fun _ starts side => ⟨_, starts.holds side⟩) fun _ _ settled admissible =>
      settled.step admissible
  constructor
  · intro only both
    -- what a side holds is its own request or the other's, and at least both
    have greatest : ∀ side, (system side).admission.acceptedRequest =
        some (max (own side) (own !side)) := by
      intro side
      obtain ⟨survivor, holds⟩ := settled side
      rw [holds.accepts]
      have atLeast : max (own side) (own !side) ≤ survivor :=
        max_le holds.atLeastOwn (holds.greatest _ (both side))
      rcases holds.origin with same | processed
      · exact congrArg some (le_antisymm (same ▸ le_max_left _ _) atLeast)
      · exact congrArg some (le_antisymm (only side _ processed ▸ le_max_right _ _) atLeast)
    rcases lt_or_gt_of_ne distinct with less | greater
    · refine ⟨false, decide_eq_true less, fun side => ?_⟩
      rw [greatest side]
      cases side
      · exact congrArg some (max_eq_left_of_lt less)
      · exact congrArg some (max_eq_right_of_lt less)
    · refine ⟨true, decide_eq_true greater, fun side => ?_⟩
      rw [greatest side]
      cases side
      · exact congrArg some (max_eq_right_of_lt greater)
      · exact congrArg some (max_eq_left_of_lt greater)
  · intro side
    obtain ⟨survivor, holds⟩ := settled side
    refine ⟨survivor, holds.accepts, ?_, ?_, ?_⟩
    · intro payload now steady admissible
      apply (admitAnswer_spec ..).2.imp_right
      rintro ⟨answer, parsed, asInitiator⟩
      exact ⟨answer, parsed, holds.taken asInitiator (admissible answer parsed)⟩
    · intro payload now steady admissible
      have restarts : (system side).admission.localRestart.isSome := by
        rw [holds.restarts]
        rfl
      apply (admitCandidate_spec crypto restarts ..).2.imp_right
      rintro ⟨candidate, parsed, asInitiator⟩
      exact ⟨candidate, parsed, holds.taken asInitiator (admissible candidate parsed)⟩
    · intro event admissible
      obtain ⟨next, after, later⟩ := holds.step admissible crypto
      refine ⟨next, after.accepts, ?_⟩
      rcases eq_or_lt_of_le later with same | wins
      · exact .inl same.symm
      · exact .inr (decide_eq_true wins)

namespace RestartSample

/-- The first side is superseded by the second. -/
def own : Bool → RequestId
  | true => .filled 1
  | false => .filled 3

def number : Bool → UInt8
  | true => 1
  | false => 2

variable (side : Bool)

def context : SessionRestartContext where
  own := sampleEndpoint (number side)
  peer := sampleEndpoint (number !side)
  sessionId := sampleSessionId
  peerPublicKey := sampleKey (number !side)

def sign (_ : List UInt8) : Except Error IdentitySignature := .ok (filledBytes 64 1)

def sdp : List UInt8 := asciiBytes "a=ice-ufrag:abcd"

def offer (requestId : RequestId) : List UInt8 :=
  (buildSessionRestartOffer sign (context side) requestId (sampleNonce (number side)) sdp
    (sampleNonce 9) 1000).toOption.getD []

def canonicalOffer : List UInt8 :=
  ((parseSignedOffer (offer side (own side))).bind canonicalSignedOffer).toOption.getD []

/-- The answer of the first side to the second's offer. -/
def answer : List UInt8 :=
  (buildSessionRestartAnswer sign (context true) (own false) (sampleNonce 2) (sampleNonce 5) sdp
    (sampleNonce 8) 1000).toOption.getD []

def canonicalAnswer : List UInt8 :=
  ((parseSignedAnswer answer).bind canonicalSignedAnswer).toOption.getD []

def initial : RestartSystem := fun side =>
  .registered (context side) (own side) (sampleNonce (number side)) (canonicalOffer side)

/-- Both get the other's offer, and the second side gets the first's answer. -/
def events : List (Bool × RestartEvent) :=
  [(true, .offer (offer false (own false)) 2000 0), (false, .offer (offer true (own true)) 2000 0),
    (true, .answered (sampleNonce 5) canonicalAnswer), (false, .answer answer 2000 1)]

def final : RestartSystem := events.foldl (RestartSystem.step keyCrypto) initial

/-- A candidate of the second side, the initiator of the surviving restart. -/
def candidate : List UInt8 :=
  (buildSessionRestartCandidate sign
    { initiator := sampleEndpoint 2, responder := sampleEndpoint 1, requestId := own false
      sessionId := sampleSessionId, initiatorNonce := sampleNonce 2
      responderNonce := some (sampleNonce 5) }
    1 (asciiBytes "candidate:1") ((final true).admission.transcript.getD (sampleNonce 0))
    (asciiBytes "abcd") (sampleNonce 9) 1000).toOption.getD []

theorem initial_starts : RestartSystem.Starts own initial :=
  ⟨context, fun side => by cases side <;> exact ⟨rfl, rfl⟩, fun _ => ⟨_, _, rfl⟩⟩

theorem events_admissible :
    Machine.EachAllowed (RestartSystem.step keyCrypto) (RestartSystem.Admissible own) initial
      events := by
  refine ⟨fun _ _ wins survivor member => ?_, fun _ _ wins survivor member => ?_, trivial, ?_,
    trivial⟩
  · cases Option.some.inj member
    exact le_of_lt wins
  · cases Option.some.inj member
    exact le_of_lt wins
  · intro answer _ superseded
    exact absurd (by decide +kernel) superseded

end RestartSample

open RestartSample in
theorem restart_glare_converges_sample :
    ∃ winner, sessionRestartOfferWins (own winner) (own !winner) = true ∧
      ∀ side, (final side).admission.acceptedRequest = some (own winner) :=
  (restart_glare_converges (by decide)
    ((Machine.Reaches.start initial_starts).foldl events_admissible)).1
      (by decide +kernel) (by decide +kernel)

open RestartSample in
/-- The side that lost rejects a candidate of the winner, and gives the surviving
restart up for an offer that only beats the one it has lost. -/
theorem restart_glare_diverges :
    (final true).admission.acceptedRequest = some (own false) ∧
    (final false).admission.acceptedRequest = some (own false) ∧
    (final false).admission.diagnostics.answersAdmitted = 1 ∧
    ((final true).admission.admitCandidate keyCrypto candidate 2000 2).1 =
      .error (restartError .protocol "restart_candidate_binding_mismatch") ∧
    ((final true).admission.admitOffer keyCrypto (offer false ⟨List.replicate 16 2, rfl⟩) 2000
      2).2.acceptedRequest = some ⟨List.replicate 16 2, rfl⟩ ∧
    sessionRestartOfferWins ⟨List.replicate 16 2, rfl⟩ (own false) = false := by
  decide +kernel

end Heyaki
