/-
Purpose: the objects of a session restart and the admission of the peer's
(`session_restart.cpp`).

An admission answers with its new state.  `steady` is the reading of the steady
clock inside the replay cache, `now` the wall clock the caller passes.  Checks of an
object that only read the context and end in the same rejection are one function.

Trusted boundary: `IdentityCrypto`, the signing function of the builders
-/
import Heyaki.Core.ReplayCache

namespace Heyaki

open Foundation

def maxSessionRestartCandidates : Nat := 128
def sessionRestartValidityMilliseconds : UInt64 := 30000

def restartError (code : ErrorCode) (detail : String) : Error :=
  { code := code, component := "session_restart", safeDetail := detail }

/-- The greater request id wins. -/
def sessionRestartOfferWins (candidate other : RequestId) : Bool :=
  other < candidate

/-- What the authenticated session fixes for every object of a restart. -/
structure SessionRestartContext where
  own : DeviceEndpointKey
  peer : DeviceEndpointKey
  sessionId : SessionId
  currentEpoch : UInt64 := 1
  peerPublicKey : IdentityPublicKey
  replayPolicy : ReplayCachePolicy := {}

/-! ### Building objects -/

section Builders

-- `sign_identity_message` of the builder's own identity
variable (sign : List UInt8 → Except Error IdentitySignature)

def noSignature : IdentitySignature := filledBytes 64 0

def buildSessionRestartOffer (context : SessionRestartContext) (requestId : RequestId)
    (initiatorNonce : SignalingNonce) (sdp : List UInt8) (fingerprint : DtlsFingerprint)
    (now : UInt64) : Except Error (List UInt8) := do
  let offer : SignedOffer :=
    { binding :=
        { initiator := context.own, responder := context.peer, requestId := requestId
          sessionId := context.sessionId, initiatorNonce := initiatorNonce
          expiresUnixMilliseconds := now + sessionRestartValidityMilliseconds }
      sdp := sdp, dtlsFingerprint := fingerprint, signature := noSignature }
  let signature ← sign (← canonicalSignedOffer offer)
  encodeSignedOffer { offer with signature := signature }

def buildSessionRestartAnswer (context : SessionRestartContext) (requestId : RequestId)
    (initiatorNonce responderNonce : SignalingNonce) (sdp : List UInt8)
    (fingerprint : DtlsFingerprint) (now : UInt64) : Except Error (List UInt8) := do
  let answer : SignedAnswer :=
    { binding :=
        { initiator := context.peer, responder := context.own, requestId := requestId
          sessionId := context.sessionId, initiatorNonce := initiatorNonce
          expiresUnixMilliseconds := now + sessionRestartValidityMilliseconds
          responderNonce := some responderNonce }
      sdp := sdp, dtlsFingerprint := fingerprint, signature := noSignature }
  let signature ← sign (← canonicalSignedAnswer answer)
  encodeSignedAnswer { answer with signature := signature }

def buildSessionRestartCandidate (binding : SignalBinding) (sequence : UInt32)
    (candidate : List UInt8) (transcript : SignalingTranscriptSha256) (ownerUfrag : List UInt8)
    (ownerFingerprint : DtlsFingerprint) (now : UInt64) : Except Error (List UInt8) := do
  let object : SignedCandidate :=
    { binding := { binding with
        expiresUnixMilliseconds := now + sessionRestartValidityMilliseconds }
      sequence := sequence, candidate := candidate, signalingTranscriptSha256 := transcript
      ownerIceUfrag := ownerUfrag, ownerDtlsFingerprint := ownerFingerprint
      signature := noSignature }
  let signature ← sign (← canonicalSignedCandidate object)
  encodeSignedCandidate { object with signature := signature }

end Builders

/-! ### The record -/

structure SessionRestartDiagnostics where
  offersAdmitted : Nat := 0
  answersAdmitted : Nat := 0
  candidatesAdmitted : Nat := 0
  duplicatesIgnored : Nat := 0
  replayRejected : Nat := 0
  glareSuppressed : Nat := 0
  rejected : Nat := 0

/-- `localRestart` stays once it is set; `acceptedRequest` is the restart the other
parts belong to. -/
structure SessionRestartAdmission where
  context : SessionRestartContext
  replay : Option SignalingReplayCache
  diagnostics : SessionRestartDiagnostics := {}
  acceptedRequest : Option RequestId := none
  canonicalOffer : Option (List UInt8) := none
  initiatorNonce : Option SignalingNonce := none
  responderNonce : Option SignalingNonce := none
  transcript : Option SignalingTranscriptSha256 := none
  peerFingerprint : Option DtlsFingerprint := none
  peerUfrag : Option (List UInt8) := none
  localRestart : Option RequestId := none
  /-- The payload of each sequence number. -/
  acceptedCandidates : SortedMap Nat (List UInt8) := {}
  peerCandidateSequence : UInt32 := 0
  admittedCandidates : Nat := 0

structure AdmittedSessionRestartOffer where
  offer : SignedOffer
  canonicalOffer : List UInt8
  nextEpoch : UInt64
  supersedesLocalRestart : Bool

structure AdmittedSessionRestartAnswer where
  answer : SignedAnswer
  canonicalAnswer : List UInt8
  transcript : SignalingTranscriptSha256

namespace SessionRestartAdmission

def create (context : SessionRestartContext) : SessionRestartAdmission where
  context := context
  replay := (SignalingReplayCache.create context.replayPolicy).toOption

variable (admission : SessionRestartAdmission)

def setLocalRestart (requestId : RequestId) (restartInitiatorNonce : SignalingNonce)
    (canonicalOffer : List UInt8) : SessionRestartAdmission :=
  { admission with
    localRestart := some requestId
    acceptedRequest := some requestId
    initiatorNonce := some restartInitiatorNonce
    canonicalOffer := some canonicalOffer }

variable (crypto : IdentityCrypto)

def setLocalRestartAnswer (admission : SessionRestartAdmission) (responderNonce : SignalingNonce)
    (canonicalAnswer : List UInt8) : Except Error Unit × SessionRestartAdmission :=
  match admission.canonicalOffer with
  | none => (.error (restartError .internal "restart_answer_without_offer"), admission)
  | some canonicalOffer =>
    match hashSignalingTranscript crypto.sha256 canonicalOffer canonicalAnswer with
    | .error error => (.error error, admission)
    | .ok transcript =>
      (.ok (), { admission with
        responderNonce := some responderNonce, transcript := some transcript })

/-! ### Counting -/

def countRejected : SessionRestartAdmission :=
  { admission with diagnostics := { admission.diagnostics with
      rejected := admission.diagnostics.rejected + 1 } }

def countReplayRejected : SessionRestartAdmission :=
  { admission with diagnostics := { admission.diagnostics with
      replayRejected := admission.diagnostics.replayRejected + 1 } }

def countDuplicate : SessionRestartAdmission :=
  { admission with diagnostics := { admission.diagnostics with
      duplicatesIgnored := admission.diagnostics.duplicatesIgnored + 1 } }

def countSuppressed : SessionRestartAdmission :=
  { admission with diagnostics := { admission.diagnostics with
      glareSuppressed := admission.diagnostics.glareSuppressed + 1 } }

variable (replay : SignalingReplayCache)

/-- The replay cache is asked about an object of the peer. -/
def consultReplay (domain : SigningDomain) (binding : SignalBinding)
    (responderNonce : Option SignalingNonce) (sequence : Option UInt32) (steady : Nat) :
    Except Error SignalingReplayDecision × SessionRestartAdmission :=
  let (decision, replay) := replay.admitObject domain admission.context.peer.deviceId binding.requestId
    binding.sessionId binding.initiatorNonce responderNonce sequence steady
  (decision, { admission with replay := some replay })

/-! ### Offers -/

/-- An object that was read, with the user fragment and the canonical bytes of it. -/
structure ReadDescription where
  description : SignedDescription
  ufrag : List UInt8
  canonical : List UInt8

def readOffer (context : SessionRestartContext) (payload : List UInt8) (now : UInt64) :
    Except Error ReadDescription := do
  let offer ← parseSignedOffer payload
  if offer.binding.initiator ≠ context.peer ∨ offer.binding.responder ≠ context.own ∨
      offer.binding.sessionId ≠ context.sessionId ∨ offer.binding.responderNonce.isSome then
    throw (restartError .protocol "restart_offer_binding_mismatch")
  verifySignedOffer crypto offer context.peerPublicKey now
  let ufrag ← parseSdpIceUfrag offer.sdp
  let canonical ← canonicalSignedOffer offer
  return { description := offer, ufrag := ufrag, canonical := canonical }

/-- An offer that is neither suppressed nor known nor in conflict. -/
def acceptOffer (read : ReadDescription) (glareCandidate : Bool) (steady : Nat) :
    Except Error (Option AdmittedSessionRestartOffer) × SessionRestartAdmission :=
  let offer := read.description
  match admission.consultReplay replay .offer offer.binding none none steady with
  | (.error error, admission) => (.error error, admission.countReplayRejected)
  | (.ok .duplicate, admission) =>
    (.error (restartError .protocol "restart_offer_replayed"), admission.countReplayRejected)
  | (.ok .capacityRejected, admission) =>
    (.error (restartError .resourceExhausted "replay_cache_saturated"),
      admission.countReplayRejected)
  | (.ok .admitted, admission) =>
    (.ok (some
      { offer := offer, canonicalOffer := read.canonical
        nextEpoch := admission.context.currentEpoch + 1
        supersedesLocalRestart := glareCandidate }),
      { admission with
        acceptedRequest := some offer.binding.requestId
        canonicalOffer := some read.canonical
        initiatorNonce := some offer.binding.initiatorNonce
        peerFingerprint := some offer.dtlsFingerprint
        peerUfrag := some read.ufrag
        diagnostics := { admission.diagnostics with
          offersAdmitted := admission.diagnostics.offersAdmitted + 1 } })

def admitOffer (admission : SessionRestartAdmission) (payload : List UInt8) (now : UInt64)
    (steady : Nat) : Except Error (Option AdmittedSessionRestartOffer) × SessionRestartAdmission :=
  match admission.replay with
  | none => (.error (restartError .internal "restart_replay_cache_unavailable"), admission)
  | some replay =>
    match readOffer crypto admission.context payload now with
    | .error error => (.error error, admission.countRejected)
    | .ok read =>
      let requestId := read.description.binding.requestId
      let glareCandidate := admission.localRestart.any fun own => requestId != own
      -- the own restart wins: the peer gives its attempt up by the same rule
      if glareCandidate && admission.localRestart.any fun own =>
          !sessionRestartOfferWins requestId own then
        (.ok none, admission.countSuppressed)
      else if admission.acceptedRequest = some requestId then
        (.ok none, admission.countDuplicate)
      else if admission.acceptedRequest.isSome && !glareCandidate then
        (.error (restartError .protocol "restart_offer_conflict"), admission.countRejected)
      else admission.acceptOffer replay read glareCandidate steady

/-! ### Answers -/

/-- What an answer must be bound to; a missing part means that there is no restart
of this side. -/
def answerBound (binding : SignalBinding) : Except Error Unit :=
  match admission.acceptedRequest, admission.initiatorNonce with
  | some accepted, some nonce =>
    if admission.canonicalOffer.isNone || admission.localRestart.isNone then
      .error (restartError .protocol "restart_answer_without_local_restart")
    else if binding.initiator ≠ admission.context.own ∨
        binding.responder ≠ admission.context.peer ∨ binding.requestId ≠ accepted ∨
        binding.sessionId ≠ admission.context.sessionId ∨ binding.initiatorNonce ≠ nonce ∨
        binding.responderNonce.isNone then
      .error (restartError .protocol "restart_answer_binding_mismatch")
    else .ok ()
  | _, _ => .error (restartError .protocol "restart_answer_without_local_restart")

def readAnswer (admission : SessionRestartAdmission) (payload : List UInt8) (now : UInt64) :
    Except Error ReadDescription := do
  let answer ← parseSignedAnswer payload
  admission.answerBound answer.binding
  verifySignedAnswer crypto answer admission.context.peerPublicKey now
  let ufrag ← parseSdpIceUfrag answer.sdp
  let canonical ← canonicalSignedAnswer answer
  return { description := answer, ufrag := ufrag, canonical := canonical }

/-- The first answer of a restart. -/
def acceptAnswer (read : ReadDescription) (transcript : SignalingTranscriptSha256) (steady : Nat) :
    Except Error (Option AdmittedSessionRestartAnswer) × SessionRestartAdmission :=
  let answer := read.description
  match admission.consultReplay replay .answer answer.binding answer.binding.responderNonce none
      steady with
  | (.error error, admission) => (.error error, admission.countReplayRejected)
  | (.ok .duplicate, admission) =>
    (.error (restartError .protocol "restart_answer_replayed"), admission.countReplayRejected)
  | (.ok .capacityRejected, admission) =>
    (.error (restartError .resourceExhausted "replay_cache_saturated"),
      admission.countReplayRejected)
  | (.ok .admitted, admission) =>
    (.ok (some { answer := answer, canonicalAnswer := read.canonical, transcript := transcript }),
      { admission with
        responderNonce := answer.binding.responderNonce
        transcript := some transcript
        peerFingerprint := some answer.dtlsFingerprint
        peerUfrag := some read.ufrag
        diagnostics := { admission.diagnostics with
          answersAdmitted := admission.diagnostics.answersAdmitted + 1 } })

def admitAnswer (admission : SessionRestartAdmission) (payload : List UInt8) (now : UInt64)
    (steady : Nat) : Except Error (Option AdmittedSessionRestartAnswer) × SessionRestartAdmission :=
  match admission.replay with
  | none => (.error (restartError .internal "restart_replay_cache_unavailable"), admission)
  | some replay =>
    match readAnswer crypto admission payload now with
    | .error error => (.error error, admission.countRejected)
    | .ok read =>
      if admission.responderNonce.isSome then
        if admission.responderNonce = read.description.binding.responderNonce then
          (.ok none, admission.countDuplicate)
        else
          (.error (restartError .protocol "restart_answer_conflict"), admission.countRejected)
      else
        match hashSignalingTranscript crypto.sha256 (admission.canonicalOffer.getD [])
            read.canonical with
        | .error error => (.error error, admission.countRejected)
        | .ok transcript => admission.acceptAnswer replay read transcript steady

/-! ### Candidates -/

/-- The endpoints are absolute, and a side takes itself for the initiator once it has
registered a restart of its own. -/
def candidateBound (binding : SignalBinding) : Except Error Unit :=
  match admission.acceptedRequest, admission.initiatorNonce, admission.responderNonce,
      admission.transcript with
  | some accepted, some initiatorNonce, some responderNonce, some _ =>
    let localIsInitiator := admission.localRestart.isSome
    let initiator := if localIsInitiator then admission.context.own else admission.context.peer
    let responder := if localIsInitiator then admission.context.peer else admission.context.own
    if binding.initiator ≠ initiator ∨ binding.responder ≠ responder ∨
        binding.requestId ≠ accepted ∨ binding.sessionId ≠ admission.context.sessionId ∨
        binding.initiatorNonce ≠ initiatorNonce ∨
        binding.responderNonce ≠ some responderNonce then
      .error (restartError .protocol "restart_candidate_binding_mismatch")
    else .ok ()
  | _, _, _, _ => .error (restartError .protocol "restart_candidate_before_answer")

def readCandidate (admission : SessionRestartAdmission) (payload : List UInt8) (now : UInt64) :
    Except Error SignedCandidate := do
  let candidate ← parseSignedCandidate payload
  admission.candidateBound candidate.binding
  let _ ← verifySignedCandidate crypto candidate admission.context.peerPublicKey now
  if some candidate.signalingTranscriptSha256 ≠ admission.transcript ∨
      some candidate.ownerDtlsFingerprint ≠ admission.peerFingerprint ∨
      some candidate.ownerIceUfrag ≠ admission.peerUfrag then
    throw (restartError .protocol "restart_candidate_transcript_mismatch")
  if admission.admittedCandidates ≥ maxSessionRestartCandidates then
    throw (restartError .resourceExhausted "restart_candidate_budget_exhausted")
  return candidate

def acceptCandidate (candidate : SignedCandidate) (payload : List UInt8) (steady : Nat) :
    Except Error (Option SignedCandidate) × SessionRestartAdmission :=
  match admission.consultReplay replay .candidate candidate.binding
      candidate.binding.responderNonce (some candidate.sequence) steady with
  | (.error error, admission) => (.error error, admission.countReplayRejected)
  | (.ok .duplicate, admission) =>
    if admission.acceptedCandidates.find? candidate.sequence.toNat = some payload then
      (.ok none, admission.countDuplicate)
    else
      (.error (restartError .protocol "restart_candidate_duplicate_bytes_differ"),
        admission.countRejected)
  | (.ok .capacityRejected, admission) =>
    (.error (restartError .resourceExhausted "replay_cache_saturated"),
      admission.countReplayRejected)
  | (.ok .admitted, admission) =>
    if candidate.sequence ≤ admission.peerCandidateSequence then
      (.error (restartError .protocol "restart_candidate_sequence_not_increasing"),
        admission.countRejected)
    else
      (.ok (some candidate),
        { admission with
          peerCandidateSequence := candidate.sequence
          acceptedCandidates :=
            if admission.acceptedCandidates.contains candidate.sequence.toNat then
              admission.acceptedCandidates
            else admission.acceptedCandidates.insert candidate.sequence.toNat payload
          admittedCandidates := admission.admittedCandidates + 1
          diagnostics := { admission.diagnostics with
            candidatesAdmitted := admission.diagnostics.candidatesAdmitted + 1 } })

def admitCandidate (admission : SessionRestartAdmission) (payload : List UInt8) (now : UInt64)
    (steady : Nat) : Except Error (Option SignedCandidate) × SessionRestartAdmission :=
  match admission.replay with
  | none => (.error (restartError .internal "restart_replay_cache_unavailable"), admission)
  | some replay =>
    match readCandidate crypto admission payload now with
    | .error error => (.error error, admission.countRejected)
    | .ok candidate => admission.acceptCandidate replay candidate payload steady

end SessionRestartAdmission

end Heyaki
