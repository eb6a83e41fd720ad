/-
Purpose: what two peers agree on with their hellos.

Negotiation treats both sides alike, and an admission accepts one hello at most:
from then on it is a fixed record that later payloads are compared with.

Trusted boundary: `IdentityCrypto`
Main exports: `negotiateProtocol_comm`, `hello_admission`, `negotiation_agreement`
-/
import Heyaki.Core.SessionHello
import Heyaki.Foundation.Machine

namespace Heyaki

/-! ### Negotiation -/

theorem negotiateProtocol_comm (own remote : ProtocolHello) :
    negotiateProtocol own remote = negotiateProtocol remote own := by
  unfold negotiateProtocol
  rw [UInt64.or_comm own.required.bits, Bool.or_comm (!own.supported.contains own.required)]
  split
  · rfl
  split
  · rfl
  by_cases majors : own.version.major = remote.version.major
  · -- with one major version the lesser minor version is the same from both sides
    have minors : (if own.version.minor ≤ remote.version.minor then own.version.minor
        else remote.version.minor) =
      if remote.version.minor ≤ own.version.minor then remote.version.minor
        else own.version.minor := by
      simp only [UInt32.le_iff_toNat_le, ← UInt32.toNat_inj]
      split_ifs <;> omega
    simp only [majors, minors, ne_eq, not_true_eq_false, if_false,
      UInt64.and_comm own.supported.bits, Bool.or_comm (!CapabilitySet.contains _ own.required)]
  · rw [if_pos majors, if_pos (Ne.symm majors)]

/-- The minor version that a capability came with. -/
def Capability.introducedIn : Capability → UInt32
  | .lanDiscoveryV1 | .lanSignalingV1 => 1
  | .sessionRestartV1 => 2
  | .gatewayV1 | .pairingApprovalV1 | .relayEnrollmentPasswordV1 | .relayIceConfigV1 => 3
  | _ => 0

theorem capabilitiesForVersion_introduced {version : ProtocolVersion} {capability : Capability}
    (has : CapabilitySet.has ⟨capabilitiesForVersion version⟩ capability = true) :
    capability.introducedIn ≤ version.minor := by
  unfold capabilitiesForVersion at has
  split_ifs at has with major zero one two
  · have empty : CapabilitySet.has ⟨0⟩ capability = false := by cases capability <;> decide
    exact absurd (empty.symm.trans has) Bool.false_ne_true
  · rw [zero]
    revert has
    cases capability <;> decide
  · rw [one]
    revert has
    cases capability <;> decide
  · rw [two]
    revert has
    cases capability <;> decide
  · have late : (3 : UInt32) ≤ version.minor := by
      simp only [UInt32.le_iff_toNat_le, ← UInt32.toNat_inj] at zero one two ⊢
      have three : (3 : UInt32).toNat = 3 := rfl
      have second : (2 : UInt32).toNat = 2 := rfl
      have first : (1 : UInt32).toNat = 1 := rfl
      have none : (0 : UInt32).toNat = 0 := rfl
      omega
    refine UInt32.le_trans ?_ late
    cases capability <;> decide

theorem capabilitiesForVersion_known (version : ProtocolVersion) :
    capabilitiesForVersion version &&& ~~~knownCapabilityBits = 0 := by
  unfold capabilitiesForVersion
  split_ifs <;> decide

/-- What holds of a negotiated protocol. -/
structure Agreed (own remote : ProtocolHello) (negotiated : NegotiatedProtocol) : Prop where
  major : negotiated.version.major = own.version.major ∧
    negotiated.version.major = remote.version.major
  required : negotiated.capabilities.contains own.required = true ∧
    negotiated.capabilities.contains remote.required = true
  supported : own.supported.contains negotiated.capabilities = true ∧
    remote.supported.contains negotiated.capabilities = true
  known : negotiated.capabilities.bits &&& ~~~knownCapabilityBits = 0
  introduced : ∀ capability, negotiated.capabilities.has capability = true →
    capability.introducedIn ≤ negotiated.version.minor

theorem negotiateProtocol_ok {own remote : ProtocolHello} {negotiated : NegotiatedProtocol}
    (success : negotiateProtocol own remote = .ok negotiated) : Agreed own remote negotiated := by
  unfold negotiateProtocol at success
  extract_lets version capabilities at success
  split_ifs at success with unknown invalid major unavailable
  · simp only [Bool.or_eq_true, Bool.not_eq_true', not_or, Bool.not_eq_false] at unavailable
    cases success
    have bits : capabilities.bits =
      own.supported.bits &&& (remote.supported.bits &&& capabilitiesForVersion version) :=
      UInt64.and_assoc _ _ _
    refine ⟨⟨rfl, not_not.mp major⟩, unavailable, ?_, ?_, ?_⟩
    · simp only [CapabilitySet.contains, beq_iff_eq, bits]
      constructor
      · rw [← UInt64.and_assoc, UInt64.and_self]
      · rw [← UInt64.and_assoc, UInt64.and_comm remote.supported.bits, UInt64.and_assoc,
          ← UInt64.and_assoc remote.supported.bits, UInt64.and_self]
    · simp only [bits, UInt64.and_assoc, capabilitiesForVersion_known, UInt64.and_zero]
    · intro capability has
      apply capabilitiesForVersion_introduced
      -- A capability of a masked set is one of the mask.
      simp only [CapabilitySet.has, bne_iff_ne, ne_eq] at has ⊢
      intro none
      rw [UInt64.and_assoc, none, UInt64.and_zero] at has
      exact has rfl

/-! ### Runs of an admission -/

namespace SessionHelloAdmission

/-- A payload and the wall clock when it is handed over. -/
structure Call where
  payload : List UInt8
  now : UInt64

def step (admission : SessionHelloAdmission) (call : Call) : SessionHelloAdmission :=
  (admission.admitHello call.payload call.now).2

def run (admission : SessionHelloAdmission) (calls : List Call) : SessionHelloAdmission :=
  calls.foldl step admission

def Accepts (admission : SessionHelloAdmission) (call : Call) : Prop :=
  ∃ outcome, (admission.admitHello call.payload call.now).1 = .ok outcome ∧ outcome.action = .accepted

/-- The payloads that a run accepts, in order. -/
def acceptedPayloads : SessionHelloAdmission → List Call → List (List UInt8)
  | _, [] => []
  | admission, call :: calls =>
    match (admission.admitHello call.payload call.now).1 with
    | .ok { action := .accepted, .. } =>
      call.payload :: acceptedPayloads (admission.step call) calls
    | _ => acceptedPayloads (admission.step call) calls

/-- The record of an accepted hello: how it was read and what came of it. -/
structure Settled (admission : SessionHelloAdmission) (payload : List UInt8)
    (negotiated : NegotiatedProtocol) : Prop where
  accepted : admission.acceptedPayload = some payload
  recorded : admission.negotiatedProtocol = some negotiated
  reading : ∃ hello, admission.read payload = .ok hello ∧
    hello.sessionEpoch = admission.expectedEpoch ∧
    negotiateProtocol admission.localProtocol hello.protocol = .ok negotiated

/-- An admission that has accepted nothing, or one hello with its negotiation. -/
def Consistent (admission : SessionHelloAdmission) : Prop :=
  admission.acceptedPayload = none ∨ ∃ payload negotiated, admission.Settled payload negotiated

theorem step_of_not_accepts {admission : SessionHelloAdmission} {call : Call}
    (refused : ¬admission.Accepts call) : admission.step call = admission := by
  rcases admission.admit_cases call.payload call.now with ⟨negotiated, _, admitted, _⟩ | ⟨same, _⟩
  · exact absurd ⟨_, congrArg Prod.fst admitted, rfl⟩ refused
  · exact same

/-- An acceptance settles an admission that had accepted nothing. -/
theorem settled_of_accepts {admission : SessionHelloAdmission} {call : Call}
    (accepts : admission.Accepts call) :
    admission.acceptedPayload = none ∧
      ∃ negotiated, (admission.step call).Settled call.payload negotiated := by
  rcases admission.admit_cases call.payload call.now with
    ⟨negotiated, fresh, admitted, hello, reading, epoch, negotiation⟩ | ⟨-, other⟩
  · refine ⟨fresh, negotiated, ?_⟩
    unfold step
    rw [admitted]
    exact ⟨rfl, rfl, hello, reading, epoch, negotiation⟩
  · obtain ⟨outcome, answered, action⟩ := accepts
    exact absurd action (other outcome answered)

variable {admission : SessionHelloAdmission} {payload : List UInt8}
  {negotiated : NegotiatedProtocol}

section

variable (settled : admission.Settled payload negotiated)

include settled

theorem Settled.not_accepts (call : Call) : ¬admission.Accepts call := by
  intro accepts
  have fresh := (settled_of_accepts accepts).1
  rw [settled.accepted] at fresh
  cases fresh

theorem Settled.step (call : Call) : admission.step call = admission :=
  step_of_not_accepts (settled.not_accepts call)

theorem Settled.run (calls : List Call) : admission.run calls = admission := by
  induction calls with
  | nil => rfl
  | cons call calls ih => rw [SessionHelloAdmission.run, List.foldl_cons, settled.step call]; exact ih

theorem Settled.acceptedPayloads (calls : List Call) : admission.acceptedPayloads calls = [] := by
  induction calls with
  | nil => rfl
  | cons call calls ih =>
    have refused := settled.not_accepts call
    rw [SessionHelloAdmission.acceptedPayloads, settled.step call]
    split
    · rename_i answered
      exact absurd ⟨_, answered, rfl⟩ refused
    · exact ih

theorem Settled.duplicate (now : UInt64) :
    (admission.admitHello payload now).1 =
      .ok { action := .duplicate, negotiatedProtocol := some negotiated } := by
  obtain ⟨hello, reading, epoch, _⟩ := settled.reading
  have neither := UInt64.lt_irrefl admission.expectedEpoch
  simp only [admitHello, reading, epoch, gt_iff_lt, if_neg neither, settled.accepted, if_true,
    settled.recorded]

end

theorem Settled.rejects (settled : admission.Settled payload negotiated) {other : List UInt8}
    (different : other ≠ payload)
    (notLate : ∀ hello, admission.read other = .ok hello →
      ¬hello.sessionEpoch < admission.expectedEpoch) (now : UInt64) :
    ∃ error, (admission.admitHello other now).1 = .error error := by
  unfold admitHello
  cases reading : admission.read other with
  | error error => exact ⟨error, rfl⟩
  | ok hello =>
    dsimp only
    rw [if_neg (notLate hello reading)]
    split
    · exact ⟨_, rfl⟩
    · simp only [settled.accepted, if_neg different]
      exact ⟨_, rfl⟩

section

variable (consistent : admission.Consistent)

include consistent

theorem Consistent.step (call : Call) : (admission.step call).Consistent := by
  by_cases accepts : admission.Accepts call
  · obtain ⟨_, negotiated, settled⟩ := settled_of_accepts accepts
    exact .inr ⟨_, negotiated, settled⟩
  · rw [step_of_not_accepts accepts]
    exact consistent

theorem Consistent.run (calls : List Call) : (admission.run calls).Consistent := by
  induction calls generalizing admission with
  | nil => exact consistent
  | cons call calls ih => exact ih (consistent.step call)

theorem Consistent.length_acceptedPayloads_le (calls : List Call) :
    (admission.acceptedPayloads calls).length ≤ 1 := by
  induction calls generalizing admission with
  | nil => exact Nat.zero_le 1
  | cons call calls ih =>
    rw [SessionHelloAdmission.acceptedPayloads]
    split
    · rename_i answered
      obtain ⟨_, negotiated, settled⟩ := settled_of_accepts ⟨_, answered, rfl⟩
      rw [settled.acceptedPayloads]
      rfl
    · exact ih (consistent.step call)

end

/-- Admission changes what was accepted and negotiated, nothing else. -/
theorem step_fixed (admission : SessionHelloAdmission) (call : Call) :
    (admission.step call).read = admission.read ∧
      (admission.step call).expectedEpoch = admission.expectedEpoch ∧
      (admission.step call).localProtocol = admission.localProtocol := by
  unfold step
  rcases admission.admit_cases call.payload call.now with ⟨_, _, admitted, _⟩ | ⟨same, _⟩
  · rw [admitted]
    exact ⟨rfl, rfl, rfl⟩
  · rw [same]
    exact ⟨rfl, rfl, rfl⟩

theorem run_fixed (admission : SessionHelloAdmission) (calls : List Call) :
    (admission.run calls).read = admission.read ∧
      (admission.run calls).expectedEpoch = admission.expectedEpoch ∧
      (admission.run calls).localProtocol = admission.localProtocol := by
  induction calls generalizing admission with
  | nil => exact ⟨rfl, rfl, rfl⟩
  | cons call calls ih =>
    obtain ⟨reads, epochs, protocols⟩ := ih (admission.step call)
    obtain ⟨read, epoch, protocol⟩ := admission.step_fixed call
    exact ⟨reads.trans read, epochs.trans epoch, protocols.trans protocol⟩

end SessionHelloAdmission

open SessionHelloAdmission

section Admission

variable (crypto : IdentityCrypto) (expectation : SessionHelloExpectation)
  (senderPublicKey : IdentityPublicKey) (localProtocol : ProtocolHello)

/-- Over any sequence of payloads an admission accepts at most one.  What is not
accepted changes nothing.  After the acceptance the record stays as it is: the
accepted bytes are a duplicate, an earlier epoch is late, and all else fails. -/
theorem hello_admission (calls : List Call) :
    let start := expecting crypto expectation senderPublicKey localProtocol
    let reached := start.run calls
    (start.acceptedPayloads calls).length ≤ 1 ∧
    (∀ call, ¬reached.Accepts call → reached.step call = reached) ∧
    ∀ accepted, reached.acceptedPayload = some accepted →
      ∃ negotiated, reached.negotiatedProtocol = some negotiated ∧
        (∀ more, reached.run more = reached) ∧
        (∀ now, (reached.admitHello accepted now).1 =
          .ok { action := .duplicate, negotiatedProtocol := some negotiated }) ∧
        ∀ payload now, payload ≠ accepted →
          (∃ hello, readSessionHello crypto expectation senderPublicKey payload = .ok hello ∧
            hello.sessionEpoch < expectation.sessionEpoch ∧
            (reached.admitHello payload now).1 = .ok { action := .lateEpoch }) ∨
          ((∀ hello, readSessionHello crypto expectation senderPublicKey payload = .ok hello →
              ¬hello.sessionEpoch < expectation.sessionEpoch) ∧
            ∃ error, (reached.admitHello payload now).1 = .error error) := by
  intro start reached
  have initial : start.Consistent := .inl rfl
  refine ⟨initial.length_acceptedPayloads_le calls, fun _ => step_of_not_accepts, ?_⟩
  intro accepted recorded
  obtain ⟨read, epoch, _⟩ := start.run_fixed calls
  rcases initial.run calls with none | ⟨payload, negotiated, settled⟩
  · rw [none] at recorded
    cases recorded
  have same : payload = accepted := Option.some.inj (settled.accepted.symm.trans recorded)
  subst same
  refine ⟨negotiated, settled.recorded, settled.run, settled.duplicate, ?_⟩
  intro other now different
  by_cases late : ∃ hello, reached.read other = .ok hello ∧
      hello.sessionEpoch < reached.expectedEpoch
  · obtain ⟨hello, reading, earlier⟩ := late
    refine .inl ⟨hello, ?_, ?_, ?_⟩
    · rw [← reading]
      exact (congrFun read other).symm
    · rwa [epoch] at earlier
    · simp only [admitHello, reading, if_pos earlier]
  · refine .inr ⟨?_, settled.rejects different ?_ now⟩
    · intro hello reading earlier
      exact late ⟨hello, (congrFun read other).trans reading, epoch ▸ earlier⟩
    · intro hello reading earlier
      exact late ⟨hello, reading, earlier⟩

end Admission

/-! ### Two sample peers -/

/-- A device's id is its key. -/
def keyCrypto : IdentityCrypto where
  verifySignature _ _ _ := true
  deriveDeviceId key := .ok ⟨key.val, key.property⟩
  sha256 _ := filledBytes 32 1

def sampleKey (number : UInt8) : IdentityPublicKey := filledBytes 32 number

def sampleEndpoint (number : UInt8) : DeviceEndpointKey := ⟨.filled number, .filled number⟩

def sampleSessionId : SessionId := .filled 7

def sampleNonce (number : UInt8) : SignalingNonce := filledBytes 32 number

def sampleProtocol : ProtocolHello :=
  { version := currentProtocolVersion, supported := ⟨protocol13CapabilityBits⟩
    required := ⟨Capability.session.bit⟩ }

def sampleHello (sender peer : UInt8) : SignedSessionHello where
  sender := sampleEndpoint sender
  peer := sampleEndpoint peer
  sessionId := sampleSessionId
  sessionEpoch := 1
  initiatorNonce := sampleNonce 1
  responderNonce := sampleNonce 2
  signalingTranscriptSha256 := sampleNonce 3
  supported := sampleProtocol.supported
  expiresUnixMilliseconds := 60000
  signature := filledBytes 64 1

def sampleExpectation (sender peer : UInt8) : SessionHelloExpectation where
  sender := sampleEndpoint sender
  peer := sampleEndpoint peer
  sessionId := sampleSessionId
  sessionEpoch := 1
  initiatorNonce := sampleNonce 1
  responderNonce := sampleNonce 2
  signalingTranscriptSha256 := sampleNonce 3

/-- The run of the peer `own` that is handed the hello of the peer `sender`. -/
def sampleRun (own sender : UInt8) : SessionHelloAdmission :=
  (expecting keyCrypto (sampleExpectation sender own) (sampleKey sender)
    sampleProtocol).run [⟨sessionHelloBytes (sampleHello sender own), 1000⟩]

theorem sampleRun_accepts :
    (sampleRun 1 2).acceptedPayload = some (sessionHelloBytes (sampleHello 2 1)) ∧
      (sampleRun 2 1).acceptedPayload = some (sessionHelloBytes (sampleHello 1 2)) := by
  decide +kernel

theorem hello_admission_sample :
    ∃ negotiated, ((sampleRun 1 2).admitHello (sessionHelloBytes (sampleHello 2 1)) 2000).1 =
      .ok { action := .duplicate, negotiatedProtocol := some negotiated } := by
  obtain ⟨-, -, settled⟩ := hello_admission keyCrypto (sampleExpectation 2 1) (sampleKey 2)
    sampleProtocol [⟨sessionHelloBytes (sampleHello 2 1), 1000⟩]
  obtain ⟨negotiated, -, -, duplicate, -⟩ := settled _ sampleRun_accepts.1
  exact ⟨negotiated, duplicate 2000⟩

/-- The payload is a hello that describes the protocol. -/
def Describes (payload : List UInt8) (protocol : ProtocolHello) : Prop :=
  ∃ hello, parseSignedSessionHello payload = .ok hello ∧ hello.protocol = protocol

theorem readSessionHello_protocol {crypto : IdentityCrypto} {expectation : SessionHelloExpectation}
    {key : IdentityPublicKey} {payload : List UInt8} {facts : SessionHelloFacts}
    {protocol : ProtocolHello} (reading : readSessionHello crypto expectation key payload = .ok facts)
    (describes : Describes payload protocol) : facts.protocol = protocol := by
  obtain ⟨hello, parsed, same⟩ := describes
  rw [readSessionHello, parsed] at reading
  simp only [bind, Except.bind] at reading
  split at reading
  · cases reading
  split at reading
  · cases reading
  · cases reading
    exact same

/-- The record of one side says what it negotiated with the protocol of the other. -/
theorem negotiated_of_accepted {crypto : IdentityCrypto} {expectation : SessionHelloExpectation}
    {key : IdentityPublicKey} {own remote : ProtocolHello} {calls : List Call}
    {payload : List UInt8}
    (accepted : ((expecting crypto expectation key own).run calls).acceptedPayload = some payload)
    (describes : Describes payload remote) :
    ∃ negotiated,
      ((expecting crypto expectation key own).run calls).negotiatedProtocol = some negotiated ∧
        negotiateProtocol own remote = .ok negotiated := by
  obtain ⟨read, _, protocol⟩ := (expecting crypto expectation key own).run_fixed calls
  have start : (expecting crypto expectation key own).Consistent := .inl rfl
  rcases start.run calls with none | ⟨recorded, negotiated, settled⟩
  · rw [none] at accepted
    cases accepted
  have same : recorded = payload := Option.some.inj (settled.accepted.symm.trans accepted)
  subst same
  obtain ⟨facts, reading, _, negotiation⟩ := settled.reading
  have described := readSessionHello_protocol ((congrFun read recorded).symm.trans reading) describes
  rw [protocol, described] at negotiation
  exact ⟨negotiated, settled.recorded, negotiation⟩

/-- Negotiation answers both sides alike, with capabilities between what either
requires and what both support in the lesser version.  Two peers that have accepted
each other's hellos therefore hold one negotiated protocol. -/
theorem negotiation_agreement :
    (∀ own remote, negotiateProtocol own remote = negotiateProtocol remote own ∧
      ∀ negotiated, negotiateProtocol own remote = .ok negotiated → Agreed own remote negotiated) ∧
    ∀ (crypto : IdentityCrypto) (expectation expectation' : SessionHelloExpectation)
      (key key' : IdentityPublicKey) (own remote : ProtocolHello) (calls calls' : List Call)
      (payload payload' : List UInt8),
      ((expecting crypto expectation key own).run calls).acceptedPayload = some payload →
      Describes payload remote →
      ((expecting crypto expectation' key' remote).run calls').acceptedPayload = some payload' →
      Describes payload' own →
      ∃ negotiated,
        ((expecting crypto expectation key own).run calls).negotiatedProtocol = some negotiated ∧
        ((expecting crypto expectation' key'
          remote).run calls').negotiatedProtocol = some negotiated := by
  refine ⟨fun own remote => ⟨negotiateProtocol_comm own remote, fun _ => negotiateProtocol_ok⟩, ?_⟩
  intro crypto expectation expectation' key key' own remote calls calls' payload payload'
    accepted describes accepted' describes'
  obtain ⟨negotiated, held, success⟩ := negotiated_of_accepted accepted describes
  obtain ⟨negotiated', held', success'⟩ := negotiated_of_accepted accepted' describes'
  rw [negotiateProtocol_comm, success] at success'
  cases success'
  exact ⟨negotiated, held, held'⟩

theorem negotiation_agreement_sample :
    ∃ negotiated, (sampleRun 1 2).negotiatedProtocol = some negotiated ∧
      (sampleRun 2 1).negotiatedProtocol = some negotiated :=
  negotiation_agreement.2 keyCrypto (sampleExpectation 2 1) (sampleExpectation 1 2) (sampleKey 2)
    (sampleKey 1) sampleProtocol sampleProtocol _ _ _ _ sampleRun_accepts.1
    ⟨sampleHello 2 1, by decide +kernel, rfl⟩ sampleRun_accepts.2
    ⟨sampleHello 1 2, by decide +kernel, rfl⟩

end Heyaki
