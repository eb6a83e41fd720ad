/-
Purpose: capabilities and their negotiation (`protocol.cpp`), and the admission of
a peer's hello on one session (`session_protocol.cpp`).

Reading a hello is a parameter: parsing the signed object, verifying its signature
against the expected identity and comparing it with the expected binding all
precede the decisions about epoch, duplicates, expiry and protocol made here, and
answer with a failure or with the fields those decisions read.

Trusted boundary: `SessionHelloAdmission.read`
-/
import Heyaki.Core.TrustGrant

namespace Heyaki

/-! ### Capabilities -/

inductive Capability where
  | enrollment | signaling | session | pairing | message | unaryRpc | event | byteStream | file
  | shell | lanDiscoveryV1 | lanSignalingV1 | sessionRestartV1 | gatewayV1 | pairingApprovalV1
  | relayEnrollmentPasswordV1 | relayIceConfigV1
  deriving Repr, Inhabited, DecidableEq

/-- The bits 0..16 in the order of the capabilities. -/
def Capability.bit (capability : Capability) : UInt64 :=
  1 <<< UInt64.ofNat capability.ctorIdx

structure CapabilitySet where
  bits : UInt64 := 0
  deriving Repr, Inhabited, DecidableEq

def CapabilitySet.has (set : CapabilitySet) (capability : Capability) : Bool :=
  set.bits &&& capability.bit != 0

def CapabilitySet.contains (set required : CapabilitySet) : Bool :=
  set.bits &&& required.bits == required.bits

structure ProtocolVersion where
  major : UInt32 := 1
  minor : UInt32 := 1
  deriving Repr, Inhabited, DecidableEq

def currentProtocolVersion : ProtocolVersion := { major := 1, minor := 3 }

/-- Bits 0..9, 0..11, 0..12 and 0..16. -/
def protocol10CapabilityBits : UInt64 := 0x3ff
def protocol11CapabilityBits : UInt64 := 0xfff
def protocol12CapabilityBits : UInt64 := 0x1fff
def protocol13CapabilityBits : UInt64 := 0x1ffff
def knownCapabilityBits : UInt64 := protocol13CapabilityBits

def capabilitiesForVersion (version : ProtocolVersion) : UInt64 :=
  if version.major ≠ currentProtocolVersion.major then 0
  else if version.minor = 0 then protocol10CapabilityBits
  else if version.minor = 1 then protocol11CapabilityBits
  else if version.minor = 2 then protocol12CapabilityBits
  else protocol13CapabilityBits

structure ProtocolHello where
  version : ProtocolVersion := {}
  supported : CapabilitySet := {}
  required : CapabilitySet := {}
  deriving Repr, Inhabited, DecidableEq

structure NegotiatedProtocol where
  version : ProtocolVersion := {}
  capabilities : CapabilitySet := {}
  deriving Repr, Inhabited, DecidableEq

def negotiationError (detail : String) : Error :=
  { code := .protocol, component := "negotiation", safeDetail := detail }

def negotiateProtocol (own remote : ProtocolHello) : Except Error NegotiatedProtocol :=
  if (own.required.bits ||| remote.required.bits) &&& ~~~knownCapabilityBits ≠ 0 then
    .error (negotiationError "unknown_required_capability")
  else if !own.supported.contains own.required || !remote.supported.contains remote.required then
    .error (negotiationError "invalid_required_capabilities")
  else if own.version.major ≠ remote.version.major then
    .error (negotiationError "incompatible_major_version")
  else
    let version : ProtocolVersion := {
      major := own.version.major
      minor := if own.version.minor ≤ remote.version.minor then own.version.minor
        else remote.version.minor }
    let capabilities : CapabilitySet := {
      bits := own.supported.bits &&& remote.supported.bits &&& capabilitiesForVersion version }
    if !capabilities.contains own.required || !capabilities.contains remote.required then
      .error (negotiationError "required_capability_unavailable")
    else .ok { version := version, capabilities := capabilities }

/-! ### Admission of a hello -/

def sessionProtocolError (detail : String) : Error :=
  { code := .authentication, component := "session_hello", safeDetail := detail }

/-- What admission decides on, of a hello with a valid signature and binding. -/
structure SessionHelloFacts where
  sessionEpoch : UInt64
  protocol : ProtocolHello
  expiresUnixMilliseconds : UInt64

inductive SessionHelloAdmissionAction where
  | accepted | duplicate | lateEpoch
  deriving Repr, Inhabited, DecidableEq

structure SessionHelloAdmissionOutcome where
  action : SessionHelloAdmissionAction := .accepted
  negotiatedProtocol : Option NegotiatedProtocol := none
  deriving Repr, Inhabited, DecidableEq

structure SessionHelloAdmission where
  expectedEpoch : UInt64
  localProtocol : ProtocolHello
  /-- Parse, verify the signature and match the binding, the epoch excepted. -/
  read : List UInt8 → Except Error SessionHelloFacts
  acceptedPayload : Option (List UInt8) := none
  negotiatedProtocol : Option NegotiatedProtocol := none

namespace SessionHelloAdmission

def admitHello (admission : SessionHelloAdmission) (payload : List UInt8) (now : UInt64) :
    Except Error SessionHelloAdmissionOutcome × SessionHelloAdmission :=
  match admission.read payload with
  | .error error => (.error error, admission)
  | .ok hello =>
    if hello.sessionEpoch < admission.expectedEpoch then
      (.ok { action := .lateEpoch }, admission)
    else if hello.sessionEpoch > admission.expectedEpoch then
      (.error (sessionProtocolError "higher_epoch_requires_new_transport"), admission)
    else
      match admission.acceptedPayload with
      | some accepted =>
        if payload = accepted then
          (.ok { action := .duplicate, negotiatedProtocol := admission.negotiatedProtocol },
            admission)
        else (.error (sessionProtocolError "conflicting_duplicate"), admission)
      | none =>
        match validateSignedExpiry hello.expiresUnixMilliseconds now with
        | .error error => (.error error, admission)
        | .ok () =>
          match negotiateProtocol admission.localProtocol hello.protocol with
          | .error error => (.error error, admission)
          | .ok negotiated =>
            (.ok { action := .accepted, negotiatedProtocol := some negotiated },
              { admission with
                acceptedPayload := some payload
                negotiatedProtocol := some negotiated })

/-- Only a hello that is accepted changes the admission. -/
theorem admit_cases (admission : SessionHelloAdmission) (payload : List UInt8) (now : UInt64) :
    (∃ negotiated, admission.acceptedPayload = none ∧
      admission.admitHello payload now =
        (.ok { action := .accepted, negotiatedProtocol := some negotiated },
          { admission with
            acceptedPayload := some payload
            negotiatedProtocol := some negotiated }) ∧
      ∃ hello, admission.read payload = .ok hello ∧
        hello.sessionEpoch = admission.expectedEpoch ∧
        negotiateProtocol admission.localProtocol hello.protocol = .ok negotiated) ∨
    ((admission.admitHello payload now).2 = admission ∧
      ∀ outcome, (admission.admitHello payload now).1 = .ok outcome → outcome.action ≠ .accepted) := by
  unfold admitHello
  split
  · exact .inr ⟨rfl, nofun⟩
  rename_i hello reading
  split
  · exact .inr ⟨rfl, by rintro _ ⟨⟩ ⟨⟩⟩
  rename_i notLate
  split
  · exact .inr ⟨rfl, nofun⟩
  rename_i notHigher
  split
  · split
    · exact .inr ⟨rfl, by rintro _ ⟨⟩ ⟨⟩⟩
    · exact .inr ⟨rfl, nofun⟩
  rename_i fresh
  split
  · exact .inr ⟨rfl, nofun⟩
  split
  · exact .inr ⟨rfl, nofun⟩
  rename_i negotiated negotiation
  have epoch : hello.sessionEpoch = admission.expectedEpoch :=
    UInt64.le_antisymm (UInt64.not_lt.mp notHigher) (UInt64.not_lt.mp notLate)
  exact .inl ⟨negotiated, fresh, rfl, hello, reading, epoch, negotiation⟩

end SessionHelloAdmission

end Heyaki
