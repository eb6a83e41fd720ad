/-
Purpose: enrollment of devices at a relay (`relay_enrollment_service.cpp`).

A completion reads the database up to twice and then writes it in two transactions, one
that spends a use of the token and one that stores the device.  Points in time of the
challenges are nanoseconds of the steady clock, those of requests and tokens milliseconds
of the wall clock.  The counters for diagnostics are left out.
-/
import Heyaki.Relay.Database
import Heyaki.Relay.TtlTable

namespace Heyaki

inductive RelayEnrollmentMode where
  | token | password | closed
  deriving Repr, Inhabited, DecidableEq

structure RelayEnrollmentServiceConfig where
  challengeCapacity : Nat := 256
  challengeValidity : Int := 60 * 1000
  mode : RelayEnrollmentMode := .token
  defaultTenant : Text := ⟨asciiBytes "default"⟩
  deriving Repr, DecidableEq

structure RelayEnrollmentCompletion where
  deviceId : DeviceId
  endpointId : EndpointId
  tenant : Text
  enrollmentGeneration : UInt64
  tokenRemainingUsesAfter : Option UInt64 := none
  deriving Repr, DecidableEq

structure RelayEnrollmentService where
  relayId : RelayId
  config : RelayEnrollmentServiceConfig
  challenges : RelayTtlTable EnrollmentChallengeNonce EnrollmentChallenge

/-- What the libraries for signatures and passwords answer. -/
structure EnrollmentCrypto extends IdentityCrypto where
  /-- `verify_password` of a text and the stored verifier. -/
  verifyPassword : List UInt8 → RelayEnrollmentPasswordRecord → Except Error Bool

/-- The calls of a completion into the database that fail, by the function that makes them. -/
structure CompletionFaults where
  password : SqlFaults := fun _ => false
  device : SqlFaults := fun _ => false
  consume : SqlFaults := fun _ => false
  enroll : SqlFaults := fun _ => false

def enrollmentServiceError (code : ErrorCode) (detail : String) : Error :=
  { code := code, component := "relay_enrollment_service", safeDetail := detail }

def validDefaultTenant (tenant : Text) : Bool :=
  !tenant.bytes.isEmpty && decide (tenant.bytes.length ≤ 128) &&
    tenant.bytes.all fun byte => byte ≥ 0x20 && byte ≤ 0x7e

/-- The digits of a byte in lower case. -/
def hexDigits (byte : UInt8) : List UInt8 :=
  let digit (value : UInt8) : UInt8 := if value < 10 then 0x30 + value else 0x57 + value
  [digit (byte >>> 4), digit (byte &&& 0x0f)]

def hexProof (proof : EnrollmentPasswordProof) : List UInt8 :=
  proof.bytes.flatMap hexDigits

namespace RelayEnrollmentService

def create (relayId : RelayId) (config : RelayEnrollmentServiceConfig) :
    Except Error RelayEnrollmentService :=
  if relayId.isZero || config.challengeCapacity == 0 || decide (config.challengeValidity ≤ 0) ||
      decide (config.challengeValidity > maximumSignedValidityMilliseconds.toNat) ||
      (config.mode == .password && !validDefaultTenant config.defaultTenant) then
    .error (enrollmentServiceError .configuration "enrollment_service_config_invalid")
  else do
    let challenges ← RelayTtlTable.create config.challengeCapacity
    .ok { relayId := relayId, config := config, challenges := challenges }

variable (service : RelayEnrollmentService)

/-- The nonce is random. -/
def beginChallenge (nonce : EnrollmentChallengeNonce) (steadyNow : Int) (now : UInt64) :
    Except Error (List UInt8) × RelayEnrollmentService :=
  if service.config.mode = .closed then
    (.error (enrollmentServiceError .permission "enrollment_closed"), service)
  else
    match createEnrollmentChallenge service.relayId nonce now service.config.challengeValidity with
    | .error error => (.error error, service)
    | .ok challenge =>
      match service.challenges.upsert nonce challenge service.config.challengeValidity steadyNow with
      | (.error error, challenges) => (.error error, { service with challenges := challenges })
      | (.ok _, challenges) =>
        match encodeEnrollmentChallenge challenge with
        | .error error =>
          (.error error, { service with challenges := challenges.erase nonce })
        | .ok encoded => (.ok encoded, { service with challenges := challenges })

/-! ### Completing -/

variable (crypto : EnrollmentCrypto) (database : RelayDatabase)

/-- The gate of password mode. -/
def checkPassword (faults : SqlFaults) (request : EnrollmentRequest) : Except Error Unit :=
  match request.passwordProof with
  | none =>
    .error (enrollmentServiceError .authentication "enrollment_password_proof_required")
  | some proof =>
    if !request.supported.has .relayEnrollmentPasswordV1 then
      .error (enrollmentServiceError .authentication "enrollment_password_capability_missing")
    else if request.tenant ≠ service.config.defaultTenant then
      .error (enrollmentServiceError .authentication "enrollment_tenant_unknown")
    else do
      match ← database.enrollmentPasswordVerifier faults with
      | none =>
        .error (enrollmentServiceError .configuration "enrollment_password_not_provisioned")
      | some record =>
        if ← crypto.verifyPassword (hexProof proof) record then .ok ()
        else .error (enrollmentServiceError .authentication "enrollment_password_rejected")

/-- The gate of the admission mode. -/
def checkMode (faults : SqlFaults) (request : EnrollmentRequest) : Except Error Unit :=
  match service.config.mode with
  | .closed => .error (enrollmentServiceError .permission "enrollment_closed")
  | .password => service.checkPassword crypto database faults request
  | .token => .ok ()

variable (existing : Option RelayDeviceRecord)

/-- The device row is the one that the request asks for. -/
def alreadyEnrolled (request : EnrollmentRequest) : Option RelayDeviceRecord :=
  existing.filter fun record => record.status == .active &&
    record.publicKey == request.identityPublicKey && record.tenant == request.tenant

/-- Only token mode has a use to spend. -/
def spendToken (faults : SqlFaults) (request : EnrollmentRequest)
    (now : UInt64) : Except Error (Option RelayBootstrapConsumption) × RelayDatabase :=
  if service.config.mode = .token then
    match database.consumeBootstrapToken crypto.toIdentityCrypto faults request.bootstrapToken
      request.tenant request.deviceId now with
    | (.error error, database) => (.error error, database)
    | (.ok consumption, database) => (.ok (some consumption), database)
  else (.ok none, database)

def nextGeneration : UInt64 :=
  match existing with
  | none => 1
  | some record => record.enrollmentGeneration + 1

def newDevice (request : EnrollmentRequest) (existing : Option RelayDeviceRecord) :
    RelayDeviceRecord where
  deviceId := request.deviceId
  publicKey := request.identityPublicKey
  tenant := request.tenant
  displayName := ⟨asciiBytes "device"⟩
  enrollmentGeneration := nextGeneration existing
  status := .active

variable (faults : CompletionFaults) (request : EnrollmentRequest)

/-- A completion whose challenge was live, with the use it spent. -/
def enrollRequest (existing : Option RelayDeviceRecord) (now : UInt64) :
    Except Error RelayEnrollmentCompletion × Option RelayBootstrapConsumption × RelayDatabase :=
  match service.spendToken crypto database faults.consume request now with
  | (.error error, database) => (.error error, none, database)
  | (.ok consumption, database) =>
    match database.enrollDevice crypto.toIdentityCrypto faults.enroll (newDevice request existing)
      now with
    | (.error error, database) => (.error error, consumption, database)
    | (.ok (), database) =>
      (.ok { deviceId := request.deviceId, endpointId := request.endpointId
             tenant := request.tenant, enrollmentGeneration := nextGeneration existing
             tokenRemainingUsesAfter := consumption.map (·.remainingUsesAfter) },
        consumption, database)

/-- What a completion checks before it writes: the device row it will replace. -/
def checkRequest (challenge : EnrollmentChallenge) (now : UInt64) :
    Except Error (Option RelayDeviceRecord) := do
  validateEnrollmentRequest crypto.toIdentityCrypto request challenge now
  service.checkMode crypto database faults.password request
  database.device faults.device request.deviceId

def admittedRequest (existing : Option RelayDeviceRecord) (now : UInt64) :
    Except Error RelayEnrollmentCompletion × Option RelayBootstrapConsumption × RelayDatabase :=
  match alreadyEnrolled existing request with
  | some record =>
    (.ok { deviceId := request.deviceId, endpointId := request.endpointId
           tenant := request.tenant
           enrollmentGeneration := record.enrollmentGeneration }, none, database)
  | none => service.enrollRequest crypto database faults request existing now

/-- The answer of a completion, the use it spent and what it leaves. -/
structure CompletionOutcome where
  result : Except Error RelayEnrollmentCompletion
  consumption : Option RelayBootstrapConsumption := none
  service : RelayEnrollmentService
  database : RelayDatabase

def completeRequest (steadyNow : Int) (now : UInt64) : CompletionOutcome :=
  let (challenge, challenges) := service.challenges.take request.challengeNonce steadyNow
  let service := { service with challenges := challenges }
  match challenge with
  | none =>
    { result := .error (enrollmentServiceError .authentication
        "enrollment_challenge_unknown_or_expired")
      service := service, database := database }
  | some challenge =>
    match service.checkRequest crypto database faults request challenge now with
    | .error error => { result := .error error, service := service, database := database }
    | .ok existing =>
      let (result, consumption, database) :=
        service.admittedRequest crypto database faults request existing now
      { result := result, consumption := consumption, service := service, database := database }

def complete (encodedRequest : List UInt8) (steadyNow : Int) (now : UInt64) : CompletionOutcome :=
  match parseEnrollmentRequest encodedRequest with
  | .error error => { result := .error error, service := service, database := database }
  | .ok request => service.completeRequest crypto database faults request steadyNow now

end RelayEnrollmentService

end Heyaki
