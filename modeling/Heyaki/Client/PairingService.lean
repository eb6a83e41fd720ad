/-
Purpose: pairing and trust of one device (`pairing_service.cpp`): evaluating and
approving pairing requests, accepting grants, and authorizing sessions from the
grants of the profile.

The service owns its profile here; the source holds a pointer that the node sets.
The clock, the drawn grant id, the password check and the outcome of a database
write are the fields of `PairingEnv`.

Trusted boundary: `GrantCrypto`, `PairingEnv`
-/
import Heyaki.Core.PairingProtocol
import Heyaki.Profile.TrustStore

namespace Heyaki

open Foundation (SortedMap)

def pairingServiceError (code : ErrorCode) (detail : String) : Error :=
  { code := code, component := "pairing_service", safeDetail := detail }

structure PairingServiceConfig where
  /-- The device id of the configured identity. -/
  identity : DeviceId
  grantTtlMilliseconds : UInt64 := 0
  failureThreshold : Nat := 3
  backoffBase : Int := 1000
  backoffMax : Int := 60000
  failureTableCapacity : Nat := 256

/-- The configuration as the constructor keeps it. -/
def PairingServiceConfig.corrected (config : PairingServiceConfig) : PairingServiceConfig :=
  let base := if config.backoffBase ≤ 0 then 1000 else config.backoffBase
  { config with
    failureThreshold := if config.failureThreshold = 0 then 1 else config.failureThreshold
    backoffBase := base
    backoffMax := if config.backoffMax < base then base else config.backoffMax
    failureTableCapacity :=
      if config.failureTableCapacity = 0 then 1 else config.failureTableCapacity }

structure FailureRecord where
  failures : Nat := 0
  lastFailureUnixMilliseconds : UInt64 := 0
  deriving Repr, Inhabited, DecidableEq

inductive PairingAuditKind where
  | attempt | deniedPassword | deniedPolicy | deniedBackoff | granted | grantAccepted
  | grantRejected | grantRevoked | passwordRotated | grantsRevoked
  deriving Repr, Inhabited, DecidableEq

structure PairingAuditEvent where
  kind : PairingAuditKind
  /-- Absent where the source passes the zero device id. -/
  peer : Option DeviceId
  detail : String
  requestId : Option RequestId := none
  grantId : Option GrantId := none
  deriving DecidableEq

structure PairingService where
  config : PairingServiceConfig
  profile : ProfileStore
  failures : SortedMap DeviceId FailureRecord := {}
  /-- The audit events so far, oldest first. -/
  audits : List PairingAuditEvent := []

/-- What one call of the service finds outside of it. -/
structure PairingEnv where
  now : UInt64
  /-- The id that `random_grant_id` draws. -/
  grantId : GrantId
  verifyPassword : List UInt8 → PasswordVerifier → Except Error Bool
  /-- The fault of the database write, if it fails. -/
  fault : Option Error := none

structure SessionAuthorization where
  trusted : Bool := false
  scopes : List (List UInt8) := []
  pairingAllowed : Bool := false
  deriving Repr, Inhabited, DecidableEq

namespace PairingService

variable (crypto : GrantCrypto) (service : PairingService)

def audit (event : PairingAuditEvent) : PairingService :=
  { service with audits := service.audits ++ [event] }

/-! ### Failed passwords -/

def doubleWait (wait : UInt64) : UInt64 :=
  if wait > 0xffffffffffffffff / 2 then 0xffffffffffffffff else wait * 2

/-- The wait after the last failure: the base, doubled for every failure beyond
the threshold, at most sixteen times and at most up to the maximum. -/
def backoffWait (config : PairingServiceConfig) (failures : Nat) : UInt64 :=
  let exponent := min (failures - config.failureThreshold) 16
  let wait := doubleWait^[exponent] (UInt64.ofInt config.backoffBase)
  let ceiling := UInt64.ofInt config.backoffMax
  if wait ≤ ceiling then wait else ceiling

variable (peer : DeviceId)

def backoffBlocks (now : UInt64) : Bool :=
  match service.failures.find? peer with
  | none => false
  | some record =>
    decide (record.failures ≥ service.config.failureThreshold ∧
      now < record.lastFailureUnixMilliseconds + backoffWait service.config record.failures)

/-- `std::min_element`: the first source with the least time of its last failure. -/
def oldestFailure : List (DeviceId × FailureRecord) → Option DeviceId
  | [] => none
  | entry :: entries =>
    some (entries.foldl (fun oldest other =>
      if other.2.lastFailureUnixMilliseconds < oldest.2.lastFailureUnixMilliseconds then other
      else oldest) entry).1

def recordFailure (now : UInt64) : PairingService :=
  let known := service.failures.find? peer
  let added := if known.isSome then service.failures else service.failures.insert peer {}
  let kept :=
    if known.isNone ∧ added.size > service.config.failureTableCapacity then
      match oldestFailure added.entries with
      | none => added
      | some oldest => added.erase oldest
    else added
  -- the new entry may be the one that was evicted
  let record := (kept.find? peer).getD {}
  { service with
    failures := kept.insert peer {
      failures := record.failures + 1, lastFailureUnixMilliseconds := now } }

def clearFailures : PairingService :=
  { service with failures := service.failures.erase peer }

/-! ### Issuing grants -/

def toRecord (grant : SignedTrustGrant) (direction : TrustGrantDirection) : TrustGrantRecord where
  grantId := grant.grantId
  direction := direction
  issuer := grant.issuer
  subject := grant.subject
  scopes := grant.grantedScopes
  passwordGeneration := grant.passwordGeneration
  issuedUnixMilliseconds := grant.issuedUnixMilliseconds
  expiresUnixMilliseconds := grant.expiresUnixMilliseconds
  signature := grant.signature.val
  revoked := false

def put (fault : Option Error) (record : TrustGrantRecord) : Except Error Unit × PairingService :=
  let (stored, profile) := service.profile.putTrustGrant fault record
  (stored, { service with profile := profile })

variable (env : PairingEnv)

/-- The grant for a request before it is signed. -/
def draftGrant (peer : DeviceId) (nonce : PairingNonce) (generation : UInt64)
    (scopes : List (List UInt8)) :
    SignedTrustGrant where
  grantId := env.grantId
  issuer := service.profile.deviceId
  subject := peer
  grantedScopes := scopes
  passwordGeneration := generation
  issuedUnixMilliseconds := env.now
  expiresUnixMilliseconds :=
    if service.config.grantTtlMilliseconds > 0 then
      some (env.now + service.config.grantTtlMilliseconds)
    else none
  nonce := nonce
  signature := filledBytes 64 0

/-- The second half that `evaluate` and `approve` share: the scopes of the policy,
the grant, its signature and its place in the profile. -/
def issueGrant (peer : DeviceId) (peerPublicKey : List UInt8) (request : PairingApprovalRequestBody)
    (emptyDetail issuedDetail : String) : Except Error PairingResultBody × PairingService :=
  match normalizeTrustScopes service.profile.pairingPolicy.defaultScopes with
  | .error error => (.error error, service)
  | .ok policyScopes =>
    let adjudication := adjudicateTrustScopes request.requestedScopes policyScopes none
    if !adjudication.authorized then
      (.ok { requestId := request.requestId, status := .permissionDenied },
        service.audit {
          kind := .deniedPolicy, peer := some peer, detail := emptyDetail,
          requestId := some request.requestId })
    else
      match service.profile.passwordGeneration with
      | .error error => (.error error, service)
      | .ok generation =>
        let draft := service.draftGrant env peer request.nonce generation
          adjudication.allowedScopes
        match signSignedTrustGrant crypto service.config.identity draft with
        | .error error => (.error error, service)
        | .ok grant =>
          if peerPublicKey.length > 32 then
            (.error (pairingServiceError .protocol "peer_public_key_invalid"), service)
          else
            match service.put env.fault (toRecord grant .issued) with
            | (.error error, service) => (.error error, service)
            | (.ok (), service) =>
              (.ok { requestId := request.requestId, status := .ok, grant := some grant },
                service.audit {
                  kind := .granted, peer := some peer, detail := issuedDetail,
                  requestId := some request.requestId, grantId := some grant.grantId })

def evaluate (request : PairingRequestBody) (peer : DeviceId) (peerPublicKey : List UInt8) :
    Except Error PairingResultBody × PairingService :=
  let deny (service : PairingService) (status : StableStatus) (kind : PairingAuditKind)
      (detail : String) : Except Error PairingResultBody × PairingService :=
    (.ok { requestId := request.requestId, status := status },
      service.audit {
        kind := kind, peer := some peer, detail := detail, requestId := some request.requestId })
  if !service.profile.pairingPolicy.passwordPairingEnabled then
    deny service .permissionDenied .deniedPolicy "pairing_disabled"
  else if service.backoffBlocks peer env.now then
    deny service .resourceExhausted .deniedBackoff "pairing_backoff"
  else
    let service := service.audit {
      kind := .attempt, peer := some peer, detail := "pairing_attempt",
      requestId := some request.requestId }
    match service.profile.passwordVerifier with
    | none => deny service .permissionDenied .deniedPolicy "verifier_missing"
    | some verifier =>
      match env.verifyPassword request.passwordUtf8 verifier with
      | .error error => (.error error, service)
      | .ok false =>
        deny (service.recordFailure peer env.now) .unauthenticated .deniedPassword
          "password_mismatch"
      | .ok true =>
        issueGrant crypto (service.clearFailures peer) env peer peerPublicKey
          request.toPairingApprovalRequestBody "scope_intersection_empty" "grant_issued"

def approve (request : PairingApprovalRequestBody) (peer : DeviceId) (peerPublicKey : List UInt8) :
    Except Error PairingResultBody × PairingService :=
  let service := service.audit {
    kind := .attempt, peer := some peer, detail := "pairing_approval_attempt",
    requestId := some request.requestId }
  issueGrant crypto service env peer peerPublicKey request "approval_scope_intersection_empty"
    "approval_grant_issued"

/-! ### Accepting grants -/

/-- The checks of `accept_grant` in order, with the audit detail of a failed one. -/
def checkGrant (result : PairingResultBody) (grant : SignedTrustGrant)
    (pendingRequestId : RequestId) (pendingNonce : PairingNonce) (issuerDevice : DeviceId)
    (issuerPublicKey : IdentityPublicKey) (requestedScopes : List (List UInt8)) :
    Except (String × Error) Unit :=
  if result.requestId ≠ pendingRequestId ∨ grant.nonce ≠ pendingNonce then
    .error ("grant_binding_mismatch", pairingServiceError .authentication "grant_binding_mismatch")
  else if grant.issuer ≠ issuerDevice ∨ grant.subject ≠ service.profile.deviceId then
    .error ("grant_identity_mismatch", pairingServiceError .authentication "grant_identity_mismatch")
  else
    match verifySignedTrustGrant crypto grant issuerPublicKey env.now with
    | .error error => .error ("grant_signature_invalid", error)
    | .ok () =>
      if grant.grantedScopes.all fun scope => requestedScopes.contains scope then .ok ()
      else
        .error ("grant_scope_overreach", pairingServiceError .authentication "grant_scope_overreach")

def acceptGrant (result : PairingResultBody) (pendingRequestId : RequestId)
    (pendingNonce : PairingNonce) (issuerDevice : DeviceId) (issuerPublicKey : IdentityPublicKey)
    (requestedScopes : List (List UInt8)) : Except Error Unit × PairingService :=
  let rejected (detail : String) (grantId : Option GrantId) : PairingService :=
    service.audit {
      kind := .grantRejected, peer := some issuerDevice, detail := detail,
      requestId := some result.requestId, grantId := grantId }
  match result.grant with
  | none =>
    (.error (pairingServiceError .protocol "result_without_grant"),
      rejected "result_without_grant" none)
  | some grant =>
    match checkGrant crypto service env result grant pendingRequestId pendingNonce issuerDevice
        issuerPublicKey requestedScopes with
    | .error (detail, error) => (.error error, rejected detail (some grant.grantId))
    | .ok () =>
      match service.put env.fault (toRecord grant .received) with
      | (.error error, service) => (.error error, service)
      | (.ok (), service) =>
        (.ok (), service.audit {
          kind := .grantAccepted, peer := some issuerDevice, detail := "grant_stored",
          requestId := some result.requestId, grantId := some grant.grantId })

/-! ### Authorizing sessions -/

def authorize (now : UInt64) :
    Except Error SessionAuthorization := do
  let pairingAllowed := service.profile.pairingPolicy.passwordPairingEnabled
  let grants ← service.profile.trustGrantsForPeer peer now
  let scopes := (grants.map fun record => record.scopes).flatten
  if scopes.isEmpty then return { trusted := false, pairingAllowed := pairingAllowed }
  let normalized ← normalizeTrustScopes scopes
  return { trusted := true, scopes := normalized, pairingAllowed := pairingAllowed }

/-! ### Revoking -/

def revokeGrant (grantId : GrantId) : Except Error Unit × PairingService :=
  match service.profile.revokeTrustGrant env.fault grantId with
  | (.error error, profile) => (.error error, { service with profile := profile })
  | (.ok (), profile) =>
    (.ok (), { service with profile := profile }.audit {
      kind := .grantRevoked, peer := none, detail := "grant_revoked", grantId := some grantId })

def rotatePassword (verifier : PasswordVerifier) : Except Error UInt64 × PairingService :=
  match service.profile.passwordGeneration with
  | .error error => (.error error, service)
  | .ok current =>
    match service.profile.setPasswordVerifier env.fault verifier (current + 1) with
    | (.error error, profile) => (.error error, { service with profile := profile })
    | (.ok (), profile) =>
      (.ok (current + 1), { service with profile := profile }.audit {
        kind := .passwordRotated, peer := none, detail := "password_rotated" })

/-- Two writes, each with a fault of its own. -/
def rotatePasswordAndRevokeGrants (revocationFault : Option Error) (verifier : PasswordVerifier) :
    Except Error UInt64 × PairingService :=
  match service.rotatePassword env verifier with
  | (.error error, service) => (.error error, service)
  | (.ok generation, service) =>
    match service.profile.revokeIssuedTrustGrantsBelowGeneration revocationFault generation with
    | (.error error, profile) => (.error error, { service with profile := profile })
    | (.ok _, profile) =>
      (.ok generation, { service with profile := profile }.audit {
        kind := .grantsRevoked, peer := none, detail := "old_generation_grants_revoked" })

end PairingService

end Heyaki
