/-
Purpose: the bodies of the pairing frames with their codec, and the admission of
pairing requests on one session (`pairing_protocol.cpp`).

The two request parsers share the fields they have in common; an approval request
carries no password, and a password field in it is refused.
-/
import Heyaki.Core.TrustGrant

namespace Heyaki

open ProtoCodec

def pairingError (code : ErrorCode) (detail : String) : Error :=
  { code := code, component := "pairing", safeDetail := detail }

def maxPairingPasswordBytes : Nat := 1024

/-- `Limits{}.max_pairing_payload_bytes`, whatever limits are configured. -/
def pairingPayloadCeiling : Nat := ({} : Limits).maxPairingPayloadBytes

structure PairingApprovalRequestBody where
  requestId : RequestId
  nonce : PairingNonce
  requestedScopes : List (List UInt8) := []
  deriving DecidableEq

structure PairingRequestBody extends PairingApprovalRequestBody where
  passwordUtf8 : List UInt8 := []
  deriving DecidableEq

structure PairingResultBody where
  requestId : RequestId
  status : StableStatus := .unspecified
  grant : Option SignedTrustGrant := none
  deriving DecidableEq

/-! ### Requests -/

def validateRequestBinding (requestId : RequestId) (nonce : PairingNonce) : Except Error Unit :=
  if requestId.isZero then .error (pairingError .protocol "request_id_zero")
  else if nonce.val.all (· == 0) then .error (pairingError .protocol "nonce_zero")
  else .ok ()

def validateRequestedScopes (scopes : List (List UInt8)) : Except Error Unit :=
  if scopes.isEmpty || scopes.length > maxTrustScopes then
    .error (pairingError .protocol "requested_scope_count_invalid")
  else if !scopes.all isValidTrustScope then
    .error (pairingError .protocol "requested_scope_syntax_invalid")
  else .ok ()

def validatePairingRequest (request : PairingRequestBody) : Except Error Unit := do
  validateRequestBinding request.requestId request.nonce
  if request.passwordUtf8.isEmpty || request.passwordUtf8.length > maxPairingPasswordBytes then
    throw (pairingError .protocol "password_length_invalid")
  validateRequestedScopes request.requestedScopes

def validatePairingApprovalRequest (request : PairingApprovalRequestBody) : Except Error Unit := do
  validateRequestBinding request.requestId request.nonce
  validateRequestedScopes request.requestedScopes

def requestedScopesBytes (scopes : List (List UInt8)) : List UInt8 :=
  (scopes.map fun scope => appendBytes 4 scope).flatten

def encodePairingRequest (request : PairingRequestBody) : Except Error (List UInt8) := do
  validatePairingRequest request
  let output := appendBytes 1 request.requestId.bytes ++ appendBytes 2 request.nonce.val ++
    appendBytes 3 request.passwordUtf8 ++ requestedScopesBytes request.requestedScopes
  if output.length > maxPairingPasswordBytes + pairingPayloadCeiling then
    .error (pairingError .resourceExhausted "object_too_large")
  else .ok output

def encodePairingApprovalRequest (request : PairingApprovalRequestBody) :
    Except Error (List UInt8) := do
  validatePairingApprovalRequest request
  let output := appendBytes 1 request.requestId.bytes ++ appendBytes 2 request.nonce.val ++
    requestedScopesBytes request.requestedScopes
  if output.length > pairingPayloadCeiling then
    .error (pairingError .resourceExhausted "object_too_large")
  else .ok output

structure PairingRequestFields where
  requestId : Option RequestId := none
  nonce : Option PairingNonce := none
  password : Option (List UInt8) := none
  scopes : List (List UInt8) := []

/-- One field of either request; `password` handles the field they differ in. -/
def readPairingField (password : PairingRequestFields → ProtoField → Except Error PairingRequestFields)
    (fields : PairingRequestFields) (field : ProtoField) : Except Error PairingRequestFields :=
  match field.number.toNat with
  | 1 => do
    let value ← readOnce (pairingError .protocol "request_id_field_conflict")
      "request_id_field_invalid" Identifier.ofBytes? fields.requestId field
    .ok { fields with requestId := value }
  | 2 => do
    let value ← readOnce (pairingError .protocol "nonce_field_conflict") "nonce_field_invalid"
      (exactly? 32) fields.nonce field
    .ok { fields with nonce := value }
  | 3 => password fields field
  | 4 => do
    let value ← readScope (pairingError .protocol) "requested_scope_syntax_invalid"
      "requested_scope_count_invalid" fields.scopes field
    .ok { fields with scopes := value }
  | _ => .error (pairingError .protocol "field_unknown")

variable (fields : PairingRequestFields)

def readPassword (field : ProtoField) : Except Error PairingRequestFields :=
  if field.wireType ≠ 2 ∨ fields.password.isSome then
    .error (pairingError .protocol "password_field_conflict")
  else .ok { fields with password := some field.bytes }

def refusePassword (_ : PairingRequestFields) (_ : ProtoField) :
    Except Error PairingRequestFields :=
  .error (pairingError .protocol "password_field_unexpected")

def PairingRequestFields.approval? :
    Option PairingApprovalRequestBody := do
  let requestId ← fields.requestId
  let nonce ← fields.nonce
  guard (!fields.scopes.isEmpty)
  return { requestId := requestId, nonce := nonce, requestedScopes := fields.scopes }

def PairingRequestFields.request? : Option PairingRequestBody := do
  let approval ← fields.approval?
  let password ← fields.password
  return { approval with passwordUtf8 := password }

/-- The frame of both parsers: the ceiling, the fields, the missing ones, the validation. -/
def parsePairingBody {α : Type}
    (read : PairingRequestFields → ProtoField → Except Error PairingRequestFields)
    (body? : PairingRequestFields → Option α) (validate : α → Except Error Unit)
    (payload : List UInt8) : Except Error α :=
  if payload.length > pairingPayloadCeiling then
    .error (pairingError .resourceExhausted "object_too_large")
  else do
    let fields ← readFields "proto" read payload {}
    match body? fields with
    | none => .error (pairingError .protocol "field_missing")
    | some body =>
      validate body
      .ok body

variable (payload : List UInt8)

def parsePairingRequest : Except Error PairingRequestBody :=
  parsePairingBody (readPairingField readPassword) PairingRequestFields.request?
    validatePairingRequest payload

def parsePairingApprovalRequest : Except Error PairingApprovalRequestBody :=
  parsePairingBody (readPairingField refusePassword) PairingRequestFields.approval?
    validatePairingApprovalRequest payload

/-! ### Results -/

def encodePairingResult (result : PairingResultBody) : Except Error (List UInt8) :=
  if result.requestId.isZero then .error (pairingError .protocol "request_id_zero")
  else if result.status = .unspecified then .error (pairingError .protocol "status_unspecified")
  else if result.grant.isSome ∧ result.status ≠ .ok then
    .error (pairingError .protocol "grant_with_failure_status")
  else if result.grant.isNone ∧ result.status = .ok then
    .error (pairingError .protocol "ok_without_grant")
  else do
    let grant ← match result.grant with
      | none => .ok []
      | some grant => (encodeSignedTrustGrant grant).map (appendBytes 3)
    let output := appendBytes 1 result.requestId.bytes ++
      appendUint 2 (UInt64.ofNat result.status.code) ++ grant
    if output.length > pairingPayloadCeiling then
      .error (pairingError .resourceExhausted "object_too_large")
    else .ok output

structure PairingResultFields where
  requestId : Option RequestId := none
  status : Option StableStatus := none
  grant : Option SignedTrustGrant := none

/-- The statuses in the order of their wire values. -/
def stableStatuses : List StableStatus := [
  .unspecified, .ok, .cancelled, .deadlineExceeded, .unauthenticated, .permissionDenied,
  .notFound, .alreadyExists, .resourceExhausted, .failedPrecondition, .unavailable, .internal,
  .unimplemented, .protocolError, .outcomeUnknown]

def readPairingResultField (fields : PairingResultFields) (field : ProtoField) :
    Except Error PairingResultFields :=
  match field.number.toNat with
  | 1 => do
    let value ← readOnce (pairingError .protocol "request_id_field_conflict")
      "request_id_field_invalid" Identifier.ofBytes? fields.requestId field
    .ok { fields with requestId := value }
  | 2 =>
    if field.wireType ≠ 0 ∨ fields.status.isSome then
      .error (pairingError .protocol "status_field_conflict")
    else
      match stableStatuses[field.integer.toUInt32.toNat]? with
      | none => .error (pairingError .protocol "status_unknown")
      | some status => .ok { fields with status := some status }
  | 3 =>
    if field.wireType ≠ 2 ∨ fields.grant.isSome then
      .error (pairingError .protocol "grant_field_conflict")
    else do
      let grant ← parseSignedTrustGrant field.bytes
      .ok { fields with grant := some grant }
  | _ => .error (pairingError .protocol "field_unknown")

def parsePairingResult : Except Error PairingResultBody :=
  if payload.length > pairingPayloadCeiling then
    .error (pairingError .resourceExhausted "object_too_large")
  else do
    let fields ← readFields "proto" readPairingResultField payload {}
    match fields.requestId, fields.status with
    | some requestId, some status =>
      if requestId.isZero then .error (pairingError .protocol "request_id_zero")
      else if status = .unspecified then .error (pairingError .protocol "status_unspecified")
      else if fields.grant.isNone ∧ status = .ok then
        .error (pairingError .protocol "ok_without_grant")
      else if fields.grant.isSome ∧ status ≠ .ok then
        .error (pairingError .protocol "grant_with_failure_status")
      else .ok { requestId := requestId, status := status, grant := fields.grant }
    | _, _ => .error (pairingError .protocol "field_missing")

/-! ### Admission -/

inductive PairingAdmissionAction where
  | admitted | duplicate
  deriving Repr, Inhabited, DecidableEq

structure PairingAdmissionOutcome where
  action : PairingAdmissionAction := .admitted
  cachedResult : Option PairingResultBody := none
  deriving DecidableEq

/-- The requests of one session that have a result, the one being evaluated, and
how many were admitted. -/
structure PairingRequestAdmission where
  limits : Limits := {}
  terminalResults : List ((RequestId × PairingNonce) × PairingResultBody) := []
  pendingKey : Option (RequestId × PairingNonce) := none
  attemptsUsed : Nat := 0

namespace PairingRequestAdmission

def admitRequest (admission : PairingRequestAdmission) (request : PairingRequestBody) :
    Except Error PairingAdmissionOutcome × PairingRequestAdmission :=
  match validatePairingRequest request with
  | .error error => (.error error, admission)
  | .ok () =>
    match admission.terminalResults.find? fun entry => entry.1.1 = request.requestId with
    | some ((_, nonce), result) =>
      if nonce = request.nonce then
        (.ok { action := .duplicate, cachedResult := some result }, admission)
      else (.error (pairingError .protocol "conflicting_duplicate_request"), admission)
    | none =>
      if admission.attemptsUsed ≥ admission.limits.maxPairingAttemptsPerSession then
        (.error (pairingError .pairingRateLimited "pairing_attempts_exhausted"), admission)
      else
        (.ok { action := .admitted }, { admission with
          pendingKey := some (request.requestId, request.nonce)
          attemptsUsed := admission.attemptsUsed + 1 })

/-- The first entry of the request id gets the result. -/
def replaceResult (result : PairingResultBody) :
    List ((RequestId × PairingNonce) × PairingResultBody) →
      List ((RequestId × PairingNonce) × PairingResultBody)
  | [] => []
  | entry :: entries =>
    if entry.1.1 = result.requestId then (entry.1, result) :: entries
    else entry :: replaceResult result entries

def recordResult (admission : PairingRequestAdmission) (result : PairingResultBody) :
    Except Error Unit × PairingRequestAdmission :=
  match admission.pendingKey with
  | none => (.error (pairingError .configuration "no_admitted_request"), admission)
  | some key =>
    if key.1 ≠ result.requestId then
      (.error (pairingError .configuration "no_admitted_request"), admission)
    else if admission.terminalResults.any fun entry => entry.1.1 = result.requestId then
      (.ok (), { admission with
        terminalResults := replaceResult result admission.terminalResults
        pendingKey := none })
    else
      let kept := if admission.terminalResults.length ≥
          admission.limits.maxPairingAttemptsPerSession then admission.terminalResults.tail
        else admission.terminalResults
      (.ok (), { admission with terminalResults := kept ++ [(key, result)], pendingKey := none })

end PairingRequestAdmission

end Heyaki
