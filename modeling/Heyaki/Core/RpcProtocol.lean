/-
Purpose: the unary RPC codec of `rpc_protocol.cpp`.

Strings of the source are byte strings here.  Unknown fields are skipped and a
repeated field overwrites the earlier one, metadata excepted.
-/
import Heyaki.Core.MessageProtocol

namespace Heyaki

open ProtoCodec

/-- The status as it is written.  A parsed one is whatever the peer wrote, so that
bodies hold the wire value. -/
def StableStatus.wire (status : StableStatus) : UInt32 :=
  UInt32.ofNat status.code

def maxRpcServiceNameBytes : Nat := 128
def maxRpcMethodNameBytes : Nat := 128
def maxRpcSchemaVersion : UInt32 := 65535
def minRpcDeadlineMilliseconds : UInt32 := 1
def maxRpcDeadlineMilliseconds : UInt32 := 600000
def defaultRpcDeadlineMilliseconds : UInt32 := 10000
def maxRpcMetadataEntries : Nat := 64
def maxRpcMetadataNameBytes : Nat := 64
def maxRpcMetadataValueBytes : Nat := 256
def maxRpcIdempotencyKeyBytes : Nat := 64
def maxSafeDetailBytes : Nat := 64

structure RpcMetadataEntry where
  name : List UInt8 := []
  value : List UInt8 := []
  deriving Repr, Inhabited, DecidableEq

structure RpcRequestBody where
  requestId : RequestId
  service : List UInt8 := []
  method : List UInt8 := []
  schemaVersion : UInt32 := 1
  deadlineRemainingMilliseconds : UInt32 := defaultRpcDeadlineMilliseconds
  idempotencyKey : Option (List UInt8) := none
  metadata : List RpcMetadataEntry := []
  payload : List UInt8 := []
  deriving Repr, DecidableEq

structure RpcResponseBody where
  requestId : RequestId
  status : UInt32 := StableStatus.unspecified.wire
  safeDetail : List UInt8 := []
  payload : List UInt8 := []
  deriving Repr, DecidableEq

def rpcError (detail : String) : Error :=
  { code := .protocol, component := "rpc", safeDetail := detail }

def printableAscii (value : List UInt8) : Bool :=
  value.all fun byte => !(byte < 0x20 || byte > 0x7e)

/-- Lower case letters, digits, underscore, hyphen and dot. -/
def isSafeDetailToken (value : List UInt8) : Bool :=
  !(value.isEmpty || value.length > maxSafeDetailBytes) &&
    value.all fun character =>
      (character ≥ 0x61 && character ≤ 0x7a) || (character ≥ 0x30 && character ≤ 0x39) ||
        character == 0x5f || character == 0x2d || character == 0x2e

/-! ### Requests -/

/-- The first metadata entry that is not well formed is reported. -/
def metadataError : List RpcMetadataEntry → Option String
  | [] => none
  | entry :: entries =>
    if entry.name.isEmpty || entry.name.length > maxRpcMetadataNameBytes ||
        !printableAscii entry.name then
      some "metadata_name_invalid"
    else if entry.value.length > maxRpcMetadataValueBytes then some "metadata_value_oversized"
    else metadataError entries

def idempotencyKeyInvalid : Option (List UInt8) → Bool
  | none => false
  | some key => key.isEmpty || key.length > maxRpcIdempotencyKeyBytes

variable (request : RpcRequestBody)

def validateRequestDomain (limits : Limits) : Except Error Unit :=
  if request.requestId.isZero then .error (rpcError "request_id_missing")
  else if request.service.isEmpty || request.service.length > maxRpcServiceNameBytes ||
      !printableAscii request.service then
    .error (rpcError "service_name_invalid")
  else if request.method.isEmpty || request.method.length > maxRpcMethodNameBytes ||
      !printableAscii request.method then
    .error (rpcError "method_name_invalid")
  else if request.schemaVersion = 0 ∨ request.schemaVersion > maxRpcSchemaVersion then
    .error (rpcError "schema_version_invalid")
  else if request.deadlineRemainingMilliseconds < minRpcDeadlineMilliseconds ∨
      request.deadlineRemainingMilliseconds > maxRpcDeadlineMilliseconds then
    .error (rpcError "deadline_out_of_range")
  else if idempotencyKeyInvalid request.idempotencyKey then
    .error (rpcError "idempotency_key_invalid")
  else if request.metadata.length > maxRpcMetadataEntries then
    .error (rpcError "metadata_count_exceeded")
  else
    match metadataError request.metadata with
    | some detail => .error (rpcError detail)
    | none =>
      if request.payload.length > limits.maxRpcPayloadBytes then
        .error (rpcError "payload_oversized")
      else .ok ()

def metadataEntryBytes (entry : RpcMetadataEntry) : List UInt8 :=
  mapEntryBytes 7 entry.name entry.value

/-- The bytes written for a request once it has been validated. -/
def rpcRequestBytes : List UInt8 :=
  appendBytes 1 request.requestId.bytes ++ appendBytes 2 request.service ++
    appendBytes 3 request.method ++ appendUint 4 request.schemaVersion.toUInt64 ++
    appendBytes 5 (appendUint 1 request.deadlineRemainingMilliseconds.toUInt64) ++
    (match request.idempotencyKey with
     | some key => appendBytes 6 key
     | none => []) ++
    (request.metadata.map metadataEntryBytes).flatten ++
    appendBytes 8 request.payload

def encodeRpcRequest (limits : Limits) :
    Except Error (List UInt8) := do
  validateRequestDomain request limits
  .ok (rpcRequestBytes request)

theorem encodeRpcRequest_ok {request : RpcRequestBody} {limits : Limits} {encoded : List UInt8}
    (accepted : encodeRpcRequest request limits = .ok encoded) :
    encoded = rpcRequestBytes request := by
  unfold encodeRpcRequest at accepted
  cases valid : validateRequestDomain request limits with
  | error error =>
    rw [valid] at accepted
    cases accepted
  | ok _ =>
    rw [valid] at accepted
    cases accepted
    rfl

/-- The fields read so far; the required ones are present once set. -/
structure RpcRequestFields where
  requestId : Option RequestId := none
  service : Option (List UInt8) := none
  method : Option (List UInt8) := none
  schemaVersion : Option UInt32 := none
  deadlineRemainingMilliseconds : Option UInt32 := none
  idempotencyKey : Option (List UInt8) := none
  metadata : List RpcMetadataEntry := []
  payload : List UInt8 := []

/-- One field of the nested relative deadline. -/
def readDeadlineField (deadline : Option UInt32) (field : ProtoField) :
    Except Error (Option UInt32) :=
  if field.number = 1 ∧ field.wireType = 0 then .ok (some field.integer.toUInt32)
  else .ok deadline

def readRpcRequestField (fields : RpcRequestFields) (field : ProtoField) :
    Except Error RpcRequestFields :=
  if field.number = 1 ∧ field.wireType = 2 then
    match Identifier.ofBytes? field.bytes with
    | none => .error (rpcError "request_id_field_invalid")
    | some id => .ok { fields with requestId := some id }
  else if field.number = 2 ∧ field.wireType = 2 then
    .ok { fields with service := some field.bytes }
  else if field.number = 3 ∧ field.wireType = 2 then
    .ok { fields with method := some field.bytes }
  else if field.number = 4 ∧ field.wireType = 0 then
    .ok { fields with schemaVersion := some field.integer.toUInt32 }
  else if field.number = 5 ∧ field.wireType = 2 then do
    let deadline ← readFields "proto" readDeadlineField field.bytes
      fields.deadlineRemainingMilliseconds
    .ok { fields with deadlineRemainingMilliseconds := deadline }
  else if field.number = 6 ∧ field.wireType = 2 then
    .ok { fields with idempotencyKey := some field.bytes }
  else if field.number = 7 ∧ field.wireType = 2 then
    if fields.metadata.length ≥ maxRpcMetadataEntries then
      .error (rpcError "metadata_count_exceeded")
    else do
      let (name, value) ← readMapEntry (rpcError "metadata_key_missing") field.bytes
      .ok { fields with metadata := fields.metadata ++ [{ name := name, value := value }] }
  else if field.number = 8 ∧ field.wireType = 2 then
    .ok { fields with payload := field.bytes }
  else .ok fields

/-- The request of the fields read, when none of the required ones is missing. -/
def RpcRequestFields.request? (fields : RpcRequestFields) : Option RpcRequestBody := do
  let id ← fields.requestId
  let service ← fields.service
  let method ← fields.method
  let schemaVersion ← fields.schemaVersion
  let deadline ← fields.deadlineRemainingMilliseconds
  return {
    requestId := id, service := service, method := method, schemaVersion := schemaVersion,
    deadlineRemainingMilliseconds := deadline, idempotencyKey := fields.idempotencyKey,
    metadata := fields.metadata, payload := fields.payload }

variable (payload : List UInt8)

def parseRpcRequest (limits : Limits) : Except Error RpcRequestBody :=
  if payload.length > limits.maxRpcPayloadBytes + 1024 then .error (rpcError "request_oversized")
  else do
    let fields ← readFields "proto" readRpcRequestField payload {}
    match fields.request? with
    | none => .error (rpcError "request_field_missing")
    | some request =>
      validateRequestDomain request limits
      .ok request

/-! ### Responses -/

/-- The bytes written for a response once it has been validated. -/
def rpcResponseBytes (response : RpcResponseBody) : List UInt8 :=
  appendBytes 1 response.requestId.bytes ++ appendUint 2 response.status.toUInt64 ++
    appendBytes 3 response.safeDetail ++ appendBytes 4 response.payload

def encodeRpcResponse (response : RpcResponseBody) (limits : Limits) :
    Except Error (List UInt8) :=
  if response.requestId.isZero then .error (rpcError "request_id_missing")
  else if response.status = StableStatus.unspecified.wire then .error (rpcError "status_unspecified")
  else if response.payload.length > limits.maxRpcPayloadBytes then
    .error (rpcError "payload_oversized")
  else if !isSafeDetailToken response.safeDetail then .error (rpcError "safe_detail_invalid")
  else .ok (rpcResponseBytes response)

theorem encodeRpcResponse_ok {response : RpcResponseBody} {limits : Limits} {encoded : List UInt8}
    (accepted : encodeRpcResponse response limits = .ok encoded) :
    encoded = rpcResponseBytes response := by
  unfold encodeRpcResponse at accepted
  split_ifs at accepted
  cases accepted
  rfl

structure RpcResponseFields where
  requestId : Option RequestId := none
  status : UInt32 := StableStatus.unspecified.wire
  safeDetail : List UInt8 := []
  payload : List UInt8 := []

def readRpcResponseField (fields : RpcResponseFields) (field : ProtoField) :
    Except Error RpcResponseFields :=
  if field.number = 1 ∧ field.wireType = 2 then
    match Identifier.ofBytes? field.bytes with
    | none => .error (rpcError "request_id_field_invalid")
    | some id => .ok { fields with requestId := some id }
  else if field.number = 2 ∧ field.wireType = 0 then
    .ok { fields with status := field.integer.toUInt32 }
  else if field.number = 3 ∧ field.wireType = 2 then
    .ok { fields with safeDetail := field.bytes }
  else if field.number = 4 ∧ field.wireType = 2 then
    .ok { fields with payload := field.bytes }
  else .ok fields

def parseRpcResponse (limits : Limits) : Except Error RpcResponseBody :=
  if payload.length > limits.maxRpcPayloadBytes + 1024 then .error (rpcError "response_oversized")
  else do
    let fields ← readFields "proto" readRpcResponseField payload {}
    match fields.requestId with
    | none => .error (rpcError "request_id_field_missing")
    | some id =>
      if id.isZero then .error (rpcError "request_id_missing")
      else if fields.status = StableStatus.unspecified.wire then .error (rpcError "status_unspecified")
      else if !isSafeDetailToken fields.safeDetail then .error (rpcError "safe_detail_invalid")
      else .ok {
        requestId := id, status := fields.status, safeDetail := fields.safeDetail,
        payload := fields.payload }

/-! ### Cancellation -/

def encodeRpcCancel (id : RequestId) : Except Error (List UInt8) :=
  if id.isZero then .error (rpcError "request_id_missing")
  else .ok (appendBytes 1 id.bytes)

def readRpcCancelField (id : Option RequestId) (field : ProtoField) :
    Except Error (Option RequestId) :=
  if field.number = 1 ∧ field.wireType = 2 then
    match Identifier.ofBytes? field.bytes with
    | none => .error (rpcError "request_id_field_invalid")
    | some id => .ok (some id)
  else .ok id

def parseRpcCancel : Except Error RequestId := do
  match ← readFields "proto" readRpcCancelField payload none with
  | none => .error (rpcError "request_id_field_missing")
  | some id =>
    if id.isZero then .error (rpcError "request_id_missing")
    else .ok id

end Heyaki
