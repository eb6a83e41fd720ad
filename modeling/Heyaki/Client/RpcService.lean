/-
Purpose: the unary RPC service of `rpc_service.cpp`, in both of its roles.

The service is a machine over the frames that arrive, the handler tasks of the
executor, the completions posted back to the strand, the calls of its owner, the
pruning timer, the loss of the session and the clock.  What the session, the
registry, the scope check and the executor answer is part of each event.  A send
can lose the session before it returns; the owner then closes the service while
the sending function is still running.

The states of the server calls are shared with the executor's tasks.  They are
kept in a list for ever, and a call is referred to by its place in it.  The log
lists what the service does, in order.
-/
import Heyaki.Client.MessageService
import Heyaki.Core.RpcProtocol

namespace Heyaki

open Foundation

structure RpcServiceConfig where
  maxConcurrentServerCalls : Nat := 16
  resultCacheEntries : Nat := 64
  resultCacheBytes : Nat := 256 * 1024
  maxPendingClientCalls : Nat := 64
  channelFrameCapacity : Nat := 256
  channelByteCapacity : Nat := 1024 * 1024
  deriving Repr, Inhabited, DecidableEq

/-- What the registry knows of a method, as far as the service reads it. -/
structure RpcMethodDescriptor where
  schemaVersion : UInt32 := 1
  streaming : Bool := false
  handlerEnforcedScope : Bool := false
  deriving Repr, Inhabited, DecidableEq

structure RpcHandlerResult where
  status : UInt32 := StableStatus.ok.wire
  payload : List UInt8 := []
  safeDetail : List UInt8 := []
  deriving Repr, DecidableEq

/-- A result that the service makes up itself. -/
def RpcHandlerResult.made (status : StableStatus) (detail : String) : RpcHandlerResult :=
  { status := status.wire, safeDetail := asciiBytes detail }

structure RpcCallOutcome where
  status : UInt32 := StableStatus.unspecified.wire
  safeDetail : List UInt8 := []
  payload : List UInt8 := []
  requestId : RequestId
  deriving Repr, DecidableEq

/-- An outcome that did not come from the peer. -/
def RpcCallOutcome.made (status : StableStatus) (detail : String) (id : RequestId) :
    RpcCallOutcome :=
  { status := status.wire, safeDetail := asciiBytes detail, requestId := id }

structure RpcCallOptions where
  deadlineRemainingMilliseconds : UInt32 := defaultRpcDeadlineMilliseconds
  idempotent : Bool := false
  idempotencyKey : Option (List UInt8) := none
  retryOnReconnect : Bool := false
  metadata : List RpcMetadataEntry := []
  deriving Repr, Inhabited, DecidableEq

/-- A handler task in the executor. -/
inductive TaskState where
  | rejected | queued | removed | running | finished
  deriving Repr, Inhabited, DecidableEq

inductive TaskCancellationResult where
  | requestedBeforeStart | requestedRunning | alreadyRequested | alreadyCompleted
  deriving Repr, Inhabited, DecidableEq

/-- One execution.  The phase is 0 until its terminal response is computed.
`bytes` is history: the request as it arrived. -/
structure ServerCallState where
  requestId : RequestId
  channelId : UInt32
  request : RpcRequestBody
  deadline : Nat
  requestDigest : List UInt8
  cancelRequested : Bool := false
  cancelHandle : Bool := false
  handlerException : Bool := false
  phase : Nat := 0
  task : TaskState
  bytes : List UInt8
  deriving Repr, DecidableEq

/-- A result on its way from the executor to the strand. -/
structure PostedFinish where
  serial : Nat
  result : RpcHandlerResult
  handlerRan : Bool
  deriving Repr, DecidableEq

/-- `order` is history: the number of terminal responses before this one. -/
structure CachedResult where
  encodedResponse : List UInt8
  requestDigest : List UInt8
  bytes : Nat
  order : Nat
  deriving Repr, DecidableEq

/-- A call waiting for its response.  The completion is known by its number;
`submitted` is history: the clock when the request was sent. -/
structure PendingCall where
  request : RpcRequestBody
  deadline : Nat
  idempotent : Bool := false
  retryOnReconnect : Bool := false
  completion : Nat
  submitted : Nat
  deriving Repr, DecidableEq

structure RetryableCall where
  request : RpcRequestBody
  deadline : Nat
  completion : Nat
  submitted : Nat
  deriving Repr, DecidableEq

inductive RpcRecord where
  | requestReceived
  | invalidRequest
  | channelFailed (channelId : UInt32)
  | replayed (id : RequestId)
  | conflicting (id : RequestId)
  | duplicate (id : RequestId)
  | refused (id : RequestId) (status : StableStatus) (detail : String)
  | dispatchRejected (serial : Nat)
  /-- The executor took the handler task of this execution. -/
  | started (serial : Nat)
  | handlerRan (serial : Nat)
  /-- The phase of the execution turned because its response is computed. -/
  | answered (serial : Nat)
  /-- The phase of the execution turned because the session was lost. -/
  | abandoned (serial : Nat)
  | lateResult (serial : Nat)
  | handlerCancelled (serial : Nat)
  | handlerDeadlineExceeded (serial : Nat)
  | handlerException (serial : Nat)
  /-- A terminal response, with the request it answers and the request's digest. -/
  | terminal (id : RequestId) (request digest response : List UInt8)
  | responseSent (channelId : UInt32) (response : List UInt8)
  | responseSendFailed
  | sessionLost
  | callRejected (id : RequestId)
  | callStarted (id : RequestId)
  | requestSent (id : RequestId) (request : List UInt8)
  | cancelSent (id : RequestId)
  | responseUnknown (id : RequestId)
  | responseMatched (id : RequestId)
  | retryableHandled (id : RequestId)
  /-- A completion is invoked. -/
  | completed (completion : Nat) (outcome : Except Error RpcCallOutcome)
  deriving Repr, DecidableEq

/-- What the session answers to a frame: it takes it, refuses it, or takes it and
is lost before it returns. -/
inductive SendReply where
  | accepted | refused (error : Error) | lost
  deriving Repr, Inhabited, DecidableEq

structure RpcService where
  config : RpcServiceConfig := {}
  limits : Limits := {}
  attached : Bool := false
  channelId : UInt32 := 0
  /-- The session is authenticated; otherwise it refuses every RPC frame. -/
  sessionOpen : Bool := true
  clock : Nat := 0
  calls : List ServerCallState := []
  executing : SortedMap RequestId Nat := {}
  posted : List PostedFinish := []
  resultCache : SortedMap RequestId CachedResult := {}
  cachedBytes : Nat := 0
  pending : SortedMap RequestId PendingCall := {}
  retryable : List RetryableCall := []
  log : List RpcRecord := []

def rpcServiceError (code : ErrorCode) (detail : String) : Error :=
  { code := code, component := "rpc", safeDetail := detail }

namespace RpcService

def record (records : List RpcRecord) (service : RpcService) : RpcService :=
  { service with log := service.log ++ records }

/-! ### Attaching -/

/-- A result cache without entries is allowed: nothing is replayed then. -/
def configInvalid (config : RpcServiceConfig) : Bool :=
  config.maxConcurrentServerCalls == 0 || config.maxConcurrentServerCalls > 4096 ||
    config.maxPendingClientCalls == 0 || config.maxPendingClientCalls > 65536 ||
    config.resultCacheEntries > 65536 ||
    config.channelFrameCapacity == 0 || config.channelFrameCapacity > 65536 ||
    config.channelByteCapacity == 0 || config.channelByteCapacity > 256 * 1024 * 1024 ||
    config.resultCacheBytes == 0 || config.resultCacheBytes > 256 * 1024 * 1024

/-- `dependencies` tells whether the registry, the dispatcher and the poster are
there, `opened` is the session's answer to opening the RPC channel. -/
def attach (dependencies : Bool) (opened : Except Error UInt32) (service : RpcService) :
    Except Error RpcService :=
  if service.attached then .ok service
  else if configInvalid service.config then
    .error (rpcServiceError .configuration "rpc_config_invalid")
  else if !dependencies then .error (rpcServiceError .configuration "rpc_dependencies_missing")
  else
    match opened with
    | .error error => .error error
    | .ok channelId => .ok { service with attached := true, channelId := channelId }

/-! ### Session loss -/

variable (serial : Nat)

def modifyCall (change : ServerCallState → ServerCallState) (service : RpcService) : RpcService :=
  { service with calls := service.calls.modify serial change }

def turnPhase (call : ServerCallState) : ServerCallState := { call with phase := 1 }

/-- An execution that the lost session leaves behind never answers. -/
def abandon (service : RpcService) : RpcService :=
  match service.calls[serial]? with
  | none => service
  | some call =>
    if call.phase = 0 then
      (service.modifyCall serial turnPhase).record [.abandoned serial]
    else service

def complete (completion : Nat) (outcome : Except Error RpcCallOutcome) (service : RpcService) :
    RpcService :=
  service.record [.completed completion outcome]

def PendingCall.retryableCall (call : PendingCall) : RetryableCall :=
  { request := call.request, deadline := call.deadline, completion := call.completion,
    submitted := call.submitted }

variable (id : RequestId)

/-- A pending call that the lost session leaves behind is handed back for a
retry or its outcome is unknown. -/
def closeCall (call : PendingCall) (service : RpcService) : RpcService :=
  if call.idempotent && call.retryOnReconnect then
    record [.retryableHandled id]
      { service with retryable := service.retryable ++ [PendingCall.retryableCall call] }
  else
    service.complete call.completion (.ok (.made .outcomeUnknown
      (if call.idempotent then "session_lost_idempotent_no_retry"
        else "session_lost_non_idempotent") id))

def abandonAll (entries : List (RequestId × Nat)) (service : RpcService) : RpcService :=
  entries.foldl (fun service entry => service.abandon entry.2) service

def closeCalls (entries : List (RequestId × PendingCall)) (service : RpcService) : RpcService :=
  entries.foldl (fun service entry => service.closeCall entry.1 entry.2) service

variable (service : RpcService)

/-- The session is closed when the owner learns of its loss. -/
def handleSessionClosed : RpcService :=
  let service := service.abandonAll service.executing.entries
  let service := { service.record [.sessionLost] with executing := {}, sessionOpen := false }
  closeCalls service.pending.entries { service with pending := {} }

def sessionNotAuthorized : Error :=
  { code := .pairingRequired, component := "peer_session", safeDetail := "session_not_authorized" }

/-- The session's answer to a frame, and the service after it.  `sent` is what the
log says of a frame that is taken. -/
def sendFrame (sent : RpcRecord) (reply : SendReply) (service : RpcService) :
    Except Error Unit × RpcService :=
  if !service.sessionOpen then (.error sessionNotAuthorized, service)
  else
    match reply with
    | .accepted => (.ok (), service.record [sent])
    | .refused error => (.error error, service)
    | .lost => (.ok (), (service.record [sent]).handleSessionClosed)

def sendResponse (channelId : UInt32) (response : List UInt8) (reply : SendReply)
    (service : RpcService) : RpcService :=
  match service.sendFrame (.responseSent channelId response) reply with
  | (.ok (), service) => service
  | (.error _, service) => service.record [.responseSendFailed]

/-! ### The result cache -/

/-- There is no room for a result of this size. -/
def cacheFull (config : RpcServiceConfig) (bytes : Nat) (cache : SortedMap RequestId CachedResult)
    (total : Nat) : Bool :=
  cache.size ≥ config.resultCacheEntries || total + bytes > config.resultCacheBytes

/-- Results are given up from the beginning of the cache until there is room. -/
def evict (config : RpcServiceConfig) (bytes : Nat) :
    Nat → SortedMap RequestId CachedResult → Nat → SortedMap RequestId CachedResult × Nat
  | 0, cache, total => (cache, total)
  | rounds + 1, cache, total =>
    if cacheFull config bytes cache total then
      match cache.first? with
      | none => (cache, total)
      | some (_, first) => evict config bytes rounds cache.dropFirst (total - first.bytes)
    else (cache, total)

def terminalIds (log : List RpcRecord) : List RequestId :=
  log.filterMap fun entry =>
    match entry with
    | .terminal id _ _ _ => some id
    | _ => none

/-- A terminal response enters the cache if it fits the budget at all and if the
evictions have made room. -/
def cacheResult (encoded digest request : List UInt8) (service : RpcService) : RpcService :=
  let order := (terminalIds service.log).length
  let service := service.record [.terminal id request digest encoded]
  let bytes := encoded.length + digest.length
  if bytes > service.config.resultCacheBytes then service
  else
    let (cache, total) := evict service.config bytes service.resultCache.size service.resultCache
      service.cachedBytes
    if cacheFull service.config bytes cache total then
      { service with resultCache := cache, cachedBytes := total }
    else
      { service with
        resultCache := cache.insert id {
          encodedResponse := encoded, requestDigest := digest, bytes := bytes, order := order }
        cachedBytes := total + bytes }

/-! ### Answers -/

def offlineResponse (status : StableStatus) (detail : String) : RpcResponseBody :=
  { requestId := id, status := status.wire, safeDetail := asciiBytes detail }

/-- A request that is refused before any handler runs. -/
def answerOffline (channelId : UInt32) (id : RequestId) (digest request : List UInt8)
    (status : StableStatus) (detail : String) (reply : SendReply) (service : RpcService) :
    RpcService :=
  let service := service.record [.refused id status detail]
  match encodeRpcResponse (offlineResponse id status detail) service.limits with
  | .error _ => service.record [.responseSendFailed]
  | .ok encoded =>
    (service.cacheResult id encoded digest request).sendResponse channelId encoded reply

def encodeFailedResponse (response : RpcResponseBody) : RpcResponseBody :=
  { response with
    payload := []
    status := StableStatus.internal.wire
    safeDetail := asciiBytes "response_encode_failed" }

/-- A response that cannot be encoded degrades to an internal error. -/
def encodeAnswer (response : RpcResponseBody) (limits : Limits) : Option (List UInt8) :=
  match encodeRpcResponse response limits with
  | .ok encoded => some encoded
  | .error _ => (encodeRpcResponse (encodeFailedResponse response) limits).toOption

/-- The terminal response of an execution: whoever turns its phase computes it. -/
def answer (call : ServerCallState) (response : RpcResponseBody) (reply : SendReply)
    (service : RpcService) : RpcService :=
  if call.phase ≠ 0 then service.record [.lateResult serial]
  else
    let service := (service.modifyCall serial turnPhase).record [.answered serial]
    match encodeAnswer response service.limits with
    | none => { service with executing := service.executing.erase call.requestId }
    | some encoded =>
      let service := service.cacheResult call.requestId encoded call.requestDigest call.bytes
      let service := { service with executing := service.executing.erase call.requestId }
      service.sendResponse call.channelId encoded reply

def sanitizeDetail (detail : List UInt8) : List UInt8 :=
  if isSafeDetailToken detail then detail else asciiBytes "handler_detail_invalid"

def finishRecords (call : ServerCallState) (result : RpcHandlerResult) (handlerRan : Bool) :
    List RpcRecord :=
  (if result.status = StableStatus.cancelled.wire then [.handlerCancelled serial] else []) ++
    (if !handlerRan ∧ result.status = StableStatus.deadlineExceeded.wire then
      [.handlerDeadlineExceeded serial] else []) ++
    if call.handlerException then [.handlerException serial] else []

def finishResponse (call : ServerCallState) (result : RpcHandlerResult) : RpcResponseBody :=
  { requestId := call.requestId
    status := result.status
    safeDetail := sanitizeDetail result.safeDetail
    payload := result.payload }

def finishServerCall (result : RpcHandlerResult) (handlerRan : Bool) (reply : SendReply)
    (service : RpcService) : RpcService :=
  match service.calls[serial]? with
  | none => service
  | some call =>
    if !service.executing.contains call.requestId || call.phase ≠ 0 then
      service.record [.lateResult serial]
    else
      (service.record (finishRecords serial call result handlerRan)).answer serial call
        (finishResponse call result) reply

/-! ### Requests -/

/-- The executor's answer to a handler task; the handle for cancelling it may be missing. -/
inductive DispatchReply where
  | accepted (cancelHandle : Bool) | rejected
  deriving Repr, Inhabited, DecidableEq

/-- What the session, the registry, the scope check and the executor answer to one
inbound frame. -/
structure FrameReplies where
  adopted : Option Error := none
  channelKnown : Bool := true
  method : Option RpcMethodDescriptor := some {}
  scopeCovers : Bool := true
  stillRegistered : Bool := true
  dispatched : DispatchReply := .accepted true
  cancelled : TaskCancellationResult := .requestedBeforeStart
  sent : SendReply := .accepted
  deriving Repr, Inhabited, DecidableEq

variable (frame : Frame)

/-- A new execution, before the executor has answered. -/
def serverCall (request : RpcRequestBody) (digest : List UInt8) (now : Nat) : ServerCallState :=
  { requestId := request.requestId
    channelId := frame.channelId
    request := request
    deadline := addMilliseconds now request.deadlineRemainingMilliseconds.toNat
    requestDigest := digest
    task := .rejected
    bytes := frame.payload }

def startServerCall (request : RpcRequestBody) (digest : List UInt8) (replies : FrameReplies)
    (service : RpcService) : RpcService :=
  if !replies.stillRegistered then
    service.answerOffline frame.channelId request.requestId digest frame.payload
      .unimplemented "method_unknown" replies.sent
  else
    let serial := service.calls.length
    let call := serverCall frame request digest service.clock
    match replies.dispatched with
    | .rejected =>
      -- The entry made for the call is erased again.
      (record [.dispatchRejected serial] { service with
        calls := service.calls ++ [call] }).answerOffline frame.channelId request.requestId
        digest frame.payload .resourceExhausted "dispatch_rejected" replies.sent
    | .accepted cancelHandle =>
      record [.started serial] { service with
        calls := service.calls ++ [{ call with task := .queued, cancelHandle := cancelHandle }]
        executing := service.executing.insert request.requestId serial }

/-- What becomes of a request. -/
inductive RequestVerdict where
  | replay (cached : CachedResult)
  | duplicate
  | conflict
  | refuse (status : StableStatus) (detail : String)
  | start
  deriving Repr, DecidableEq

/-- The checks in front of a handler, for a request that is neither cached nor executing. -/
def admissionVerdict (request : RpcRequestBody) (replies : FrameReplies) (service : RpcService) :
    RequestVerdict :=
  match replies.method with
  | none => .refuse .unimplemented "method_unknown"
  | some method =>
    if method.streaming then .refuse .unimplemented "streaming_unimplemented"
    else if request.schemaVersion > method.schemaVersion then
      .refuse .failedPrecondition "schema_too_new"
    else if request.payload.length > service.limits.maxRpcPayloadBytes then
      .refuse .resourceExhausted "payload_oversized"
    else if !method.handlerEnforcedScope && !replies.scopeCovers then
      .refuse .permissionDenied "scope_denied"
    else if service.executing.size ≥ service.config.maxConcurrentServerCalls then
      .refuse .resourceExhausted "concurrency_limit"
    else .start

def requestVerdict (request : RpcRequestBody) (digest : List UInt8) (replies : FrameReplies)
    (service : RpcService) : RequestVerdict :=
  match service.resultCache.find? request.requestId with
  | some cached => if cached.requestDigest = digest then .replay cached else .conflict
  | none =>
    match service.executing.find? request.requestId with
    | some serial =>
      if service.calls[serial]?.map ServerCallState.requestDigest = some digest then .duplicate
      else .conflict
    | none => service.admissionVerdict request replies

variable (hash : List UInt8 → List UInt8)

def handleRequest (frame : Frame) (replies : FrameReplies) (service : RpcService) : RpcService :=
  let service := service.record [.requestReceived]
  match parseRpcRequest frame.payload service.limits with
  | .error _ => service.record [.invalidRequest, .channelFailed frame.channelId]
  | .ok request =>
    let digest := hash frame.payload
    match service.requestVerdict request digest replies with
    | .replay cached =>
      (service.record [.replayed request.requestId]).sendResponse frame.channelId
        cached.encodedResponse replies.sent
    | .duplicate => service.record [.duplicate request.requestId]
    | .conflict =>
      service.record [.conflicting request.requestId, .channelFailed frame.channelId]
    | .refuse status detail =>
      service.answerOffline frame.channelId request.requestId digest frame.payload status
        detail replies.sent
    | .start => service.startServerCall frame request digest replies

/-! ### Handler tasks -/

def postFinish (result : RpcHandlerResult) (handlerRan : Bool) (service : RpcService) :
    RpcService :=
  { service with
    posted := service.posted ++ [{ serial := serial, result := result, handlerRan := handlerRan }] }

def setTask (task : TaskState) (call : ServerCallState) : ServerCallState :=
  { call with task := task }

/-- The executor begins a queued task; `stop` is the state of its stop token. -/
def taskStart (stop : Bool) (service : RpcService) : RpcService :=
  match service.calls[serial]? with
  | none => service
  | some call =>
    if call.task ≠ .queued then service
    else if call.phase ≠ 0 then service.modifyCall serial (setTask .finished)
    else if stop then
      (service.modifyCall serial (setTask .finished)).postFinish serial
        (.made .cancelled "cancelled_after_start") true
    else if service.clock ≥ call.deadline then
      (service.modifyCall serial (setTask .finished)).postFinish serial
        (.made .deadlineExceeded "deadline_before_start") false
    else (service.modifyCall serial (setTask .running)).record [.handlerRan serial]

/-- The handler of a running task returns or throws. -/
def taskEnd (result : RpcHandlerResult) (threw : Bool) (service : RpcService) : RpcService :=
  match service.calls[serial]? with
  | none => service
  | some call =>
    if call.task ≠ .running then service
    else if threw then
      (service.modifyCall serial fun call =>
        { call with task := .finished, handlerException := true }).postFinish serial
        (.made .internal "handler_exception") true
    else (service.modifyCall serial (setTask .finished)).postFinish serial result true

/-- A cancelled task that has not begun never runs. -/
def removeTask (call : ServerCallState) : ServerCallState :=
  if call.task = .queued then { call with task := .removed } else call

/-- The strand runs one of the posted completions. -/
def runPosted (index : Nat) (reply : SendReply) (service : RpcService) : RpcService :=
  match service.posted[index]? with
  | none => service
  | some finish =>
    finishServerCall finish.serial finish.result finish.handlerRan reply
      { service with posted := service.posted.eraseIdx index }

/-! ### Cancellation and deadlines of executions -/

def handleCancel (replies : FrameReplies) (service : RpcService) : RpcService :=
  match parseRpcCancel frame.payload with
  | .error _ => service.record [.invalidRequest]
  | .ok id =>
    match service.executing.find? id with
    | none => service
    | some serial =>
      let service := service.modifyCall serial fun call => { call with cancelRequested := true }
      if service.calls[serial]?.map ServerCallState.cancelHandle ≠ some true then service
      else if replies.cancelled = .requestedBeforeStart then
        (service.modifyCall serial removeTask).finishServerCall serial
          (.made .cancelled "cancelled_before_start") true
          replies.sent
      else service

variable (replies : RequestId → SendReply)

/-- One round of the deadline sweep; an entry that is gone is not visited. -/
def sweepCall (service : RpcService) (entry : RequestId × Nat) : RpcService :=
  if service.executing.find? entry.1 ≠ some entry.2 then service
  else
    match service.calls[entry.2]? with
    | none => service
    | some call =>
      if call.deadline ≤ service.clock ∧ call.phase = 0 then
        let service := (service.modifyCall entry.2 turnPhase).record
          [.answered entry.2, .handlerDeadlineExceeded entry.2]
        match encodeRpcResponse (offlineResponse entry.1 .deadlineExceeded
            "deadline_while_executing") service.limits with
        | .error _ => service
        | .ok encoded =>
          (service.cacheResult entry.1 encoded call.requestDigest call.bytes).sendResponse
            call.channelId encoded (replies entry.1)
      else service

def executingStill (serial : Nat) : Bool :=
  match service.calls[serial]? with
  | none => false
  | some call => call.phase == 0

def dropTerminal : RpcService :=
  { service with
    executing := service.executing.filter fun _ serial => service.executingStill serial }

def pruneExecutingDeadlines (service : RpcService) : RpcService :=
  (service.executing.entries.foldl (sweepCall replies) service).dropTerminal

/-! ### Calls of the client -/

def submitCall (request : RpcRequestBody) (idempotent retryOnReconnect : Bool) (completion : Nat)
    (reply : SendReply) (service : RpcService) : Except Error RequestId × RpcService :=
  let id := request.requestId
  let reject (error : Error) (service : RpcService) : Except Error RequestId × RpcService :=
    (.error error, (service.record [.callRejected id]).complete completion (.error error))
  match encodeRpcRequest request service.limits with
  | .error error => reject error service
  | .ok encoded =>
    if service.pending.size ≥ service.config.maxPendingClientCalls then
      reject (rpcServiceError .resourceExhausted "pending_call_capacity") service
    else if service.pending.contains id then
      reject (rpcServiceError .configuration "request_id_in_use") service
    else
      match service.sendFrame (.requestSent id encoded) reply with
      | (.error error, service) => reject error service
      | (.ok (), service) =>
        (.ok id, record [.callStarted id] { service with
          pending := service.pending.insert id {
            request := request
            deadline := addMilliseconds service.clock
              request.deadlineRemainingMilliseconds.toNat
            idempotent := idempotent
            retryOnReconnect := retryOnReconnect
            completion := completion
            submitted := service.clock } })

/-- What a caller asks for; a zero id is replaced by the random one. -/
structure CallArguments where
  service : List UInt8
  method : List UInt8
  payload : List UInt8 := []
  options : RpcCallOptions := {}
  requestId : RequestId
  random : RequestId
  deriving Repr, DecidableEq

def CallArguments.request (arguments : CallArguments) : RpcRequestBody :=
  { requestId := if arguments.requestId.isZero then arguments.random else arguments.requestId
    service := arguments.service
    method := arguments.method
    schemaVersion := 1
    deadlineRemainingMilliseconds := arguments.options.deadlineRemainingMilliseconds
    idempotencyKey := arguments.options.idempotencyKey
    metadata := arguments.options.metadata
    payload := arguments.payload }

def call (arguments : CallArguments) (completion : Option Nat) (reply : SendReply)
    (service : RpcService) : Except Error RequestId × RpcService :=
  if !service.attached then
    (.error (rpcServiceError .configuration "service_not_attached"), service)
  else
    match completion with
    | none => (.error (rpcServiceError .configuration "completion_missing"), service)
    | some completion =>
      if arguments.options.retryOnReconnect && !arguments.options.idempotent then
        (.error (rpcServiceError .configuration "retry_requires_idempotent"), service)
      else
        service.submitCall arguments.request arguments.options.idempotent
          arguments.options.retryOnReconnect completion reply

/-- The request of a retry says how much of its time is left. -/
def retryRequest (call : RetryableCall) (now : Nat) : RpcRequestBody :=
  if call.request.deadlineRemainingMilliseconds.toNat > call.deadline - now then
    { call.request with
      deadlineRemainingMilliseconds := UInt32.ofNat (call.deadline - now) }
  else call.request

def resubmit (call : RetryableCall) (reply : SendReply) (service : RpcService) :
    Except Error RequestId × RpcService :=
  if !service.attached then
    (.error (rpcServiceError .configuration "service_not_attached"), service)
  else if call.deadline ≤ service.clock then
    (.ok call.request.requestId, service.complete call.completion
      (.ok (.made .outcomeUnknown "retry_deadline_expired" call.request.requestId)))
  else
    service.submitCall (retryRequest call service.clock) true true call.completion reply

def completePending (outcome : Except Error RpcCallOutcome) (service : RpcService) : RpcService :=
  match service.pending.find? id with
  | none => service
  | some call =>
    (record [.responseMatched id] { service with
      pending := service.pending.erase id }).complete call.completion outcome

def cancel (reply : SendReply) (service : RpcService) : Except Error Unit × RpcService :=
  if !service.pending.contains id then
    (.error (rpcServiceError .notRegistered "request_not_pending"), service)
  else
    let service :=
      match encodeRpcCancel id with
      | .error _ => service
      | .ok _ => (service.sendFrame (.cancelSent id) reply).2
    (.ok (), service.completePending id (.ok (.made .cancelled "cancelled_locally" id)))

def handleResponse (service : RpcService) : RpcService :=
  match parseRpcResponse frame.payload service.limits with
  | .error _ => service.record [.invalidRequest]
  | .ok response =>
    if !service.pending.contains response.requestId then
      service.record [.responseUnknown response.requestId]
    else
      service.completePending response.requestId (.ok {
        status := response.status, safeDetail := response.safeDetail
        payload := response.payload, requestId := response.requestId })

def expireCall (entry : RequestId × PendingCall) : RpcService :=
  service.complete entry.2.completion (.ok (.made .deadlineExceeded "local_deadline" entry.1))

def pruneClientDeadlines : RpcService :=
  (service.pending.entries.filter fun entry => decide (entry.2.deadline ≤ service.clock)).foldl
    expireCall { service with
      pending := service.pending.filter fun _ call => decide (service.clock < call.deadline) }

def prune (service : RpcService) : RpcService :=
  service.pruneClientDeadlines.pruneExecutingDeadlines replies

/-! ### The machine of one service -/

def admitFrame (frame : Frame) (replies : FrameReplies) (service : RpcService) :
    Except Error RpcService :=
  if !service.attached then .error (rpcServiceError .configuration "service_not_attached")
  else if frame.type = FrameType.rpcRequest.code then
    match replies.adopted with
    | some error => .error error
    | none => .ok (service.handleRequest hash frame replies)
  else if frame.type = FrameType.rpcResponse.code ∨ frame.type = FrameType.rpcCancel.code then
    if !replies.channelKnown then .error (rpcServiceError .protocol "rpc_channel_unknown")
    else if frame.type = FrameType.rpcResponse.code then .ok (service.handleResponse frame)
    else .ok (service.handleCancel frame replies)
  else .error (rpcServiceError .protocol "rpc_domain_frame_unknown")

def handleFrame (frame : Frame) (replies : FrameReplies) (service : RpcService) : RpcService :=
  match service.admitFrame hash frame replies with
  | .error _ => service
  | .ok after => after

inductive Event where
  | advance (milliseconds : Nat)
  | frame (frame : Frame) (replies : FrameReplies)
  | taskStart (serial : Nat) (stop : Bool)
  | taskEnd (serial : Nat) (result : RpcHandlerResult) (threw : Bool)
  | taskRemoved (serial : Nat)
  | posted (index : Nat) (reply : SendReply)
  | prune (replies : RequestId → SendReply)
  | cancel (id : RequestId) (reply : SendReply)
  | sessionClosed

def step (service : RpcService) : Event → RpcService
  | .advance milliseconds => { service with clock := service.clock + milliseconds }
  | .frame frame replies => service.handleFrame hash frame replies
  | .taskStart serial stop => service.taskStart serial stop
  | .taskEnd serial result threw => service.taskEnd serial result threw
  | .taskRemoved serial => service.modifyCall serial removeTask
  | .posted index reply => service.runPosted index reply
  | .prune replies => service.prune replies
  | .cancel id reply => (service.cancel id reply).2
  | .sessionClosed => service.handleSessionClosed

/-- A service right after it was attached. -/
def Initial : Prop :=
  ∃ (config : RpcServiceConfig) (limits : Limits) (channelId : UInt32) (clock : Nat),
    attach true (.ok channelId) { config := config, limits := limits, clock := clock } =
      .ok service

end RpcService

/-! ### The owner of the services of one peer -/

/-- The owner has one service at a time.  It hands out completions, numbered in
order, and keeps the calls that a service handed back.  `past` is history: the
logs of the services that were destroyed. -/
structure RpcOwner where
  service : RpcService
  taken : List RetryableCall := []
  invocations : Nat := 0
  past : List RpcRecord := []

namespace RpcOwner

inductive Event where
  | service (event : RpcService.Event)
  | call (arguments : RpcService.CallArguments) (reply : SendReply)
  | take
  | resubmit (index : Nat) (reply : SendReply)
  | renew (config : RpcServiceConfig) (limits : Limits) (channelId : UInt32)

/-- A later service takes over once it is attached; what the old one still holds
is destroyed with it. -/
def renew (config : RpcServiceConfig) (limits : Limits) (channelId : UInt32) (owner : RpcOwner) :
    RpcOwner :=
  match RpcService.attach true (.ok channelId)
      { config := config, limits := limits, clock := owner.service.clock } with
  | .error _ => owner
  | .ok service =>
    { owner with service := service, past := owner.past ++ owner.service.log }

def take (owner : RpcOwner) : RpcOwner :=
  { owner with
    service := { owner.service with retryable := [] }
    taken := owner.taken ++ owner.service.retryable }

def step (hash : List UInt8 → List UInt8) (owner : RpcOwner) : Event → RpcOwner
  | .service event => { owner with service := owner.service.step hash event }
  | .call arguments reply =>
    { owner with
      service := (owner.service.call arguments (some owner.invocations) reply).2
      invocations := owner.invocations + 1 }
  | .take => owner.take
  | .resubmit index reply =>
    match owner.taken[index]? with
    | none => owner
    | some call =>
      { owner with
        service := (owner.service.resubmit call reply).2
        taken := owner.taken.eraseIdx index }
  | .renew config limits channelId => owner.renew config limits channelId

def Initial (owner : RpcOwner) : Prop :=
  ∃ service, service.Initial ∧ owner = { service := service }

/-- A run of the owner in which every event is allowed when it happens. -/
abbrev Run (hash : List UInt8 → List UInt8) (allowed : RpcOwner → Event → Prop) :
    RpcOwner → Prop :=
  Machine.Reaches (step hash) Initial allowed

end RpcOwner

end Heyaki
