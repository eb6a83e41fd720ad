/-
Purpose: one session with a peer (`peer_session.cpp`): authentication by hello,
authorization and pairing on the control channel, logical channels and their
handlers, and the pump that hands queued frames to the transport.

A call answers with its result and the session after it.  What the session does
outside (state changes, frames handed to handlers and to the transport, closed
channels) is appended to `log`.  A handler is a token; the calls that a domain
handler makes into the session before it returns are part of its answer.  The
observer makes no calls, as the node, which posts its reactions, and those of a
channel handler follow its frame as events of their own.

`SessionEnv` holds what a call finds outside: the drawn ids, the clock, the answers
of the transport to the sends of its pump, a failure of the connection timeline,
and the injected functions.  An unanswered send is answered with back-pressure.
The frame counters of the diagnostics that nothing reads are left out.

Trusted boundary: `SessionEnv`, `SessionHelloAdmission.read`
-/
import Heyaki.Client.PairingService
import Heyaki.Client.SessionChannels
import Heyaki.Core.SessionProtocol

namespace Heyaki

open Foundation (SortedMap)
open Function

def peerSessionError (code : ErrorCode) (detail : String) : Error :=
  { code := code, component := "peer_session", safeDetail := detail }

inductive PeerSessionState where
  | idle | authenticating | pairingRestricted | authenticated | active | closed
  deriving Repr, Inhabited, DecidableEq

inductive ChannelKind where
  | control | pairing | message | rpc | event | file | shell | stream
  deriving Repr, Inhabited, DecidableEq

structure TransportChannel where
  id : Nat
  kind : ChannelKind
  deriving Repr, Inhabited, DecidableEq

inductive CloseReason where
  | localShutdown | peerClosed | protocolError | other
  deriving Repr, Inhabited, DecidableEq

def physicalDomainForKind : ChannelKind → Option ChannelDomain
  | .control => some .control
  | .message => some .message
  | .rpc => some .rpc
  | .event => some .event
  | .file => some .file
  | .shell => some .shell
  | .stream => some .stream
  | .pairing => none

/-- The negotiated capability that a domain needs. -/
def capabilityForDomain : ChannelDomain → Capability
  | .control => .session
  | .message => .message
  | .rpc => .unaryRpc
  | .event => .event
  | .file => .file
  | .shell => .shell
  | .stream => .byteStream

structure PeerSessionConfig where
  initiator : Bool := false
  limits : Limits := {}
  /-- The encoding of the local hello. -/
  localHello : Except Error (List UInt8)
  nowUnixMilliseconds : UInt64 := 0
  hasTrustAuthorizer : Bool := false
  hasPairingEvaluator : Bool := false
  hasPairingResultSink : Bool := false
  pairingDeadline : UInt64 := 60000
  basicCommunication : Bool := false
  basicCommunicationScopes : List (List UInt8) := []
  pairingApprovalEnabled : Bool := false
  hasPairingApprovalHandler : Bool := false
  initiatorOwnedDomains : List ChannelDomain := []

/-- A registered handler with the domain its channel was opened for. -/
structure ChannelHandler where
  token : Nat
  domain : ChannelDomain
  deriving Repr, Inhabited, DecidableEq

inductive SessionRecord where
  /-- An assignment to the state. -/
  | state (state : PeerSessionState)
  /-- A logical channel opened or adopted with this handler. -/
  | opened (channel : Nat) (handler : ChannelHandler)
  /-- A frame handed to the handler of a logical channel. -/
  | delivered (handler : ChannelHandler) (frame : Frame)
  /-- A frame handed to the handler of a domain. -/
  | admitted (domain : ChannelDomain) (token : Nat) (frame : Frame)
  /-- A frame that `send_frame` queued. -/
  | emitted (channelId : UInt32) (klass : FrameClass) (frame : Frame)
  /-- A frame that the transport took. -/
  | sent (channel : TransportChannel) (queued : QueuedSendFrame)
  | restart (type : UInt8) (payload : List UInt8)
  /-- A call of the pairing evaluator. -/
  | evaluated (request : PairingRequestBody)
  /-- A call of the sink for pairing results. -/
  | presented (result : PairingResultBody) (pending : RequestId × PairingNonce)
      (scopes : List (List UInt8))
  | openChannel (kind : ChannelDomain)
  | closeChannel (channel : TransportChannel)
  | closeTransport (reason : CloseReason)
  deriving DecidableEq

structure PeerSession where
  config : PeerSessionConfig
  admission : SessionHelloAdmission
  channels : SessionChannelManager := {}
  pairingAdmission : PairingRequestAdmission := {}
  control : Option TransportChannel := none
  physicalChannels : ChannelDomain → Option TransportChannel := fun _ => none
  openingPhysicalChannels : ChannelDomain → Bool := fun _ => false
  channelHandlers : SortedMap Nat ChannelHandler := {}
  domainHandlers : ChannelDomain → Option Nat := fun _ => none
  state : PeerSessionState := .idle
  hellosSent : Nat := 0
  pairingRestrictedFlag : Bool := false
  basicCommunication : Bool := false
  policyScopes : List (List UInt8) := []
  authorizedScopes : List (List UInt8) := []
  negotiatedCapabilities : CapabilitySet := {}
  lastError : Option Error := none
  pendingPing : Option UInt64 := none
  pendingPairing : Option (RequestId × PairingNonce) := none
  pendingPairingScopes : List (List UInt8) := []
  restrictedSince : Option UInt64 := none
  businessViolations : Nat := 0
  hasRestartHandler : UInt8 → Bool := fun _ => false
  started : Bool := false
  /-- What the session did so far, oldest first. -/
  log : List SessionRecord := []

/-- What a local call finds outside of the session. -/
structure CallEnv where
  messageId : MessageId
  nonce : PairingNonce
  wallClock : UInt64
  /-- The transport's answers to the sends of the pump, in order. -/
  sends : List (Except Error Unit) := []

namespace PeerSession

variable (session : PeerSession)

def record (entry : SessionRecord) : PeerSession :=
  { session with log := session.log ++ [entry] }

def setState (state : PeerSessionState) : PeerSession :=
  { session with state := state }.record (.state state)

def authenticated (session : PeerSession) : Bool :=
  session.state == .authenticated || session.state == .active

variable (domain : ChannelDomain)

def basicDomainAllowed : Bool :=
  session.basicCommunication && !session.authenticated &&
    (domain == .message || domain == .file)

def policyScopeCovers (scope : List UInt8) : Bool :=
  session.basicCommunication && session.policyScopes.any fun policy => trustScopeCovers policy scope

/-- `session_scope_covers` of the node: the check that a service makes for a peer. -/
def sessionScopeCovers (scope : List UInt8) : Bool :=
  (session.authorizedScopes.any fun granted => trustScopeCovers granted scope) ||
    session.policyScopeCovers scope

def fail (error : Error) : PeerSession :=
  ({ session with lastError := some error }.setState .closed).record
    (.closeTransport .protocolError)

def close (reason : CloseReason) : PeerSession :=
  if session.state = .closed then session
  else (session.setState .closed).record (.closeTransport reason)

/-! ### Sending -/

/-- Where the pump sends a queued frame. -/
inductive Destination where
  | channel (channel : TransportChannel)
  | notOpen
  | noDomain

def destination (queued : QueuedSendFrame) : Destination :=
  let of (channel : Option TransportChannel) : Destination :=
    match channel with
    | some channel => .channel channel
    | none => .notOpen
  if queued.frameClass = .control ∧ isControlDomainFrameType queued.frame.type then
    of session.control
  else
    match frameTypeDomain queued.frame.type with
    | none => .noDomain
    | some domain => of (session.physicalChannels domain)

/-- The loop of the pump, of as many rounds as are left. -/
def pumpRounds : Nat → List (Except Error Unit) → PeerSession → PeerSession
  | 0, _, session => session
  | rounds + 1, answers, session =>
    match session.channels.nextToSend with
    | none => session
    | some (queued, channels) =>
      match session.destination queued with
      | .noDomain =>
        pumpRounds rounds answers
          { session with channels := channels.closeChannel queued.channelId }
      | .notOpen => { session with channels := channels.returnToSend queued }
      | .channel channel =>
        match encodeFrame queued.frame session.config.limits with
        | .error error =>
          { session with channels := channels.closeChannel queued.channelId }.fail error
        | .ok _ =>
          match answers with
          | .ok () :: answers =>
            pumpRounds rounds answers
              ({ session with channels := channels }.record (.sent channel queued))
          | .error error :: _ =>
            if error.code = .wouldBlock then
              { session with channels := channels.returnToSend queued }
            else
              { session with
                channels := channels.closeChannel queued.channelId }.fail error
          | [] => { session with channels := channels.returnToSend queued }

variable (env : CallEnv)

/-- Every round takes a frame out of its queue or is the last one. -/
def pump : PeerSession :=
  pumpRounds session.channels.queuedCount env.sends session

def enqueueControlFrame (type : FrameType) (payload : List UInt8) :
    Except Error Unit × PeerSession :=
  if session.control.isNone then
    (.error (peerSessionError .permission "control_channel_not_ready"), session)
  else
    let frame : Frame := ⟨type.code, 0, 0, env.messageId, payload⟩
    match encodeFrame frame session.config.limits with
    | .error error => (.error error, session)
    | .ok _ =>
      match session.channels.enqueue 0 .control frame with
      | (.error error, channels) => (.error error, { session with channels := channels })
      | (.ok _, channels) => (.ok (), { session with channels := channels }.pump env)

/-- The initiator of the session opens the channels of the domains it owns; an
open in flight is not repeated. -/
def ensurePhysicalChannel : PeerSession :=
  if domain = .control ∨ (session.physicalChannels domain).isSome then session
  else if session.openingPhysicalChannels domain then session
  else if !session.config.initiator && session.config.initiatorOwnedDomains.contains domain then
    session
  else
    { session with
      openingPhysicalChannels := update session.openingPhysicalChannels domain true }.record
        (.openChannel domain)

def sendFrame (channelId : UInt32) (klass : FrameClass) (frame : Frame) :
    Except Error Unit × PeerSession :=
  let domain := frameTypeDomain frame.type
  if !session.authenticated && !domain.any session.basicDomainAllowed then
    (.error (peerSessionError .pairingRequired "session_not_authorized"), session)
  else
    let frame := { frame with
      messageId := if frame.messageId.isZero then env.messageId else frame.messageId
      channelId := if frame.channelId = 0 then channelId else frame.channelId }
    let session := session.ensurePhysicalChannel (domain.getD .message)
    match session.channels.enqueue channelId klass frame with
    | (.error error, channels) => (.error error, { session with channels := channels })
    | (.ok _, channels) =>
      (.ok (),
        ({ session with channels := channels }.record (.emitted channelId klass frame)).pump env)

/-! ### Local calls on the control channel -/

def sendHello : Except Error Unit × PeerSession :=
  match session.config.localHello with
  | .error error => (.error error, session)
  | .ok payload =>
    match session.enqueueControlFrame env .sessionHello payload with
    | (.error error, session) => (.error error, session)
    | (.ok (), session) => (.ok (), { session with hellosSent := session.hellosSent + 1 })

/-- Eight bytes, the lowest first. -/
def encodePingPayload (value : UInt64) : List UInt8 :=
  (List.range 8).map fun index => (value >>> UInt64.ofNat (8 * index)).toUInt8

def decodePingPayload (payload : List UInt8) : UInt64 :=
  payload.zipIdx.foldl (fun value (byte, index) =>
    value ||| byte.toUInt64 <<< UInt64.ofNat (8 * index)) 0

def sendPing (pingId : UInt64) : Except Error Unit × PeerSession :=
  if !session.authenticated || session.control.isNone || session.pendingPing.isSome then
    (.error (peerSessionError .permission "control_ping_not_available"), session)
  else
    match session.enqueueControlFrame env .ping (encodePingPayload pingId) with
    | (.error error, session) => (.error error, session)
    | (.ok (), session) => (.ok (), { session with pendingPing := some pingId })

def isRestartType (type : FrameType) : Bool :=
  type == .sessionRestartOffer || type == .sessionRestartAnswer || type == .sessionRestartCandidate

def maxSignalingObjectBytes : Nat := 64 * 1024

def sendRestartFrame (type : FrameType) (payload : List UInt8) : Except Error Unit × PeerSession :=
  if !isRestartType type then
    (.error (peerSessionError .configuration "restart_frame_type_invalid"), session)
  else if !session.authenticated || session.control.isNone then
    (.error (peerSessionError .permission "restart_frame_not_available"), session)
  else if !session.negotiatedCapabilities.has .sessionRestartV1 then
    (.error (peerSessionError .permission "restart_capability_not_negotiated"), session)
  else if payload.isEmpty || payload.length > maxSignalingObjectBytes then
    (.error (peerSessionError .protocol "restart_frame_payload_invalid"), session)
  else session.enqueueControlFrame env type payload

def enforcePairingDeadline : Except Error Unit :=
  match session.restrictedSince with
  | none => .ok ()
  | some since =>
    if env.wallClock < since then .ok ()
    else if env.wallClock - since > session.config.pairingDeadline then
      .error (peerSessionError .timeout "pairing_deadline_exceeded")
    else .ok ()

/-- The part that the two pairing submissions share. -/
def submitPairing (capability : Capability) (absent : String) (type : FrameType)
    (requestId : RequestId) (scopes : List (List UInt8)) (encoded : Except Error (List UInt8)) :
    Except Error Unit × PeerSession :=
  if session.state ≠ .pairingRestricted ∧ !session.authenticated then
    (.error (peerSessionError .pairingRequired "session_not_pairing_restricted"), session)
  else if session.pendingPairing.isSome then
    (.error (peerSessionError .pairingRequired "pairing_request_in_flight"), session)
  else
    match session.enforcePairingDeadline env with
    | .error error => (.error error, session)
    | .ok () =>
      if !session.negotiatedCapabilities.has capability then
        (.error (peerSessionError .pairingDenied absent), session)
      else
        match encoded with
        | .error error => (.error error, session)
        | .ok payload =>
          match session.enqueueControlFrame env type payload with
          | (.error error, session) => (.error error, session)
          | (.ok (), session) =>
            (.ok (), { session with
              pendingPairing := some (requestId, env.nonce)
              pendingPairingScopes := scopes })

def submitPairingRequest (requestId : RequestId) (password : List UInt8)
    (scopes : List (List UInt8)) : Except Error Unit × PeerSession :=
  session.submitPairing env .pairing "pairing_capability_absent" .pairingRequest requestId scopes
    (encodePairingRequest {
      requestId := requestId, nonce := env.nonce, passwordUtf8 := password,
      requestedScopes := scopes })

def submitPairingApprovalRequest (requestId : RequestId) (scopes : List (List UInt8)) :
    Except Error Unit × PeerSession :=
  session.submitPairing env .pairingApprovalV1 "approval_capability_absent"
    .pairingApprovalRequest requestId scopes
    (encodePairingApprovalRequest {
      requestId := requestId, nonce := env.nonce, requestedScopes := scopes })

def sendPairingResult (result : PairingResultBody) : Except Error Unit × PeerSession :=
  if session.state ≠ .pairingRestricted ∧ !session.authenticated then
    (.error (peerSessionError .pairingRequired "session_not_pairing_restricted"), session)
  else
    match encodePairingResult result with
    | .error error => (.error error, session)
    | .ok payload => session.enqueueControlFrame env .pairingResult payload

/-! ### Logical channels -/

variable (channelId : UInt32)

/-- `std::map::emplace`: a registered handler stays, also one that was left behind
when the scheduler closed the channel. -/
def registerHandler (handler : ChannelHandler) : PeerSession :=
  let session := session.record (.opened channelId.toNat handler)
  if session.channelHandlers.contains channelId.toNat then session
  else
    { session with channelHandlers := session.channelHandlers.insert channelId.toNat handler }

def openBusinessChannel (policy : QueueFullPolicy) (frameCapacity byteCapacity token : Nat) :
    Except Error UInt32 × PeerSession :=
  if !session.authenticated && !session.basicDomainAllowed domain then
    (.error (peerSessionError .pairingRequired "session_not_authorized"), session)
  else if session.state = .pairingRestricted ∧ !session.basicDomainAllowed domain then
    (.error (peerSessionError .pairingRequired "session_not_authorized"), session)
  else if !session.negotiatedCapabilities.has (capabilityForDomain domain) then
    (.error (peerSessionError .protocol "domain_capability_not_negotiated"), session)
  else
    match session.channels.allocateChannel session.config.initiator domain policy frameCapacity
        byteCapacity with
    | (.error error, channels) => (.error error, { session with channels := channels })
    | (.ok channelId, channels) =>
      let session := ({ session with channels := channels }.registerHandler channelId
        { token := token, domain := domain }).ensurePhysicalChannel domain
      (.ok channelId,
        if session.state = .authenticated then session.setState .active else session)

def closeBusinessChannel : PeerSession :=
  { session with
    channels := session.channels.closeChannel channelId
    channelHandlers := session.channelHandlers.erase channelId.toNat }

def failBusinessChannel : PeerSession :=
  let domain := session.channels.channelDomain channelId
  let session := session.closeBusinessChannel channelId
  match domain with
  | none => session
  | some domain =>
    match session.physicalChannels domain with
    | none => session
    | some channel =>
      { session with
        physicalChannels := update session.physicalChannels domain none }.record
          (.closeChannel channel)

def adoptBusinessChannel (domain : ChannelDomain) (policy : QueueFullPolicy)
    (frameCapacity byteCapacity token : Nat) : Except Error UInt32 × PeerSession :=
  if !session.authenticated && !session.basicDomainAllowed domain then
    (.error (peerSessionError .pairingRequired "session_not_authorized"), session)
  else
    match session.channels.openChannel channelId domain policy frameCapacity byteCapacity with
    | (.error error, channels) => (.error error, { session with channels := channels })
    | (.ok (), channels) =>
      (.ok channelId, ({ session with channels := channels }.registerHandler channelId
        { token := token, domain := domain }).ensurePhysicalChannel domain)

def setDomainHandler (token : Option Nat) : PeerSession :=
  { session with domainHandlers := update session.domainHandlers domain token }

def setRestartHandler (handles : UInt8 → Bool) : PeerSession :=
  { session with hasRestartHandler := handles }

/-! ### Local calls -/

inductive LocalCall where
  | sendPing (pingId : UInt64)
  | sendRestartFrame (type : FrameType) (payload : List UInt8)
  | setRestartHandler (handles : UInt8 → Bool)
  | submitPairingRequest (requestId : RequestId) (password : List UInt8)
      (scopes : List (List UInt8))
  | submitPairingApprovalRequest (requestId : RequestId) (scopes : List (List UInt8))
  | sendPairingResult (result : PairingResultBody)
  | openBusinessChannel (domain : ChannelDomain) (policy : QueueFullPolicy)
      (frameCapacity byteCapacity token : Nat)
  | closeBusinessChannel (channelId : UInt32)
  | failBusinessChannel (channelId : UInt32)
  | adoptBusinessChannel (channelId : UInt32) (domain : ChannelDomain) (policy : QueueFullPolicy)
      (frameCapacity byteCapacity token : Nat)
  | setDomainHandler (domain : ChannelDomain) (token : Option Nat)
  | sendFrame (channelId : UInt32) (klass : FrameClass) (frame : Frame)
  | pump
  | close (reason : CloseReason)

/-- The session after a call. -/
def call : LocalCall → PeerSession
  | .sendPing pingId => (session.sendPing env pingId).2
  | .sendRestartFrame type payload => (session.sendRestartFrame env type payload).2
  | .setRestartHandler handles => session.setRestartHandler handles
  | .submitPairingRequest requestId password scopes =>
    (session.submitPairingRequest env requestId password scopes).2
  | .submitPairingApprovalRequest requestId scopes =>
    (session.submitPairingApprovalRequest env requestId scopes).2
  | .sendPairingResult result => (session.sendPairingResult env result).2
  | .openBusinessChannel domain policy frames bytes token =>
    (session.openBusinessChannel domain policy frames bytes token).2
  | .closeBusinessChannel channelId => session.closeBusinessChannel channelId
  | .failBusinessChannel channelId => session.failBusinessChannel channelId
  | .adoptBusinessChannel channelId domain policy frames bytes token =>
    (session.adoptBusinessChannel channelId domain policy frames bytes token).2
  | .setDomainHandler domain token => session.setDomainHandler domain token
  | .sendFrame channelId klass frame => (session.sendFrame env channelId klass frame).2
  | .pump => session.pump env
  | .close reason => session.close reason

end PeerSession

/-- What handling an event finds outside of the session. -/
structure SessionEnv extends CallEnv where
  /-- A failure to note the event in the connection timeline. -/
  timelineFault : Option Error := none
  authorize : UInt64 → Except Error SessionAuthorization
  evaluate : PairingRequestBody → Except Error PairingResultBody
  acceptResult : PairingResultBody → RequestId → PairingNonce → List (List UInt8) →
    Except Error Unit
  approve : PairingApprovalRequestBody → Except Error Unit
  /-- The calls a domain handler makes and what it returns. -/
  admitFrame : Frame → List (CallEnv × PeerSession.LocalCall) × Except Error Unit

namespace PeerSession

/-! ### Authorization -/

variable (session : PeerSession)

def upgradeToAuthorized (scopes : List (List UInt8)) : PeerSession :=
  { session with
    authorizedScopes := scopes
    pairingRestrictedFlag := false
    basicCommunication := false
    policyScopes := []
    restrictedSince := none }.setState .authenticated

variable (env : SessionEnv)

/-- The session of an untrusted peer. -/
def restrict (basic : Bool) : PeerSession :=
  { session with
    pairingRestrictedFlag := true
    authorizedScopes := []
    basicCommunication := basic
    policyScopes := if basic then session.config.basicCommunicationScopes else []
    restrictedSince := some env.wallClock }.setState .pairingRestricted

/-- What follows an accepted hello once the own one is out. -/
def authorizePeer : PeerSession :=
  if !session.config.hasTrustAuthorizer then session.upgradeToAuthorized []
  else
    match env.authorize env.wallClock with
    | .error error => session.fail error
    | .ok trust =>
      if trust.trusted then session.upgradeToAuthorized trust.scopes
      else
        let basic := session.config.basicCommunication &&
          !session.config.basicCommunicationScopes.isEmpty &&
          session.negotiatedCapabilities.has .message
        if !basic && !session.negotiatedCapabilities.has .pairing then
          session.fail (peerSessionError .pairingDenied "pairing_capability_absent")
        else session.restrict env basic

variable (channel : TransportChannel) (frame : Frame)

def handleHello : PeerSession :=
  let session := { session with
    control := some channel
    physicalChannels := update session.physicalChannels .control (some channel) }
  match env.timelineFault with
  | some error => session.fail error
  | none =>
    match session.admission.admitHello frame.payload session.config.nowUnixMilliseconds with
    | (.error error, admission) => { session with admission := admission }.fail error
    | (.ok outcome, admission) =>
      let session := { session with admission := admission }
      if outcome.action ≠ .accepted then session
      else
        let session := { session with
          negotiatedCapabilities := (outcome.negotiatedProtocol.getD {}).capabilities }
        if session.hellosSent = 0 then
          match session.sendHello env.toCallEnv with
          | (.error error, session) => session.fail error
          | (.ok (), session) => session.authorizePeer env
        else session.authorizePeer env

/-! ### Pairing frames -/

def statusForError (error : Error) : StableStatus :=
  match error.code with
  | .pairingRateLimited | .resourceExhausted => .resourceExhausted
  | .pairingDenied | .permission => .permissionDenied
  | .authentication | .pairingRequired => .unauthenticated
  | .timeout => .deadlineExceeded
  | .cancelled => .cancelled
  | _ => .internal

/-- A refusal: the result is sent if it can be encoded; only a restricted session
is closed over it. -/
def denyPairing (authorizedPeer : Bool) (result : PairingResultBody) (error : Error) :
    PeerSession :=
  let session := match encodePairingResult result with
    | .error _ => session
    | .ok payload => (session.enqueueControlFrame env.toCallEnv .pairingResult payload).2
  if authorizedPeer then session else session.fail error

/-- The result of an admitted request. -/
def pairingAnswer (request : PairingRequestBody) : PairingResultBody :=
  match env.evaluate request with
  | .error error => { requestId := request.requestId, status := statusForError error }
  | .ok result => { result with requestId := request.requestId }

/-- Keep the result of a request and answer. -/
def answerPairing (authorizedPeer : Bool) (result : PairingResultBody) : PeerSession :=
  match session.pairingAdmission.recordResult result with
  | (.error error, admission) => { session with pairingAdmission := admission }.fail error
  | (.ok (), admission) =>
    let session := { session with pairingAdmission := admission }
    match encodePairingResult result with
    | .error error => session.fail error
    | .ok payload =>
      match session.enqueueControlFrame env.toCallEnv .pairingResult payload with
      | (.error error, session) => session.fail error
      | (.ok (), session) =>
        match result.grant with
        | some grant =>
          if result.status = .ok ∧ !authorizedPeer then
            session.upgradeToAuthorized grant.grantedScopes
          else if authorizedPeer then session
          else session.fail (peerSessionError .pairingDenied "pairing_denied")
        | none =>
          if authorizedPeer then session
          else session.fail (peerSessionError .pairingDenied "pairing_denied")

def evaluatePairing (authorizedPeer : Bool) (request : PairingRequestBody) : PeerSession :=
  (session.record (.evaluated request)).answerPairing env authorizedPeer (pairingAnswer env request)

def handlePairingRequest : PeerSession :=
  if !session.authenticated ∧ session.state ≠ .pairingRestricted then
    session.fail (peerSessionError .authentication "pairing_frame_before_hello")
  else
    let authorizedPeer := session.authenticated
    if frame.payload.length > session.config.limits.maxPairingPayloadBytes then
      if authorizedPeer then session
      else session.fail (peerSessionError .protocol "pairing_payload_limit")
    else
      match parsePairingRequest frame.payload with
      | .error error => if authorizedPeer then session else session.fail error
      | .ok request =>
        match session.enforcePairingDeadline env.toCallEnv with
        | .error _ =>
          session.denyPairing env authorizedPeer
            { requestId := request.requestId, status := .deadlineExceeded }
            (peerSessionError .pairingDenied "pairing_deadline_exceeded")
        | .ok () =>
          match session.pairingAdmission.admitRequest request with
          | (.error error, admission) =>
            { session with pairingAdmission := admission }.denyPairing env authorizedPeer
              { requestId := request.requestId, status := .resourceExhausted }
              (peerSessionError error.code "pairing_rate_limited")
          | (.ok outcome, admission) =>
            let session := { session with pairingAdmission := admission }
            match outcome.action, outcome.cachedResult with
            | .duplicate, some cached =>
              match encodePairingResult cached with
              | .error error => session.fail error
              | .ok payload =>
                match session.enqueueControlFrame env.toCallEnv .pairingResult
                    payload with
                | (.error error, session) => session.fail error
                | (.ok (), session) => session
            | _, _ =>
              if !session.config.hasPairingEvaluator then
                session.denyPairing env authorizedPeer
                  { requestId := request.requestId, status := .permissionDenied }
                  (peerSessionError .pairingDenied "pairing_disabled")
              else session.evaluatePairing env authorizedPeer request

/-- A result that names a grant with status ok. -/
def acceptPairingResult (pending : RequestId × PairingNonce) (result : PairingResultBody)
    (grant : SignedTrustGrant) : PeerSession :=
  if !session.config.hasPairingResultSink then
    session.fail (peerSessionError .configuration "pairing_result_sink_missing")
  else
    let session := session.record (.presented result pending session.pendingPairingScopes)
    match env.acceptResult result pending.1 pending.2 session.pendingPairingScopes with
    | .error error => session.fail error
    | .ok () =>
      let session := { session with pendingPairing := none }
      if !session.authenticated then session.upgradeToAuthorized grant.grantedScopes
      else session

def handlePairingResult : PeerSession :=
  match session.pendingPairing with
  | none =>
    if session.authenticated then session
    else session.fail (peerSessionError .protocol "pairing_result_unexpected")
  | some pending =>
    if session.state ≠ .pairingRestricted ∧ !session.authenticated then
      session.fail (peerSessionError .protocol "pairing_result_outside_restricted")
    else
      match parsePairingResult frame.payload with
      | .error error => session.fail error
      | .ok result =>
        if result.requestId ≠ pending.1 then
          session.fail (peerSessionError .protocol "pairing_result_request_mismatch")
        else
          match result.status, result.grant with
          | .ok, some grant => session.acceptPairingResult env pending result grant
          | _, _ =>
            let session := { session with pendingPairing := none }
            if session.authenticated then session
            else session.fail (peerSessionError .pairingDenied "pairing_denied")

/-- The answer to a request that the handler did not take has no request id, which
the encoder refuses; nothing is sent. -/
def handlePairingApprovalRequest : PeerSession :=
  if !session.authenticated ∧ session.state ≠ .pairingRestricted then
    session.fail (peerSessionError .authentication "pairing_frame_before_hello")
  else
    let authorizedPeer := session.authenticated
    if authorizedPeer ∧ frame.payload.length > session.config.limits.maxPairingPayloadBytes then
      session
    else
      match parsePairingApprovalRequest frame.payload with
      | .error error => if authorizedPeer then session else session.fail error
      | .ok request =>
        if !session.config.pairingApprovalEnabled || !session.config.hasPairingApprovalHandler then
          session.denyPairing env authorizedPeer
            { requestId := request.requestId, status := .permissionDenied }
            (peerSessionError .pairingDenied "pairing_approval_disabled")
        else
          match session.enforcePairingDeadline env.toCallEnv with
          | .error _ =>
            session.denyPairing env authorizedPeer
              { requestId := request.requestId, status := .deadlineExceeded }
              (peerSessionError .pairingDenied "pairing_deadline_exceeded")
          | .ok () =>
            match env.approve request with
            | .ok () => session
            | .error _ =>
              session.denyPairing env authorizedPeer
                { requestId := .filled 0, status := .resourceExhausted }
                (peerSessionError .pairingDenied "pairing_approval_not_admitted")

/-! ### Frames of the control channel -/

def handleRestartFrame : PeerSession :=
  if !session.authenticated then
    session.fail (peerSessionError .authentication "restart_frame_before_hello")
  else if !session.negotiatedCapabilities.has .sessionRestartV1 then session
  else if session.hasRestartHandler frame.type then session.record (.restart frame.type frame.payload)
  else session

def handlePing : PeerSession :=
  if session.authenticated ∧ frame.payload.length = 8 then
    match session.enqueueControlFrame env.toCallEnv .pong frame.payload with
    | (.error _, session) => session.fail (peerSessionError .transport "pong_send_failed")
    | (.ok (), session) => session
  else session

def handlePong : PeerSession :=
  if session.authenticated ∧ frame.payload.length = 8 ∧
      session.pendingPing = some (decodePingPayload frame.payload) then
    { session with pendingPing := none }
  else session

/-- The type of a frame, when it is a known one. -/
def frameType? (type : UInt8) : Option FrameType :=
  FrameType.all.find? fun known => known.code == type

def handleControlFrame : PeerSession :=
  match frameType? frame.type with
  | some .sessionHello => session.handleHello env channel frame
  | some .pairingRequest => session.handlePairingRequest env frame
  | some .pairingResult => session.handlePairingResult env frame
  | some .pairingApprovalRequest => session.handlePairingApprovalRequest env frame
  | some .sessionRestartOffer | some .sessionRestartAnswer | some .sessionRestartCandidate =>
    session.handleRestartFrame frame
  | some .ping => session.handlePing env frame
  | some .pong => session.handlePong frame
  | some .protocolClose => session.close .peerClosed
  | _ =>
    if session.authenticated ∨ session.state = .pairingRestricted then session
    else session.fail (peerSessionError .authentication "control_frame_before_hello")

/-! ### Frames of business channels -/

/-- The first violation closes the channel, the next one the session. -/
def noteBusinessViolation : PeerSession :=
  let session := { session with businessViolations := session.businessViolations + 1 }
  if session.businessViolations ≥ 2 then
    session.fail (peerSessionError .permission "business_frames_not_authorized")
  else session.record (.closeChannel channel)

/-- The first frame of an authorized session makes it active. -/
def activate : PeerSession :=
  if session.state = .authenticated then session.setState .active else session

/-- A frame on a channel without a handler is the domain handler's, if there is one. -/
def admitFrame (session : PeerSession) (env : SessionEnv) (channel : TransportChannel)
    (frame : Frame) : PeerSession :=
  match frameTypeDomain frame.type with
  | none => session
  | some domain =>
    match session.domainHandlers domain with
    | none => session
    | some token =>
      let (calls, result) := env.admitFrame frame
      let session := calls.foldl (fun session (env, call) => session.call env call)
        (session.record (.admitted domain token frame))
      match result with
      | .error _ => session.record (.closeChannel channel)
      | .ok () => session.activate

def handleBusinessFrame : PeerSession :=
  if !session.authenticated && !(frameTypeDomain frame.type).any session.basicDomainAllowed then
    session.noteBusinessViolation channel
  else
    match unknownFrameAction frame with
    | .closeChannel =>
      (session.closeBusinessChannel frame.channelId).record (.closeChannel channel)
    | .skip => session
    | .process =>
      match session.channelHandlers.find? frame.channelId.toNat with
      | none => session.admitFrame env channel frame
      | some handler => session.activate.record (.delivered handler frame)

def handleMessage (payload : List UInt8) : PeerSession :=
  match parseFrame payload session.config.limits with
  | .parsed consumed frame =>
    if consumed = payload.length then
      if channel.kind = .control then session.handleControlFrame env channel frame
      else session.handleBusinessFrame env channel frame
    else if channel.kind = .control then
      session.fail (peerSessionError .protocol "control_frame_invalid")
    else session.noteBusinessViolation channel
  | _ =>
    if channel.kind = .control then
      session.fail (peerSessionError .protocol "control_frame_invalid")
    else session.noteBusinessViolation channel

/-! ### The transport -/

def start : Except Error Unit × PeerSession :=
  if session.started ∨ session.state = .closed then
    (.error (peerSessionError .cancelled "peer_session_closed"), session)
  else
    let session := { session with started := true }.setState .authenticating
    (.ok (), if session.config.initiator then session.record (.openChannel .control) else session)

/-- Progress notes in the timeline; both ends close the session. -/
inductive TransportState where
  | progress
  | failed (error : Option Error)
  | closed

def handleTransportState :
    TransportState → PeerSession
  | .progress =>
    match env.timelineFault with
    | some error => session.fail error
    | none => session
  | .failed error =>
    { session with lastError := error.orElse fun _ => session.lastError }.setState .closed
  | .closed => session.setState .closed

/-- The control channel of the initiator is open, or could not be opened. -/
def controlOpened (result : Except Error TransportChannel) : PeerSession :=
  match result with
  | .error error => session.fail error
  | .ok channel =>
    let session := { session with
      control := some channel
      physicalChannels := update session.physicalChannels .control (some channel) }
    match env.timelineFault with
    | some error => session.fail error
    | none =>
      match session.sendHello env.toCallEnv with
      | (.error error, session) => session.fail error
      | (.ok (), session) => session

def physicalOpened (domain : ChannelDomain) (result : Except Error TransportChannel) :
    PeerSession :=
  let session := { session with
    openingPhysicalChannels := update session.openingPhysicalChannels domain false }
  match result with
  | .error error => session.fail error
  | .ok channel =>
    { session with
      physicalChannels := update session.physicalChannels domain (some channel) }.pump
        env.toCallEnv

def adoptPhysicalChannel : PeerSession :=
  match physicalDomainForKind channel.kind with
  | none => session
  | some domain =>
    if domain = .control ∨ (session.config.initiatorOwnedDomains.contains domain ∧
        (session.physicalChannels domain).isSome) then
      session
    else
      { session with
        physicalChannels := update session.physicalChannels domain (some channel) }.pump
          env.toCallEnv

/-! ### Events -/

inductive SessionEvent where
  | start
  | message (channel : TransportChannel) (payload : List UInt8)
  | transportState (state : TransportState)
  | controlOpened (result : Except Error TransportChannel)
  | physicalOpened (domain : ChannelDomain) (result : Except Error TransportChannel)
  | channelOpened (channel : TransportChannel)
  | writable
  | call (call : LocalCall)

def step (event : SessionEnv × SessionEvent) : PeerSession :=
  match event.2 with
  | .start => session.start.2
  | .message channel payload => session.handleMessage event.1 channel payload
  | .transportState state => session.handleTransportState event.1 state
  | .controlOpened result => session.controlOpened event.1 result
  | .physicalOpened domain result => session.physicalOpened event.1 domain result
  | .channelOpened channel => session.adoptPhysicalChannel event.1 channel
  | .writable => session.pump event.1.toCallEnv
  | .call call => session.call event.1.toCallEnv call

end PeerSession

end Heyaki
