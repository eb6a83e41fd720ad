/-
Purpose: the remote event bus service of `event_service.cpp`, and two of them joined
by channels that deliver every accepted frame once and in order.

What the session answers to each frame, in their order, is part of each call, as are
the random ids it draws and the scope check.  The log lists what the service does;
each counter of the source is the number of its entries of one kind.  The dispatch of
inbound handlers to the executor is not part of the model.
-/
import Heyaki.Core.EventProtocol
import Heyaki.Foundation.SortedMap

namespace Heyaki

open Foundation

structure EventServiceConfig where
  subscriberQueueItems : Nat := 256
  maxSubscriptionsPerPeer : Nat := 64
  channelFrameCapacity : Nat := 256
  channelByteCapacity : Nat := 2 * 1024 * 1024
  deriving Repr, Inhabited, DecidableEq

/-- A subscription of the peer, with the encoded items that wait for the channel. -/
structure RemoteSubscription where
  pattern : List UInt8
  prefixMatch : Bool
  qos : EventQos
  staged : List (List UInt8) := []
  lastStagedSequence : UInt64 := 0
  stagedValid : Bool := false
  deriving DecidableEq

/-- A subscription at the peer. -/
structure LocalSubscription where
  pattern : List UInt8
  prefixMatch : Bool
  qos : EventQos
  active : Bool := true
  hasSequence : Bool := false
  newestSequence : UInt64 := 0
  lastEventId : EventId := .filled 0
  deriving DecidableEq

inductive EventFrameType where
  | subscribe | item | unsubscribe
  deriving Repr, DecidableEq

structure EventFrame where
  type : EventFrameType
  payload : List UInt8
  deriving DecidableEq

inductive EventRecord where
  | published (topic : List UInt8) (sequence : UInt64)
  | itemSendFailed (id : EventSubscriptionId)
  | overwritten (id : EventSubscriptionId)
  | overflowed (id : EventSubscriptionId)
  | publishedItems
  | itemSent (id : EventSubscriptionId)
  | invalidSubscribe
  | duplicateSubscription (id : EventSubscriptionId)
  | scopeRejected (id : EventSubscriptionId)
  | limitHit (id : EventSubscriptionId)
  | accepted (id : EventSubscriptionId)
  | unsubscribeReceived
  | terminated (id : EventSubscriptionId)
  | subscribeSent (id : EventSubscriptionId)
  | unsubscribeSent (id : EventSubscriptionId)
  | unknownItem (id : EventSubscriptionId)
  | duplicateItem (id : EventSubscriptionId)
  | conflictingItem (id : EventSubscriptionId)
  | lag (id : EventSubscriptionId) (gap : UInt64) (stale : Bool)
  /-- Handed to the local topic under the pattern of the subscription. -/
  | received (pattern : List UInt8) (item : EventItemBody)
  /-- `fail_business_channel` with a protocol error. -/
  | channelFailed
  deriving DecidableEq

structure EventService where
  config : EventServiceConfig := {}
  limits : Limits := {}
  localDevice : DeviceId
  attached : Bool := false
  remoteSubscriptions : SortedMap EventSubscriptionId RemoteSubscription := {}
  localSubscriptions : SortedMap EventSubscriptionId LocalSubscription := {}
  topicSequences : List UInt8 → UInt64 := fun _ => 0
  log : List EventRecord := []

def eventServiceError (code : ErrorCode) (detail : String) : Error :=
  { code := code, component := "event", safeDetail := detail }

/-- The scope is qualified by the first segment of the pattern. -/
def eventSubscriptionScope (pattern : List UInt8) : List UInt8 :=
  asciiBytes "event.subscribe:" ++ pattern.takeWhile (· != 46)

/-- A call in progress: the frames the session has accepted from it, and what it will
answer to the next ones.  A frame without an answer is accepted. -/
structure EventTurn where
  service : EventService
  out : List EventFrame := []
  replies : List (Option Error) := []

namespace EventTurn

def record (records : List EventRecord) (turn : EventTurn) : EventTurn :=
  { turn with service := { turn.service with log := turn.service.log ++ records } }

def sendFrame (frame : EventFrame) (turn : EventTurn) : Option Error × EventTurn :=
  match turn.replies with
  | [] => (none, { turn with out := turn.out ++ [frame] })
  | none :: replies => (none, { turn with out := turn.out ++ [frame], replies := replies })
  | some error :: replies => (some error, { turn with replies := replies })

/-- A refusal is not noticed. -/
def sendUnsubscribe (id : EventSubscriptionId) (turn : EventTurn) : EventTurn :=
  match encodeEventUnsubscribe id with
  | .error _ => turn
  | .ok payload =>
    match turn.sendFrame ⟨.unsubscribe, payload⟩ with
    | (none, turn) => turn.record [.unsubscribeSent id]
    | (some _, turn) => turn

end EventTurn

open EventTurn

namespace EventService

def turn (service : EventService) (replies : List (Option Error)) : EventTurn :=
  { service := service, replies := replies }

/-! ### Attaching -/

def configInvalid (config : EventServiceConfig) : Bool :=
  config.subscriberQueueItems == 0 || config.subscriberQueueItems > 65536 ||
    config.maxSubscriptionsPerPeer == 0 || config.maxSubscriptionsPerPeer > 4096 ||
    config.channelFrameCapacity == 0 || config.channelFrameCapacity > 65536 ||
    config.channelByteCapacity == 0 || config.channelByteCapacity > 256 * 1024 * 1024

/-- `opened` is the session's answer to opening the event channel. -/
def attach (dispatch : Bool) (opened : Except Error Unit) (service : EventService) :
    Except Error EventService :=
  if service.attached then .ok service
  else if configInvalid service.config then
    .error (eventServiceError .configuration "event_config_invalid")
  else if !dispatch then .error (eventServiceError .configuration "dispatch_missing")
  else
    match opened with
    | .error error => .error error
    | .ok () => .ok { service with attached := true }

/-! ### The subscriber -/

/-- `drawn` is the random id. -/
def subscribe (pattern : List UInt8) (prefixMatch : Bool) (qos : EventQos)
    (drawn : EventSubscriptionId) (turn : EventTurn) :
    Except Error EventSubscriptionId × EventTurn :=
  if !turn.service.attached then
    (.error (eventServiceError .configuration "service_not_attached"), turn)
  else if !validEventTopic pattern then
    (.error (eventServiceError .protocol "topic_invalid"), turn)
  else
    match encodeEventSubscribe
        { subscriptionId := drawn, topic := pattern, prefixMatch := prefixMatch, qos := qos } with
    | .error error => (.error error, turn)
    | .ok payload =>
      match turn.sendFrame ⟨.subscribe, payload⟩ with
      | (some error, turn) => (.error error, turn)
      | (none, turn) =>
        (.ok drawn, record [.subscribeSent drawn] { turn with
          service := { turn.service with
            localSubscriptions := turn.service.localSubscriptions.insert drawn
              { pattern := pattern, prefixMatch := prefixMatch, qos := qos } } })

variable (id : EventSubscriptionId)

def eraseLocal (turn : EventTurn) : EventTurn :=
  { turn with service := { turn.service with
      localSubscriptions := turn.service.localSubscriptions.erase id } }

/-- The loop of `unsubscribe` over the entries it started with. -/
def unsubscribeEntries (pattern : List UInt8) :
    List (EventSubscriptionId × LocalSubscription) → EventTurn → Nat × EventTurn
  | [], turn => (0, turn)
  | (id, subscription) :: rest, turn =>
    if subscription.pattern = pattern ∧ subscription.active then
      let (removed, turn) := unsubscribeEntries pattern rest
        (eraseLocal id (turn.sendUnsubscribe id))
      (removed + 1, turn)
    else unsubscribeEntries pattern rest turn

def unsubscribe (pattern : List UInt8) (turn : EventTurn) : Nat × EventTurn :=
  unsubscribeEntries pattern turn.service.localSubscriptions.entries turn

def unsubscribeId (turn : EventTurn) : Except Error Unit × EventTurn :=
  match turn.service.localSubscriptions.find? id with
  | none => (.error (eventServiceError .peerOffline "subscription_unknown"), turn)
  | some subscription =>
    if !subscription.active then
      (.error (eventServiceError .peerOffline "subscription_unknown"), turn)
    else (.ok (), eraseLocal id (turn.sendUnsubscribe id))

/-! ### The publisher -/

/-- What a publish does to one subscription of the peer. -/
inductive Staging where
  | unmatched
  | failed
  | staged (subscription : RemoteSubscription) (overwrites : Bool)
  | overflowed
  deriving DecidableEq

/-- The body of the loop of `publish`.  `item` is the item but for what depends on the
subscription. -/
def stage (config : EventServiceConfig) (limits : Limits) (topic : List UInt8)
    (item : EventItemBody) (id : EventSubscriptionId) (subscription : RemoteSubscription) :
    Staging :=
  if !eventTopicMatches subscription.pattern subscription.prefixMatch topic then .unmatched
  else
    match encodeEventItem { item with subscriptionId := id, qos := subscription.qos } limits with
    | .error _ => .failed
    | .ok encoded =>
      let push (staged : List (List UInt8)) : RemoteSubscription :=
        { subscription with
          staged := staged ++ [encoded]
          lastStagedSequence := item.publisherSequence
          stagedValid := true }
      match subscription.qos with
      | .bestEffortLatest => .staged (push subscription.staged.tail) !subscription.staged.isEmpty
      | .reliableLive =>
        if subscription.staged.length ≥ config.subscriberQueueItems then .overflowed
        else .staged (push subscription.staged) false

/-- What is logged of a staging. -/
def Staging.records : Staging → List EventRecord
  | .unmatched => []
  | .failed => [.itemSendFailed id]
  | .staged _ overwrites => if overwrites then [.overwritten id] else []
  | .overflowed => [.overflowed id]

def Staging.isStaged : Staging → Bool
  | .staged _ _ => true
  | _ => false

def Staging.apply (subscription : RemoteSubscription) : Staging → RemoteSubscription
  | .staged subscription _ => subscription
  | _ => subscription

structure PublishOutcome where
  matched : Nat := 0
  staged : Nat := 0
  terminated : Nat := 0
  deriving Repr, DecidableEq

variable (turn : EventTurn)

/-- An overflowed subscription ends, and the peer is told. -/
def terminateRemoteSubscription (id : EventSubscriptionId) : EventTurn :=
  sendUnsubscribe id (record [.terminated id] { turn with
    service := { turn.service with
      remoteSubscriptions := turn.service.remoteSubscriptions.erase id } })

/-- The loop of `drain_staged`: what stays staged. -/
def drainStaged (id : EventSubscriptionId) :
    List (List UInt8) → EventTurn → List (List UInt8) × EventTurn
  | [], turn => ([], turn)
  | payload :: rest, turn =>
    match turn.sendFrame ⟨.item, payload⟩ with
    | (some _, turn) => (payload :: rest, turn)
    | (none, turn) => drainStaged id rest (turn.record [.itemSent id])

/-- The loop over the remote subscriptions that drains each. -/
def drainEntries : List (EventSubscriptionId × RemoteSubscription) → EventTurn → EventTurn
  | [], turn => turn
  | (id, subscription) :: rest, turn =>
    let (staged, turn) := drainStaged id subscription.staged turn
    drainEntries rest { turn with service := { turn.service with
      remoteSubscriptions :=
        turn.service.remoteSubscriptions.insert id { subscription with staged := staged } } }

def drainAll : EventTurn :=
  drainEntries turn.service.remoteSubscriptions.entries turn

/-- `eventId` is the random id of the event. -/
def publish (topic payload : List UInt8) (schemaVersion : UInt32) (wallTime : Option Int64)
    (eventId : EventId) (turn : EventTurn) : Except Error PublishOutcome × EventTurn :=
  if !turn.service.attached then
    (.error (eventServiceError .configuration "service_not_attached"), turn)
  else if !validEventTopic topic then (.error (eventServiceError .protocol "topic_invalid"), turn)
  else if payload.length > turn.service.limits.maxEventPayloadBytes then
    (.error (eventServiceError .resourceExhausted "payload_oversized"), turn)
  else
    let service := turn.service
    let sequence := service.topicSequences topic + 1
    let item : EventItemBody :=
      { subscriptionId := eventId, eventId := eventId, publisherDeviceId := service.localDevice
        publisherSequence := sequence, schemaVersion := schemaVersion
        wallTimeUnixMilliseconds := wallTime, payload := payload }
    let staging := stage service.config service.limits topic item
    let results := service.remoteSubscriptions.entries.map fun (id, subscription) =>
      (id, staging id subscription)
    let overflowed := (results.filter fun result => result.2 == .overflowed).map Prod.fst
    let outcome : PublishOutcome :=
      { matched := (results.filter fun result => result.2 != .unmatched).length
        staged := (results.filter fun result => result.2.isStaged).length
        terminated := overflowed.length }
    let turn := record
      ([.published topic sequence] ++ results.flatMap fun result => result.2.records result.1)
      { turn with service := { service with
          topicSequences := Function.update service.topicSequences topic sequence
          remoteSubscriptions := service.remoteSubscriptions.mapValues fun id subscription =>
            (staging id subscription).apply subscription } }
    let turn := (overflowed.foldl terminateRemoteSubscription turn).record [.publishedItems]
    (.ok outcome, drainAll turn)

/-- A local message goes to the peer as it is. -/
def bridgeLocalMessage (topic payload : List UInt8) (schemaVersion : UInt32) (eventId : EventId)
    (turn : EventTurn) : Except Error PublishOutcome × EventTurn :=
  publish topic payload schemaVersion none eventId turn

def prune : EventTurn :=
  drainAll turn

def handleSessionClosed (service : EventService) : EventService :=
  { service with localSubscriptions := {}, remoteSubscriptions := {} }

/-! ### Frames of the peer -/

def failChannel : EventTurn :=
  turn.record [.channelFailed]

variable (scopeCheck : List UInt8 → Bool)

/-- `scopeCheck` answers for the session's scopes. -/
def handleInboundSubscribe (payload : List UInt8) (turn : EventTurn) : EventTurn :=
  match parseEventSubscribe payload with
  | .error _ => failChannel (turn.record [.invalidSubscribe])
  | .ok body =>
    let id := body.subscriptionId
    match turn.service.remoteSubscriptions.find? id with
    | some existing =>
      if existing.pattern = body.topic ∧ existing.prefixMatch = body.prefixMatch ∧
          existing.qos = body.qos then
        turn.record [.duplicateSubscription id]
      else failChannel turn
    | none =>
      if !scopeCheck (eventSubscriptionScope body.topic) then
        (turn.record [.scopeRejected id]).sendUnsubscribe id
      else if turn.service.remoteSubscriptions.size ≥
          turn.service.config.maxSubscriptionsPerPeer then
        (turn.record [.limitHit id]).sendUnsubscribe id
      else
        record [.accepted id] { turn with service := { turn.service with
          remoteSubscriptions := turn.service.remoteSubscriptions.insert id
            { pattern := body.topic, prefixMatch := body.prefixMatch, qos := body.qos } } }

/-- Only the subscriptions of the peer are looked up. -/
def handleInboundUnsubscribe (payload : List UInt8) (turn : EventTurn) : EventTurn :=
  let turn := turn.record [.unsubscribeReceived]
  match parseEventUnsubscribe payload with
  | .error _ => turn
  | .ok id =>
    if turn.service.remoteSubscriptions.contains id then
      { turn with service := { turn.service with
          remoteSubscriptions := turn.service.remoteSubscriptions.erase id } }
    else turn.record [.terminated id]

/-- The item becomes the newest of its subscription. -/
def acceptItem (subscription : LocalSubscription) (item : EventItemBody) (turn : EventTurn) :
    EventTurn :=
  record [.received subscription.pattern item] { turn with
    service := { turn.service with
      localSubscriptions := turn.service.localSubscriptions.insert id { subscription with
        hasSequence := true
        newestSequence := item.publisherSequence
        lastEventId := item.eventId } } }

def closeConflicting (turn : EventTurn) : EventTurn :=
  eraseLocal id ((turn.record [.conflictingItem id]).sendUnsubscribe id)

def handleInboundItem (payload : List UInt8) (turn : EventTurn) : EventTurn :=
  match parseEventItem payload turn.service.limits with
  | .error _ => failChannel turn
  | .ok item =>
    let id := item.subscriptionId
    match turn.service.localSubscriptions.find? id with
    | none => turn.record [.unknownItem id]
    | some subscription =>
      let sequence := item.publisherSequence
      if !subscription.active then turn.record [.unknownItem id]
      else if !subscription.hasSequence then acceptItem id subscription item turn
      else if sequence = subscription.newestSequence then
        if item.eventId = subscription.lastEventId then turn.record [.duplicateItem id]
        else closeConflicting id turn
      else if sequence < subscription.newestSequence then closeConflicting id turn
      else
        let gap := sequence - subscription.newestSequence - 1
        let turn := if gap > 0 then
            turn.record [.lag id gap (subscription.qos == .bestEffortLatest)]
          else turn
        acceptItem id subscription item turn

/-- `channel` is the session's answer when the channel of a subscribe or item frame is
not known yet and has to be adopted. -/
def admitFrame (channel : Except Error Unit) (frame : EventFrame) (turn : EventTurn) :
    Except Error Unit × EventTurn :=
  if !turn.service.attached then
    (.error (eventServiceError .configuration "service_not_attached"), turn)
  else
    match frame.type, channel with
    | .unsubscribe, _ => (.ok (), handleInboundUnsubscribe frame.payload turn)
    | _, .error error => (.error error, turn)
    | .subscribe, .ok () => (.ok (), handleInboundSubscribe scopeCheck frame.payload turn)
    | .item, .ok () => (.ok (), handleInboundItem frame.payload turn)

def handleFrame (channel : Except Error Unit) (frame : EventFrame) (turn : EventTurn) : EventTurn :=
  (admitFrame scopeCheck channel frame turn).2

end EventService

/-! ### Two services -/

/-- Two services, the frames under way from each to the other, and the subscription
ids drawn so far. -/
structure EventLink where
  services : Bool → EventService
  queues : Bool → List EventFrame := fun _ => []
  drawn : List EventSubscriptionId := []

inductive EventCall where
  | subscribe (pattern : List UInt8) (prefixMatch : Bool) (qos : EventQos)
      (drawn : EventSubscriptionId)
  | unsubscribe (pattern : List UInt8)
  | unsubscribeId (id : EventSubscriptionId)
  | publish (topic payload : List UInt8) (schemaVersion : UInt32) (wallTime : Option Int64)
      (eventId : EventId)
  | prune
  /-- The first frame under way to this side arrives, with the answer of its scope
  check. -/
  | deliver (scopeCheck : List UInt8 → Bool)

/-- A call at a side, with the session's answers to its frames. -/
structure EventLinkEvent where
  side : Bool
  call : EventCall
  replies : List (Option Error) := []

namespace EventLink

def settle (link : EventLink) (side : Bool) (turn : EventTurn) : EventLink :=
  { link with
    services := Function.update link.services side turn.service
    queues := Function.update link.queues side (link.queues side ++ turn.out) }

def step (link : EventLink) (event : EventLinkEvent) : EventLink :=
  let side := event.side
  let turn := (link.services side).turn event.replies
  match event.call with
  | .subscribe pattern prefixMatch qos drawn =>
    { link.settle side (EventService.subscribe pattern prefixMatch qos drawn turn).2 with
      drawn := drawn :: link.drawn }
  | .unsubscribe pattern => link.settle side (EventService.unsubscribe pattern turn).2
  | .unsubscribeId id => link.settle side (EventService.unsubscribeId id turn).2
  | .publish topic payload schemaVersion wallTime eventId =>
    link.settle side (EventService.publish topic payload schemaVersion wallTime eventId turn).2
  | .prune => link.settle side (EventService.prune turn)
  | .deliver scopeCheck =>
    match link.queues !side with
    | [] => link
    | frame :: rest =>
      { link with queues := Function.update link.queues (!side) rest }.settle side
        (EventService.handleFrame scopeCheck (.ok ()) frame turn)

end EventLink

end Heyaki
