/-
Purpose: event topics and the bodies of subscribe, item and unsubscribe frames
(`event.hpp`, `event_protocol.cpp`).

Topics are their bytes.  The readers skip fields they do not know, and of a field
that comes twice the last one counts.
-/
import Heyaki.Core.Ids
import Heyaki.Core.ProtoCodec

namespace Heyaki

open ProtoCodec

/-- Subscriptions and events are named by 16 bytes each. -/
structure EventToken where
  bytes : List UInt8
  size : bytes.length = 16
  deriving Repr

theorem EventToken.bytes_inj {one two : EventToken} : one.bytes = two.bytes ↔ one = two := by
  cases one
  cases two
  simp

instance : DecidableEq EventToken := fun _ _ => decidable_of_iff _ EventToken.bytes_inj

def EventToken.filled (byte : UInt8) : EventToken :=
  ⟨List.replicate 16 byte, length_replicate_sixteen byte⟩

abbrev EventSubscriptionId := EventToken
abbrev EventId := EventToken

def EventToken.isZero (token : EventToken) : Bool :=
  token.bytes.all (· == 0)

def EventToken.ofBytes? (bytes : List UInt8) : Option EventToken :=
  if size : bytes.length = 16 then some ⟨bytes, size⟩ else none

instance : LinearOrder EventToken :=
  LinearOrder.lift' (fun token => byteRank token.bytes) fun one two same => by
    cases one
    cases two
    congr
    exact byteRank_injective same

inductive EventQos where
  | bestEffortLatest | reliableLive
  deriving Repr, Inhabited, DecidableEq

def EventQos.code : EventQos → UInt32
  | .bestEffortLatest => 1
  | .reliableLive => 2

structure EventItemBody where
  subscriptionId : EventSubscriptionId
  eventId : EventId
  publisherDeviceId : DeviceId
  publisherSequence : UInt64 := 0
  schemaVersion : UInt32 := 1
  wallTimeUnixMilliseconds : Option Int64 := none
  qos : EventQos := .bestEffortLatest
  payload : List UInt8 := []
  deriving DecidableEq

def eventError (detail : String) : Error :=
  { code := .protocol, component := "event", safeDetail := detail }

def parseQos (value : UInt64) : Except Error EventQos :=
  if value = 1 then .ok .bestEffortLatest
  else if value = 2 then .ok .reliableLive
  else .error (eventError "qos_invalid")

/-! ### Topics -/

def maxEventTopicBytes : Nat := 256
def maxEventTopicSegments : Nat := 16
def maxEventTopicSegmentBytes : Nat := 64

def topicSegmentToken (segment : List UInt8) : Bool :=
  segment.all fun byte => (97 ≤ byte && byte ≤ 122) || (65 ≤ byte && byte ≤ 90) ||
    (48 ≤ byte && byte ≤ 57) || byte == 95 || byte == 45

def validEventTopic (topic : List UInt8) : Bool :=
  if topic.isEmpty || topic.length > maxEventTopicBytes then false
  else
    let segments := topic.splitOn 46
    (segments.all fun segment => !segment.isEmpty &&
      segment.length ≤ maxEventTopicSegmentBytes && topicSegmentToken segment) &&
      segments.length ≤ maxEventTopicSegments

/-- A topic under a pattern: the pattern itself or, for a prefix, what continues it
at a dot. -/
def eventTopicMatches (pattern : List UInt8) (prefixMatch : Bool) (topic : List UInt8) : Bool :=
  if pattern = topic then true
  else if !prefixMatch then false
  else if topic.length ≤ pattern.length then false
  else if topic.take pattern.length ≠ pattern then false
  else topic[pattern.length]? == some 46

/-! ### Items -/

/-- The bytes written for an item once it has been validated.  The signed time is
written as its two's complement. -/
def eventItemBytes (item : EventItemBody) : List UInt8 :=
  appendBytes 1 item.subscriptionId.bytes ++ appendBytes 2 item.eventId.bytes ++
    appendBytes 3 item.publisherDeviceId.bytes ++ appendUint 4 item.publisherSequence ++
    appendUint 5 item.schemaVersion.toUInt64 ++
    (match item.wallTimeUnixMilliseconds with
     | some time => appendUint 6 time.toUInt64
     | none => []) ++
    appendUint 7 item.qos.code.toUInt64 ++ appendBytes 8 item.payload

/-- The quality of service needs no check: only its two values exist here. -/
def encodeEventItem (item : EventItemBody) (limits : Limits) : Except Error (List UInt8) :=
  if item.subscriptionId.isZero then .error (eventError "subscription_id_missing")
  else if item.eventId.isZero then .error (eventError "event_id_missing")
  else if item.publisherDeviceId.isZero then .error (eventError "publisher_missing")
  else if item.schemaVersion = 0 then .error (eventError "schema_version_invalid")
  else if item.payload.length > limits.maxEventPayloadBytes then
    .error (eventError "payload_oversized")
  else .ok (eventItemBytes item)

theorem encodeEventItem_ok {item : EventItemBody} {limits : Limits} {encoded : List UInt8}
    (accepted : encodeEventItem item limits = .ok encoded) : encoded = eventItemBytes item := by
  unfold encodeEventItem at accepted
  split_ifs at accepted
  cases accepted
  rfl

structure EventItemFields where
  subscriptionId : Option EventSubscriptionId := none
  eventId : Option EventId := none
  publisher : Option DeviceId := none
  sequence : Option UInt64 := none
  schema : Option UInt32 := none
  wallTime : Option Int64 := none
  qos : Option EventQos := none
  payload : List UInt8 := []

/-- A field of bytes that has to convert. -/
def readEventBytes {α : Type} (detail : String) (ofBytes? : List UInt8 → Option α)
    (bytes : List UInt8) : Except Error (Option α) :=
  match ofBytes? bytes with
  | none => .error (eventError detail)
  | some value => .ok (some value)

def readEventItemField (fields : EventItemFields) (field : ProtoField) :
    Except Error EventItemFields :=
  match field.number.toNat, field.wireType.toNat with
  | 1, 2 => do
    let value ← readEventBytes "subscription_id_field_invalid" EventToken.ofBytes? field.bytes
    .ok { fields with subscriptionId := value }
  | 2, 2 => do
    let value ← readEventBytes "event_id_field_invalid" EventToken.ofBytes? field.bytes
    .ok { fields with eventId := value }
  | 3, 2 => do
    let value ← readEventBytes "publisher_field_invalid" Identifier.ofBytes? field.bytes
    .ok { fields with publisher := value }
  | 4, 0 => .ok { fields with sequence := some field.integer }
  | 5, 0 =>
    if field.integer = 0 ∨ field.integer > 0xffffffff then
      .error (eventError "schema_version_invalid")
    else .ok { fields with schema := some field.integer.toUInt32 }
  | 6, 0 => .ok { fields with wallTime := some field.integer.toInt64 }
  | 7, 0 => do
    let value ← parseQos field.integer
    .ok { fields with qos := some value }
  | 8, 2 => .ok { fields with payload := field.bytes }
  | _, _ => .ok fields

def EventItemFields.item? (fields : EventItemFields) : Option EventItemBody := do
  let subscriptionId ← fields.subscriptionId
  let eventId ← fields.eventId
  let publisher ← fields.publisher
  let sequence ← fields.sequence
  let schema ← fields.schema
  let qos ← fields.qos
  return {
    subscriptionId := subscriptionId, eventId := eventId, publisherDeviceId := publisher
    publisherSequence := sequence, schemaVersion := schema
    wallTimeUnixMilliseconds := fields.wallTime, qos := qos, payload := fields.payload }

variable (payload : List UInt8)

def parseEventItem (limits : Limits) : Except Error EventItemBody := do
  let fields ← readFields "proto" readEventItemField payload {}
  match fields.item? with
  | none => .error (eventError "item_field_missing")
  | some item =>
    if item.subscriptionId.isZero then .error (eventError "subscription_id_missing")
    else if item.eventId.isZero then .error (eventError "event_id_missing")
    else if item.publisherDeviceId.isZero then .error (eventError "publisher_missing")
    else if item.payload.length > limits.maxEventPayloadBytes then
      .error (eventError "payload_oversized")
    else .ok item

/-! ### Subscribing -/

structure EventSubscribeBody where
  subscriptionId : EventSubscriptionId
  topic : List UInt8
  prefixMatch : Bool := false
  qos : EventQos := .bestEffortLatest
  deriving DecidableEq

def eventSubscribeBytes (subscribe : EventSubscribeBody) : List UInt8 :=
  appendBytes 1 subscribe.subscriptionId.bytes ++ appendBytes 2 subscribe.topic ++
    (if subscribe.prefixMatch then appendUint 3 1 else []) ++
    appendUint 4 subscribe.qos.code.toUInt64

def encodeEventSubscribe (subscribe : EventSubscribeBody) : Except Error (List UInt8) :=
  if subscribe.subscriptionId.isZero then .error (eventError "subscription_id_missing")
  else if !validEventTopic subscribe.topic then .error (eventError "topic_invalid")
  else .ok (eventSubscribeBytes subscribe)

structure EventSubscribeFields where
  subscriptionId : Option EventSubscriptionId := none
  topic : Option (List UInt8) := none
  prefixMatch : Bool := false
  qos : Option EventQos := none

def readEventSubscribeField (fields : EventSubscribeFields) (field : ProtoField) :
    Except Error EventSubscribeFields :=
  match field.number.toNat, field.wireType.toNat with
  | 1, 2 => do
    let value ← readEventBytes "subscription_id_field_invalid" EventToken.ofBytes? field.bytes
    .ok { fields with subscriptionId := value }
  | 2, 2 => .ok { fields with topic := some field.bytes }
  | 3, 0 => .ok { fields with prefixMatch := field.integer != 0 }
  | 4, 0 => do
    let value ← parseQos field.integer
    .ok { fields with qos := some value }
  | _, _ => .ok fields

def parseEventSubscribe : Except Error EventSubscribeBody := do
  let fields ← readFields "proto" readEventSubscribeField payload {}
  match fields.subscriptionId, fields.topic, fields.qos with
  | some subscriptionId, some topic, some qos =>
    if subscriptionId.isZero then .error (eventError "subscription_id_missing")
    else if !validEventTopic topic then .error (eventError "topic_invalid")
    else .ok {
      subscriptionId := subscriptionId, topic := topic, prefixMatch := fields.prefixMatch
      qos := qos }
  | _, _, _ => .error (eventError "subscribe_field_missing")

/-! ### Unsubscribing -/

/-- The body of an unsubscribe frame is a subscription id. -/
def encodeEventUnsubscribe (id : EventSubscriptionId) : Except Error (List UInt8) :=
  if id.isZero then .error (eventError "subscription_id_missing")
  else .ok (appendBytes 1 id.bytes)

def readEventUnsubscribeField (known : Option EventSubscriptionId) (field : ProtoField) :
    Except Error (Option EventSubscriptionId) :=
  match field.number.toNat, field.wireType.toNat with
  | 1, 2 => readEventBytes "subscription_id_field_invalid" EventToken.ofBytes? field.bytes
  | _, _ => .ok known

def parseEventUnsubscribe : Except Error EventSubscriptionId := do
  match ← readFields "proto" readEventUnsubscribeField payload none with
  | none => .error (eventError "unsubscribe_field_missing")
  | some id =>
    if id.isZero then .error (eventError "subscription_id_missing")
    else .ok id

end Heyaki
