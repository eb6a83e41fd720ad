/-
Purpose: the bodies of event frames are read back as they were written.

Main exports: `parseEventSubscribe_encode`, `parseEventUnsubscribe_encode`
-/
import Heyaki.Core.EventProtocol
import Heyaki.Proofs.ProtoCodec

namespace Heyaki

open ProtoCodec WireField

variable {bytes : List UInt8}

@[simp] theorem EventToken.ofBytes?_bytes (token : EventToken) :
    EventToken.ofBytes? token.bytes = some token := by
  unfold EventToken.ofBytes?
  rw [dif_pos token.size]

@[simp] theorem Identifier.ofBytes?_bytes {kind : IdentifierKind} (id : Identifier kind) :
    Identifier.ofBytes? id.bytes = some id := by
  unfold Identifier.ofBytes?
  rw [dif_pos id.size]

@[simp] theorem parseQos_code (qos : EventQos) : parseQos qos.code.toUInt64 = .ok qos := by
  cases qos <;> rfl

/-! ### Unsubscribing -/

theorem parseEventUnsubscribe_encode {id : EventSubscriptionId}
    (encoded : encodeEventUnsubscribe id = .ok bytes) : parseEventUnsubscribe bytes = .ok id := by
  unfold encodeEventUnsubscribe at encoded
  split_ifs at encoded with zero
  cases encoded
  have writable : ∀ field ∈ [WireField.bytes 1 id.bytes], field.Writable := by
    simp [WireField.Writable, id.size]
  have written : appendBytes 1 id.bytes = [WireField.bytes 1 id.bytes].flatMap WireField.write := by
    simp [WireField.write]
  unfold parseEventUnsubscribe
  rw [written, readFields_write "proto" readEventUnsubscribeField writable]
  simp [readEventUnsubscribeField, readEventBytes, WireField.read, bind, Except.bind, pure,
    Except.pure, zero]

/-! ### Subscribing -/

def subscribeFields (subscribe : EventSubscribeBody) : List WireField :=
  [.bytes 1 subscribe.subscriptionId.bytes, .bytes 2 subscribe.topic] ++
    (if subscribe.prefixMatch then [.uint 3 1] else []) ++
    [.uint 4 subscribe.qos.code.toUInt64]

theorem eventSubscribeBytes_eq (subscribe : EventSubscribeBody) :
    eventSubscribeBytes subscribe = (subscribeFields subscribe).flatMap write := by
  unfold eventSubscribeBytes subscribeFields
  cases subscribe.prefixMatch <;> simp [write]

theorem parseEventSubscribe_encode {subscribe : EventSubscribeBody}
    (encoded : encodeEventSubscribe subscribe = .ok bytes) :
    parseEventSubscribe bytes = .ok subscribe := by
  unfold encodeEventSubscribe at encoded
  split_ifs at encoded with zero invalid
  cases encoded
  rw [Bool.not_eq_true', Bool.not_eq_false] at invalid
  have short : subscribe.topic.length < 18446744073709551616 := by
    have valid := invalid
    unfold validEventTopic at valid
    split_ifs at valid with bad
    rw [Bool.or_eq_true, not_or, decide_eq_true_iff] at bad
    exact lt_of_le_of_lt (Nat.not_lt.mp bad.2) (by decide)
  have writable : ∀ field ∈ subscribeFields subscribe, field.Writable := by
    unfold subscribeFields
    cases subscribe.prefixMatch <;>
      simp [WireField.Writable, subscribe.subscriptionId.size, short]
  unfold parseEventSubscribe
  rw [eventSubscribeBytes_eq, readFields_write "proto" readEventSubscribeField writable]
  obtain ⟨subscriptionId, topic, prefixMatch, qos⟩ := subscribe
  cases prefixMatch <;>
    simp [subscribeFields, readEventSubscribeField, readEventBytes, WireField.read, bind,
      Except.bind, pure, Except.pure, zero, invalid]

/-! ### Items -/

def itemFields (item : EventItemBody) : List WireField :=
  [.bytes 1 item.subscriptionId.bytes, .bytes 2 item.eventId.bytes,
    .bytes 3 item.publisherDeviceId.bytes, .uint 4 item.publisherSequence,
    .uint 5 item.schemaVersion.toUInt64] ++
    (match item.wallTimeUnixMilliseconds with
     | some time => [.uint 6 time.toUInt64]
     | none => []) ++
    [.uint 7 item.qos.code.toUInt64, .bytes 8 item.payload]

theorem eventItemBytes_eq (item : EventItemBody) :
    eventItemBytes item = (itemFields item).flatMap write := by
  unfold eventItemBytes itemFields
  cases item.wallTimeUnixMilliseconds <;> simp [write]

/-- An item is read back, unless it is larger than the reader's limit. -/
theorem parseEventItem_encode {item : EventItemBody} {limits : Limits}
    (encoded : encodeEventItem item limits = .ok bytes)
    (short : item.payload.length < 18446744073709551616) (reader : Limits) :
    parseEventItem bytes reader =
      if item.payload.length > reader.maxEventPayloadBytes then
        .error (eventError "payload_oversized")
      else .ok item := by
  unfold encodeEventItem at encoded
  split_ifs at encoded with subscription event publisher schema oversized
  cases encoded
  have device : item.publisherDeviceId.bytes.length = 32 := item.publisherDeviceId.size
  have writable : ∀ field ∈ itemFields item, field.Writable := by
    unfold itemFields
    cases item.wallTimeUnixMilliseconds <;>
      simp [WireField.Writable, item.subscriptionId.size, item.eventId.size, device, short]
  have version : ¬ (item.schemaVersion.toUInt64 = 0 ∨ item.schemaVersion.toUInt64 > 0xffffffff) := by
    have bound := item.schemaVersion.toNat_lt
    rintro (zero | large)
    · apply schema
      rw [← UInt64.toNat_inj, UInt32.toNat_toUInt64] at zero
      exact UInt32.toNat_inj.mp zero
    · rw [gt_iff_lt, UInt64.lt_iff_toNat_lt, UInt32.toNat_toUInt64,
        show (0xffffffff : UInt64).toNat = 4294967295 from rfl] at large
      omega
  unfold parseEventItem
  rw [eventItemBytes_eq, readFields_write "proto" readEventItemField writable]
  obtain ⟨subscriptionId, eventId, publisherDeviceId, publisherSequence, schemaVersion,
    wallTimeUnixMilliseconds, qos, payload⟩ := item
  cases wallTimeUnixMilliseconds <;>
    simp [itemFields, readEventItemField, readEventBytes, WireField.read, bind,
      Except.bind, pure, Except.pure, EventItemFields.item?, version] <;>
    simp_all

/-- What the encoders of event bodies accept is read back, an item up to the payload limit of
its reader. -/
theorem event_bodies_read_back :
    (∀ subscribe bytes, encodeEventSubscribe subscribe = .ok bytes →
      parseEventSubscribe bytes = .ok subscribe) ∧
    (∀ id bytes, encodeEventUnsubscribe id = .ok bytes → parseEventUnsubscribe bytes = .ok id) ∧
    ∀ item bytes limits reader, encodeEventItem item limits = .ok bytes →
      limits.maxEventPayloadBytes < 18446744073709551616 →
      parseEventItem bytes reader = if item.payload.length > reader.maxEventPayloadBytes then
        .error (eventError "payload_oversized") else .ok item := by
  refine ⟨fun _ _ => parseEventSubscribe_encode, fun _ _ => parseEventUnsubscribe_encode, ?_⟩
  intro item bytes limits reader encoded small
  refine parseEventItem_encode encoded (lt_of_le_of_lt ?_ small) reader
  unfold encodeEventItem at encoded
  split_ifs at encoded with _ _ _ _ oversized
  exact Nat.not_lt.mp oversized

end Heyaki
