/-
Purpose: the incremental encoder beside the one-shot encoder.

The two agree on the bytes of a frame that both accept.  They do not accept the same
frames, and the offset that the header returns is the end of the length varint.

Main exports: `StreamAccepted`, `encodes_alike_iff`
-/
import Heyaki.Core.FrameStream
import Heyaki.Proofs.Wire

namespace Heyaki

open FrameStreamEncoder

variable {limits : Limits} {frame : Frame} {output : List UInt8}

/-- The checks a frame passes in the incremental encoder: no payload ceilings, no channel
for an approval request, and the length varint counts towards a control frame. -/
structure StreamAccepted (limits : Limits) (frame : Frame) : Prop where
  limitsValid : validateLimits limits = .ok ()
  flagsKnown : frame.flags &&& ~~~frameKnownFlags = 0
  idNonzero : frame.messageId.isZero = false
  controlChannel : streamRequiresControl frame.type = true → frame.channelId = 0
  businessChannel : requiresBusinessChannel frame.type = true → frame.channelId ≠ 0
  bodyFits : frameBodySize frame ≤ limits.maxFrameBytes
  controlFits : isControlType frame.type = true →
    varintSize (UInt32.ofNat (frameBodySize frame)) + frameBodySize frame ≤
      limits.maxControlFrameBytes

theorem encodedSize_of_le (valid : validateLimits limits = .ok ())
    (fits : frameBodySize frame ≤ limits.maxFrameBytes) :
    encodedSize limits frame.channelId frame.payload.length =
      .ok (varintSize (UInt32.ofNat (frameBodySize frame)) + frameBodySize frame) := by
  have upper := (ValidLimits.of_validateLimits valid).frameUpper
  unfold encodedSize
  rw [frameBodySize] at fits ⊢
  apply if_neg
  simp only [mib, kib] at upper
  omega

theorem frameBodySize_le_of_encodedSize {size : Nat}
    (sized : encodedSize limits frame.channelId frame.payload.length = .ok size) :
    frameBodySize frame ≤ limits.maxFrameBytes := by
  unfold encodedSize at sized
  dsimp only at sized
  split at sized
  · cases sized
  · rename_i small
    rw [frameBodySize]
    omega

def headerBytes (frame : Frame) : List UInt8 :=
  frame.type :: frame.flags :: (appendVarint frame.channelId ++ frame.messageId.bytes)

theorem encodeHeader_of_accepted (accepted : StreamAccepted limits frame) :
    encodeHeader limits output frame.type frame.flags frame.channelId frame.messageId
        frame.payload.length =
      (.ok (output ++ appendVarint (UInt32.ofNat (frameBodySize frame))).length,
        output ++ appendVarint (UInt32.ofNat (frameBodySize frame)) ++ headerBytes frame) := by
  obtain ⟨valid, flags, id, control, business, fits, small⟩ := accepted
  unfold encodeHeader
  simp only [valid, flags, id, encodedSize_of_le valid fits]
  rw [if_neg (by simp), if_neg (by simp), if_neg, if_neg, if_neg]
  · rfl
  · rintro ⟨isControl, large⟩
    exact absurd (small isControl) (Nat.not_le.mpr large)
  · simpa using business
  · simpa using control

theorem encodeHeader_cases :
    StreamAccepted limits frame ∨
      ∃ error, encodeHeader limits output frame.type frame.flags frame.channelId frame.messageId
        frame.payload.length = (.error error, output) := by
  unfold encodeHeader
  cases valid : validateLimits limits with
  | error error => exact .inr ⟨error, rfl⟩
  | ok done =>
    dsimp only
    split_ifs with flags id control business
    · exact .inr ⟨_, rfl⟩
    · exact .inr ⟨_, rfl⟩
    · exact .inr ⟨_, rfl⟩
    · exact .inr ⟨_, rfl⟩
    cases sized : encodedSize limits frame.channelId frame.payload.length with
    | error error => exact .inr ⟨error, rfl⟩
    | ok size =>
      have fits := frameBodySize_le_of_encodedSize sized
      rw [encodedSize_of_le valid fits] at sized
      cases sized
      dsimp only
      split_ifs with large
      · exact .inr ⟨_, rfl⟩
      · refine .inl ⟨valid, not_not.mp flags, by simpa using id, by simpa using control,
          by simpa using business, fits, fun isControl => ?_⟩
        exact Nat.not_lt.mp fun above => large ⟨isControl, above⟩

theorem encode_of_accepted (accepted : StreamAccepted limits frame) :
    ∃ size, encode limits output frame = (.ok size, output ++ frameBytes frame) := by
  unfold encode
  rw [encodeHeader_of_accepted accepted]
  simp only [frameBytes, frameBody, headerBytes, List.append_assoc, List.cons_append]
  exact ⟨_, rfl⟩

theorem encode_of_not_accepted (refused : ¬ StreamAccepted limits frame) :
    ∃ error, encode limits output frame = (.error error, output) := by
  obtain ⟨error, same⟩ := (@encodeHeader_cases limits frame output).resolve_left refused
  unfold encode
  rw [same]
  exact ⟨error, rfl⟩

/-! ### Agreement -/

/-- The same frames are accepted, with the same bytes and their length. -/
structure SameBytes (limits : Limits) (frame : Frame) (output : List UInt8) : Prop where
  succeeds : (∃ size, (encode limits output frame).1 = .ok size) ↔
    ∃ bytes, encodeFrame frame limits = .ok bytes
  appends : ∀ size bytes, (encode limits output frame).1 = .ok size →
    encodeFrame frame limits = .ok bytes → (encode limits output frame).2 = output ++ bytes
  unchanged : ∀ error, (encode limits output frame).1 = .error error →
    (encode limits output frame).2 = output
  sized : ∀ bytes, encodeFrame frame limits = .ok bytes →
    encodedSize limits frame.channelId frame.payload.length = .ok bytes.length

/-- The encoders agree, and the header returns the offset of the payload behind it. -/
structure EncodesAlike (limits : Limits) (frame : Frame) (output : List UInt8) : Prop
    extends SameBytes limits frame output where
  offset : ∀ offset after, encodeHeader limits output frame.type frame.flags frame.channelId
    frame.messageId frame.payload.length = (.ok offset, after) → offset = after.length

theorem sameBytes_iff :
    SameBytes limits frame output ↔ (StreamAccepted limits frame ↔ Accepted limits frame) := by
  have whole : (∃ bytes, encodeFrame frame limits = .ok bytes) ↔ Accepted limits frame := by
    simp [encodeFrame_eq_ok_iff]
  have parts : (∃ size, (encode limits output frame).1 = .ok size) ↔
      StreamAccepted limits frame := by
    by_cases accepted : StreamAccepted limits frame
    · obtain ⟨size, same⟩ := @encode_of_accepted limits frame output accepted
      simp [same, accepted]
    · obtain ⟨error, same⟩ := @encode_of_not_accepted limits frame output accepted
      simp [same, accepted]
  refine ⟨fun same => parts.symm.trans (same.succeeds.trans whole), fun same => ?_⟩
  refine ⟨parts.trans (same.trans whole.symm), fun size bytes done encoded => ?_,
    fun error failed => ?_, fun bytes encoded => ?_⟩
  · obtain ⟨size, same⟩ := @encode_of_accepted limits frame output (parts.mp ⟨size, done⟩)
    rw [same, (encodeFrame_eq_ok_iff.mp encoded).2]
  · by_cases accepted : StreamAccepted limits frame
    · obtain ⟨size, same⟩ := @encode_of_accepted limits frame output accepted
      rw [same] at failed
      cases failed
    · obtain ⟨error, same⟩ := @encode_of_not_accepted limits frame output accepted
      rw [same]
  · obtain ⟨accepted, rfl⟩ := encodeFrame_eq_ok_iff.mp encoded
    rw [encodedSize_of_le accepted.limitsValid accepted.bodyFits, frameBytes, List.length_append,
      frameBody_length, varintSize_eq_length]

/-- The bytes agree for the frames that both encoders accept or both refuse; the offset is
right for no frame that is accepted. -/
theorem encodes_alike_iff (limits : Limits) (frame : Frame) (output : List UInt8) :
    (SameBytes limits frame output ↔ (StreamAccepted limits frame ↔ Accepted limits frame)) ∧
      (EncodesAlike limits frame output ↔
        ¬ StreamAccepted limits frame ∧ ¬ Accepted limits frame) := by
  refine ⟨sameBytes_iff, fun alike => ?_, fun ⟨refused, refused'⟩ => ?_⟩
  · have refused : ¬ StreamAccepted limits frame := by
      intro accepted
      have wrong := alike.offset _ _ (encodeHeader_of_accepted accepted)
      simp [headerBytes] at wrong
    exact ⟨refused, fun accepted => refused ((sameBytes_iff.mp alike.toSameBytes).mpr accepted)⟩
  · refine ⟨sameBytes_iff.mpr (iff_of_false refused refused'), fun offset after header => ?_⟩
    obtain ⟨error, same⟩ := (@encodeHeader_cases limits frame output).resolve_left refused
    rw [same] at header
    cases header

/-- A ping, with the offset of its type byte for that of its payload, and an approval request
on a business channel, which only the incremental encoder accepts. -/
theorem encodes_unlike_ping :
    encodeHeader {} [] samplePing.type samplePing.flags samplePing.channelId samplePing.messageId
        samplePing.payload.length = (.ok 1, (frameBytes samplePing).take 20) ∧
      (encode {} [] { samplePing with
        type := FrameType.pairingApprovalRequest.code, channelId := 1 }).1.isOk = true ∧
      (encodeFrame { samplePing with
        type := FrameType.pairingApprovalRequest.code, channelId := 1 } {}).isOk = false :=
  ⟨by decide +kernel, by decide +kernel, by decide +kernel⟩

end Heyaki
