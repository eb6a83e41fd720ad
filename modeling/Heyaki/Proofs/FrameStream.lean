/-
Purpose: the incremental decoder against the iterated one-shot parser.

The decoder's run over chunks is a `feed` of its classifier, hence one `drain`
of the whole string with the rejecting cuts marked.  The one-shot parser is a
`drain` too, so the two are compared place by place.  They part in two ways:
the decoder's own channel check leaves out `pairing_approval_request`, and at a
cut right behind a length it reads a type byte that is not there yet.

Main exports: `feedChunks_eq_feed`, `decodeChunks_eq_iterateParseFrame_iff`
-/
import Heyaki.Core.FrameStream
import Heyaki.Proofs.Wire

namespace Heyaki

open Foundation
open Foundation.Incremental (Verdict Framing Start Cut drain drainFuel feed joined report withCuts)
open Incremental Varint List

variable {limits : Limits} {input start : List UInt8} {length : UInt32}

/-! ### The decoder's verdict -/

theorem decodeVarint_bytes_le {maximum v : UInt32} {k : Nat}
    (parsed : decodeVarint input maximum = .parsed v k) : k ≤ maxFrameLengthVarintBytes := by
  obtain ⟨rest, -, -, rfl⟩ := decodeVarint_eq_parsed_iff.mp parsed
  exact encode_length_le 4 v.toNat (by have := v.toNat_lt; omega)

/-- The retention ceiling of the decoder is never reached: a declared length
within the limit keeps the pending bytes below it. -/
theorem verdict_viewPending (valid : validateLimits limits = .ok ()) (beyond : UInt8)
    (pending : List UInt8) :
    verdict (viewPending limits beyond pending) =
      scanFrame limits (fun frame => streamDomainError frame limits) beyond pending := by
  unfold viewPending scanFrame decodeLengthVarint
  cases lengthRead : decodeVarint pending (frameLengthMaximum limits) with
  | needMore => rfl
  | invalid detail => rfl
  | parsed length lengthBytes =>
    obtain ⟨-, -, lengthFits, -⟩ := decodeVarint_eq_parsed_iff.mp lengthRead
    rw [UInt32.le_iff_toNat_le, frameLengthMaximum_toNat valid] at lengthFits
    have lengthBytesFit := decodeVarint_bytes_le lengthRead
    have lengthBound := length.toNat_lt
    simp only []
    split
    · rfl
    split
    · rfl
    split
    · have retained : ¬ pending.length >
          maxFrameLengthVarintBytes + min limits.maxFrameBytes 0xffffffff := by
        omega
      rw [if_neg retained]
      rfl
    cases readFrameBody ((pending.drop lengthBytes).take length.toNat) with
    | error detail => rfl
    | ok frame =>
      simp only []
      cases streamDomainError frame limits <;> rfl

/-- The decoder's classifier of pending bytes, with the byte behind them. -/
def viewVerdict (limits : Limits) (beyond : UInt8) (pending : List UInt8) : Verdict Frame :=
  verdict (viewPending limits beyond pending)

/-- The classifier with an arrived type byte in mind: a byte still missing
counts as a business type. -/
def viewBase (limits : Limits) : List UInt8 → Verdict Frame :=
  scanFrame limits (fun frame => streamDomainError frame limits) 0xff

/-- The pending bytes end right behind a length above the control ceiling, and
the byte behind the buffer happens to be a control type. -/
def ReadsBeyond (limits : Limits) (beyond : UInt8) (pending : List UInt8) : Prop :=
  isControlType beyond = true ∧ ∃ length : UInt32, pending = appendVarint length ∧
    limits.maxControlFrameBytes < length.toNat ∧ length.toNat ≤ limits.maxFrameBytes

section Reading

variable {limits : Limits} (valid : validateLimits limits = .ok ())
variable {beyond : UInt8} {pending : List UInt8}

include valid

theorem minimum_of_above (above : limits.maxControlFrameBytes < length.toNat) :
    minimumBodySize ≤ length.toNat := by
  have controlLower := (ValidLimits.of_validateLimits valid).controlLower
  simp only [minimumBodySize]
  omega

/-- Right behind a length above the control ceiling, the byte that is not there decides. -/
theorem scanFrame_behind_length {domainError : Frame → Option String}
    (above : limits.maxControlFrameBytes < length.toNat)
    (fits : length.toNat ≤ limits.maxFrameBytes) :
    scanFrame limits domainError beyond (appendVarint length) =
      if isControlType beyond then .bad else .more := by
  have minimum := minimum_of_above valid above
  have behind := @scanFrame_appendVarint limits domainError beyond valid length minimum fits []
  have incomplete : 0 < length.toNat := Nat.lt_of_lt_of_le (by decide) minimum
  simpa [above, incomplete] using behind

theorem viewVerdict_of_readsBeyond (cut : ReadsBeyond limits beyond pending) :
    viewVerdict limits beyond pending = .bad := by
  obtain ⟨control, length, rfl, above, fits⟩ := cut
  rw [viewVerdict, verdict_viewPending valid, scanFrame_behind_length valid above fits,
    if_pos control]

theorem viewBase_of_readsBeyond (cut : ReadsBeyond limits beyond pending) :
    viewBase limits pending = .more := by
  obtain ⟨-, length, rfl, above, fits⟩ := cut
  exact scanFrame_behind_length valid above fits

/-- Unless a missing type byte is read, the byte behind the buffer plays no part. -/
theorem viewVerdict_of_not_readsBeyond (whole : ¬ ReadsBeyond limits beyond pending) :
    viewVerdict limits beyond pending = viewBase limits pending := by
  rw [viewVerdict, verdict_viewPending valid, viewBase]
  rcases scanFrame_start valid pending with ⟨length, tail, minimum, fits, rfl⟩ | waits | rejects
  · rw [scanFrame_appendVarint valid minimum fits, scanFrame_appendVarint valid minimum fits]
    cases tail with
    | cons type tail => rfl
    | nil =>
      have harmless : ¬ (isControlType beyond = true ∧
          length.toNat > limits.maxControlFrameBytes) := by
        rintro ⟨control, above⟩
        exact whole ⟨control, length, append_nil _, above, fits⟩
      exact (if_neg harmless).trans (if_neg nofun).symm
  · rw [waits, waits]
  · rw [← append_nil pending, rejects, rejects]

end Reading

/-! ### The decoder's run -/

namespace FrameStreamDecoder

variable {limits : Limits}

def pending (decoder : FrameStreamDecoder) : List UInt8 := decoder.buffer.drop decoder.offset

/-- What a decoder can still go on with. -/
def outcome (decoder : FrameStreamDecoder) : Option (List UInt8) :=
  if decoder.poisoned then none else some decoder.pending

/-- A decoder that has not met a violation. -/
structure Live (limits : Limits) (decoder : FrameStreamDecoder) : Prop where
  limitsEq : decoder.limits = limits
  sound : decoder.poisoned = false

theorem Live.outcome_eq {decoder : FrameStreamDecoder} (live : Live limits decoder) :
    decoder.outcome = some decoder.pending := by
  simp [outcome, live.sound]

section Run

variable {limits : Limits} (valid : validateLimits limits = .ok ())
  {decoder : FrameStreamDecoder} (live : Live limits decoder)
include valid live

theorem append_pending (bytes : List UInt8) :
    Live limits (decoder.append bytes).2 ∧
      (decoder.append bytes).2.pending = decoder.pending ++ bytes := by
  obtain ⟨rfl, sound⟩ := live
  simp only [append, sound, valid, pending, Bool.false_eq_true, if_false, drop_zero]
  exact ⟨⟨rfl, rfl⟩, trivial⟩

/-- One call of `take_frame`, by what is found at the front of the pending bytes. -/
theorem takeFrame_cases (beyond : UInt8) :
    (∃ total frame next, viewVerdict limits beyond decoder.pending = .item total frame ∧
      decoder.takeFrame beyond = (.ok (some frame), next) ∧ Live limits next ∧
      next.pending = decoder.pending.drop total) ∨
    (viewVerdict limits beyond decoder.pending = .more ∧
      decoder.takeFrame beyond = (.ok none, decoder)) ∨
    (viewVerdict limits beyond decoder.pending = .bad ∧
      ∃ error next, decoder.takeFrame beyond = (.error error, next) ∧ next.poisoned = true) := by
  obtain ⟨rfl, sound⟩ := live
  unfold takeFrame nextView
  simp only [sound, valid, viewVerdict, Bool.false_eq_true, if_false]
  cases view : viewPending decoder.limits beyond (decoder.buffer.drop decoder.offset) with
  | needMore =>
    refine .inr (.inl ⟨?_, rfl⟩)
    simp [pending, view, verdict]
  | invalid error =>
    refine .inr (.inr ⟨?_, error, _, rfl, rfl⟩)
    simp [pending, view, verdict]
  | parsed total frame =>
    have item : verdict (viewPending decoder.limits beyond decoder.pending) =
        .item total frame := by
      simp [pending, view, verdict]
    by_cases whole : decoder.offset + total = decoder.buffer.length
    · simp only [consumeView, whole, if_true]
      refine .inl ⟨total, frame, _, item, rfl, ⟨rfl, rfl⟩, ?_⟩
      simp [pending, whole]
    · simp only [consumeView, whole, if_false]
      refine .inl ⟨total, frame, _, item, rfl, ⟨rfl, rfl⟩, ?_⟩
      simp [pending]

end Run

theorem takeFrames_eq_drainFuel (valid : validateLimits limits = .ok ()) (beyond : UInt8) :
    ∀ (rounds : Nat) (decoder : FrameStreamDecoder), Live limits decoder →
      ((takeFrames beyond rounds decoder).1, (takeFrames beyond rounds decoder).2.outcome) =
        drainFuel (viewVerdict limits beyond) rounds decoder.pending ∧
      ((takeFrames beyond rounds decoder).2.poisoned = false →
        Live limits (takeFrames beyond rounds decoder).2)
  | 0, decoder, live => by
    exact ⟨by rw [takeFrames, live.outcome_eq]; rfl, fun _ => live⟩
  | rounds + 1, decoder, live => by
    rw [takeFrames, drainFuel]
    rcases takeFrame_cases valid live beyond with
      ⟨total, frame, next, found, result, live', rest⟩ | ⟨found, result⟩ |
        ⟨found, error, next, result, poisoned⟩
    · rw [result, found]
      have later := takeFrames_eq_drainFuel valid beyond rounds next live'
      rw [rest] at later
      simp only []
      rw [← later.1]
      exact ⟨rfl, later.2⟩
    · rw [result, found]
      exact ⟨by simp only []; rw [live.outcome_eq], fun _ => live⟩
    · rw [result, found]
      simp [outcome, poisoned]

theorem feedChunks_of_poisoned :
    ∀ (chunks : List (List UInt8 × UInt8)) (decoder : FrameStreamDecoder),
      decoder.poisoned = true → decoder.feedChunks chunks = ([], decoder)
  | [], _, _ => rfl
  | chunk :: chunks, decoder, poisoned => by
    have here : decoder.feedChunk chunk = ([], decoder) := by
      simp [feedChunk, append, takeFrames, takeFrame, nextView, poisoned]
    rw [feedChunks, here, feedChunks_of_poisoned chunks decoder poisoned]
    rfl

/-- The decoder's run over chunks is the library's `feed` of its classifier. -/
theorem feedChunks_eq_feed (valid : validateLimits limits = .ok ()) :
    ∀ (chunks : List (List UInt8 × UInt8)) (decoder : FrameStreamDecoder), Live limits decoder →
      ((decoder.feedChunks chunks).1, (decoder.feedChunks chunks).2.outcome) =
        feed (viewVerdict limits) chunks decoder.pending
  | [], decoder, live => by
    rw [feedChunks, live.outcome_eq]
    rfl
  | chunk :: chunks, decoder, live => by
    obtain ⟨live', joined⟩ := append_pending valid live chunk.1
    have drained := takeFrames_eq_drainFuel valid chunk.2
      ((decoder.append chunk.1).2.bufferedBytes + 1) _ live'
    have rounds : (decoder.append chunk.1).2.bufferedBytes = (decoder.pending ++ chunk.1).length := by
      rw [← joined, pending, length_drop]
      rfl
    rw [joined, rounds] at drained
    obtain ⟨frames, next, here⟩ : ∃ frames next, decoder.feedChunk chunk = (frames, next) :=
      ⟨_, _, rfl⟩
    have same : takeFrames chunk.2 ((decoder.pending ++ chunk.1).length + 1)
        (decoder.append chunk.1).2 = (frames, next) := by
      rw [← rounds]
      exact here
    rw [same] at drained
    rw [feedChunks, here, feed, drain, ← drained.1]
    cases poisoned : next.poisoned with
    | true =>
      rw [feedChunks_of_poisoned chunks next poisoned]
      simp [outcome, poisoned, andThen]
    | false =>
      have live'' := drained.2 poisoned
      have later := feedChunks_eq_feed valid chunks next live''
      simp only [live''.outcome_eq, andThen, ← later]

end FrameStreamDecoder

open FrameStreamDecoder

/-! ### The iterated one-shot parser -/

theorem iterateParseFrameRounds_eq (valid : validateLimits limits = .ok ()) :
    ∀ (rounds : Nat) (input : List UInt8),
      iterateParseFrameRounds limits rounds input =
        report (drainFuel (scanFrame limits (parseDomainError limits) 0xff) rounds input)
  | 0, _ => rfl
  | rounds + 1, input => by
    rw [iterateParseFrameRounds, drainFuel, ← verdict_parseFrame valid]
    cases parseFrame input limits with
    | needMore => rfl
    | invalid error => rfl
    | parsed consumed frame =>
      simp only [verdict]
      rw [iterateParseFrameRounds_eq valid rounds]
      rfl

/-- The decoder's result over chunks as one drain of the whole string. -/
theorem decodeChunks_eq_report (valid : validateLimits limits = .ok ())
    (chunks : List (List UInt8 × UInt8)) :
    decodeChunks limits chunks =
      report (drain (withCuts (viewBase limits) (ReadsBeyond limits) chunks) (joined chunks)) := by
  have live : FrameStreamDecoder.Live limits { limits := limits } := ⟨rfl, rfl⟩
  have run := feedChunks_eq_feed valid chunks _ live
  have empty : viewBase limits [] = .more := rfl
  have whole : feed (viewVerdict limits) chunks [] =
      drain (withCuts (viewBase limits) (ReadsBeyond limits) chunks) ([] ++ joined chunks) :=
    feed_eq_drain (scanFrame_framing valid rfl)
      (fun beyond front => viewBase_of_readsBeyond valid)
      (fun beyond front => viewVerdict_of_readsBeyond valid)
      (fun beyond front => viewVerdict_of_not_readsBeyond valid) chunks [] empty
  rw [nil_append] at whole
  rw [← whole]
  have start : FrameStreamDecoder.pending { limits := limits } = [] := rfl
  rw [start] at run
  rw [← run, report, decodeChunks, outcome]
  cases (feedChunks { limits := limits } chunks).2.poisoned <;> rfl

/-! ### Where the two parsers part -/

/-- A well-formed frame of the one type whose channel the decoder does not
check, on a channel where it may not be. -/
structure Misbound (limits : Limits) (frame : Frame) : Prop extends Formed limits frame where
  approval : frame.type = FrameType.pairingApprovalRequest.code
  business : frame.channelId ≠ 0
  payloadFits : payloadLimitError frame.type frame.payload.length limits = none

/-- Type bytes outside the enumeration are bound to no channel and no ceiling. -/
theorem unknown_type_unbound : ∀ type : UInt8, isKnownFrameType type = false →
    requiresControlChannel type = false ∧
      (type == FrameType.message.code || type == FrameType.messageAck.code) = false ∧
      (decide (type ≥ FrameType.rpcRequest.code) && decide (type ≤ FrameType.rpcCancel.code)) = false ∧
      (decide (type ≥ FrameType.eventSubscribe.code) &&
        decide (type ≤ FrameType.eventUnsubscribe.code)) = false ∧
      ((decide (type ≥ FrameType.pairingRequest.code) &&
        decide (type ≤ FrameType.pairingResult.code)) ||
          type == FrameType.pairingApprovalRequest.code) = false ∧
      (type == FrameType.fileChunk.code) = false ∧
      (type == FrameType.shellInput.code || type == FrameType.shellOutput.code) = false ∧
      isShellControl type = false :=
  forall_byte (by decide +kernel)

theorem parseDomainError_of_unknown {frame : Frame}
    (unknown : isKnownFrameType frame.type = false) : parseDomainError limits frame = none := by
  obtain ⟨control, message, rpc, event, pairing, file, shellData, shellControl⟩ :=
    unknown_type_unbound frame.type unknown
  rw [parseDomainError_eq_none_iff]
  constructor
  · simp [channelError, control, requiresBusinessChannel, unknown]
  · simp only [payloadLimitError, message, rpc, event, pairing, file, shellData, shellControl,
      Bool.false_and, Bool.false_eq_true, if_false]

/-- Both parsers make the same checks on a complete frame, but for the channel
of an approval request. -/
theorem streamDomainError_eq_none_iff {frame : Frame} :
    streamDomainError frame limits = none ↔
      parseDomainError limits frame = none ∨
        (frame.type = FrameType.pairingApprovalRequest.code ∧ frame.channelId ≠ 0 ∧
          payloadLimitError frame.type frame.payload.length limits = none) := by
  cases known : isKnownFrameType frame.type with
  | false =>
    have skipped : unknownFrameAction frame ≠ .process := by
      simp only [unknownFrameAction, known, Bool.false_eq_true, if_false]
      split <;> decide
    simp [streamDomainError, skipped, parseDomainError_of_unknown known]
  | true =>
    have processed : unknownFrameAction frame = .process := by
      simp [unknownFrameAction, known]
    rw [streamDomainError, if_pos processed, parseDomainError_eq_none_iff, channelError,
      requiresBusinessChannel, known, Bool.and_true]
    by_cases approval : frame.type = FrameType.pairingApprovalRequest.code
    · have control : requiresControlChannel frame.type = true := by rw [approval]; rfl
      have unchecked : streamRequiresControl frame.type = false := by rw [approval]; rfl
      have business : decide (frame.type ≥ FrameType.message.code) = false := by rw [approval]; rfl
      rw [control, unchecked, business]
      by_cases zero : frame.channelId = 0
      · simp [zero]
      · simp [approval, zero]
    · have control : requiresControlChannel frame.type = streamRequiresControl frame.type := by
        simp [requiresControlChannel, streamRequiresControl, approval]
      rw [control]
      split
      · simp [approval]
      · split <;> simp [approval]

/-- The iterated parser's classifier of the bytes at a frame start. -/
def parseVerdict (limits : Limits) : List UInt8 → Verdict Frame :=
  scanFrame limits (parseDomainError limits) 0xff

section Parting

variable {limits : Limits} (valid : validateLimits limits = .ok ())
variable {frame : Frame}

include valid

theorem parseVerdict_of_misbound (misbound : Misbound limits frame) (rest : List UInt8) :
    parseVerdict limits (frameBytes frame ++ rest) = .bad := by
  rw [parseVerdict, scanFrame_frameBytes valid misbound.toFormed rest]
  have refused : channelError frame.type frame.channelId = some "control_channel_required" := by
    have control : requiresControlChannel frame.type = true := by rw [misbound.approval]; rfl
    simp [channelError, control, misbound.business]
  simp [parseDomainError, refused]

theorem viewBase_of_misbound (misbound : Misbound limits frame) (rest : List UInt8) :
    viewBase limits (frameBytes frame ++ rest) = .item (frameBytes frame).length frame := by
  have passes : streamDomainError frame limits = none :=
    streamDomainError_eq_none_iff.mpr
      (.inr ⟨misbound.approval, misbound.business, misbound.payloadFits⟩)
  rw [viewBase, scanFrame_frameBytes valid misbound.toFormed rest, passes]

/-- Without a misbound frame at the front the two parsers say the same. -/
theorem viewBase_eq_parseVerdict
    (bound : ¬ ∃ frame rest, Misbound limits frame ∧ start = frameBytes frame ++ rest) :
    viewBase limits start = parseVerdict limits start := by
  refine scanFrame_congr valid fun frame rest formed startEq => ?_
  rw [streamDomainError_eq_none_iff]
  constructor
  · rintro (passes | ⟨approval, business, payloadFits⟩)
    · exact passes
    · exact absurd ⟨frame, rest, ⟨formed, approval, business, payloadFits⟩, startEq⟩ bound
  · exact .inl

end Parting

/-- What may follow a length: an incomplete body that does not begin with a
control type, or the rest of a frame the encoder could have written. -/
def Continues (limits : Limits) (length : UInt32) (tail : List UInt8) : Prop :=
  (tail.length < length.toNat ∧ ∀ type ∈ tail.head?, isControlType type = false) ∨
    ∃ frame bytes rest, encodeFrame frame limits = .ok bytes ∧
      appendVarint length ++ tail = bytes ++ rest

/-- Behind a length above the control ceiling, what the parser does not reject. -/
theorem parseVerdict_ne_bad_iff (valid : validateLimits limits = .ok ())
    (above : limits.maxControlFrameBytes < length.toNat)
    (fits : length.toNat ≤ limits.maxFrameBytes) (tail : List UInt8) :
    parseVerdict limits (appendVarint length ++ tail) ≠ .bad ↔ Continues limits length tail := by
  have minimum := minimum_of_above valid above
  have business : isControlType (tail.head?.getD 0xff) = false ↔
      ∀ type ∈ tail.head?, isControlType type = false := by
    cases tail.head? <;> simp [isControlType]
  constructor
  · intro accepted
    cases found : parseVerdict limits (appendVarint length ++ tail) with
    | bad => exact absurd found accepted
    | item consumed frame =>
      obtain ⟨formed, passes, rest, startEq, -⟩ := (scanFrame_eq_item_iff valid).mp found
      have accepted := (accepted_iff valid).mpr ⟨formed, passes⟩
      exact .inr ⟨frame, frameBytes frame, rest, encodeFrame_eq_ok_iff.mpr ⟨accepted, rfl⟩, startEq⟩
    | more =>
      rw [parseVerdict, scanFrame_appendVarint valid minimum fits] at found
      split_ifs at found with control incomplete
      · refine .inl ⟨incomplete, business.mp ?_⟩
        exact Bool.eq_false_iff.mpr fun isControl => control ⟨isControl, above⟩
      · split at found
        · cases found
        · split at found <;> cases found
  · rintro (⟨short, head⟩ | ⟨frame, bytes, rest, encoded, startEq⟩)
    · rw [parseVerdict, scanFrame_appendVarint valid minimum fits, business.mpr head, if_neg nofun,
        if_pos short]
      nofun
    · obtain ⟨accepted, rfl⟩ := encodeFrame_eq_ok_iff.mp encoded
      obtain ⟨formed, passes⟩ := (accepted_iff valid).mp accepted
      rw [startEq, parseVerdict, scanFrame_frameBytes valid formed rest, passes]
      simp

/-! ### The comparison -/

/-- The places where the iterated parser is asked are those behind a sequence of
encoded frames. -/
theorem start_parseVerdict_iff (valid : validateLimits limits = .ok ()) :
    Start (parseVerdict limits) input start ↔
      ∃ frames : List Frame, (∀ frame ∈ frames, encodeFrame frame limits = .ok (frameBytes frame)) ∧
        input = frames.flatMap frameBytes ++ start := by
  constructor
  · intro reached
    induction reached with
    | here input => exact ⟨[], by simp, rfl⟩
    | later found next ih =>
      obtain ⟨formed, passes, rest, rfl, rfl⟩ := (scanFrame_eq_item_iff valid).mp found
      obtain ⟨frames, encoded, restEq⟩ := ih
      rw [drop_left] at restEq
      rename_i frame _
      refine ⟨frame :: frames, ?_, ?_⟩
      · intro f member
        rcases mem_cons.mp member with rfl | member
        · exact encodeFrame_eq_ok_iff.mpr ⟨(accepted_iff valid).mpr ⟨formed, passes⟩, rfl⟩
        · exact encoded f member
      · rw [flatMap_cons, append_assoc, ← restEq]
  · rintro ⟨frames, encoded, rfl⟩
    induction frames with
    | nil => exact .here _
    | cons frame frames ih =>
      obtain ⟨accepted, -⟩ := encodeFrame_eq_ok_iff.mp (encoded frame (mem_cons_self ..))
      have found : parseVerdict limits ((frame :: frames).flatMap frameBytes ++ start) =
          .item (frameBytes frame).length frame := by
        obtain ⟨formed, passes⟩ := (accepted_iff valid).mp accepted
        refine (scanFrame_eq_item_iff valid).mpr ⟨formed, passes,
          frames.flatMap frameBytes ++ start, ?_, rfl⟩
        rw [flatMap_cons, append_assoc]
      refine .later found ?_
      rw [flatMap_cons, append_assoc, drop_left]
      exact ih fun f member => encoded f (mem_cons_of_mem _ member)

/-- Behind some encoded frames comes an approval request on a business channel. -/
def CarriesMisbound (limits : Limits) (input : List UInt8) : Prop :=
  ∃ (frames : List Frame) (frame : Frame) (rest : List UInt8),
    (∀ f ∈ frames, encodeFrame f limits = .ok (frameBytes f)) ∧ Misbound limits frame ∧
      input = frames.flatMap frameBytes ++ (frameBytes frame ++ rest)

/-- Some chunk ends right behind the length of a frame above the control
ceiling, the byte behind the buffer is then a control type, and the bytes of the
later chunks do go on with that frame. -/
def CutBehindLength (limits : Limits) (chunks : List (List UInt8 × UInt8)) : Prop :=
  ∃ (frames : List Frame) (length : UInt32) (before : List (List UInt8 × UInt8))
      (chunk : List UInt8 × UInt8) (after : List (List UInt8 × UInt8)),
    (∀ f ∈ frames, encodeFrame f limits = .ok (frameBytes f)) ∧
      chunks = before ++ chunk :: after ∧
      joined (before ++ [chunk]) = frames.flatMap frameBytes ++ appendVarint length ∧
      limits.maxControlFrameBytes < length.toNat ∧ length.toNat ≤ limits.maxFrameBytes ∧
      isControlType chunk.2 = true ∧ Continues limits length (joined after)

/-- The two parsers agree at a frame start exactly when it is no misbound frame
and no rejecting cut in front of an acceptable continuation. -/
theorem withCuts_eq_parseVerdict_iff (valid : validateLimits limits = .ok ())
    (chunks : List (List UInt8 × UInt8)) (start : List UInt8) :
    withCuts (viewBase limits) (ReadsBeyond limits) chunks start = parseVerdict limits start ↔
      (¬ ∃ frame rest, Misbound limits frame ∧ start = frameBytes frame ++ rest) ∧
      (Cut (ReadsBeyond limits) chunks start → parseVerdict limits start = .bad) := by
  by_cases cut : Cut (ReadsBeyond limits) chunks start
  · rw [withCuts_of_cut cut]
    constructor
    · intro rejected
      refine ⟨?_, fun _ => rejected.symm⟩
      rintro ⟨frame, rest, misbound, rfl⟩
      -- A misbound frame is within the control ceiling, so no cut behind its length rejects.
      obtain ⟨before, chunk, after, front, -, startEq, -, length, rfl, above, -⟩ := cut
      rw [misbound.frameBytes_eq valid, appendVarint_eq_encode, append_assoc] at startEq
      have size := (encode_append_inj startEq).1
      have control : isControlType frame.type = true := by rw [misbound.approval]; rfl
      have within := misbound.controlFits control
      omega
    · rintro ⟨-, rejected⟩
      exact (rejected cut).symm
  · rw [withCuts_of_not_cut cut]
    constructor
    · intro same
      refine ⟨?_, fun cut' => absurd cut' cut⟩
      rintro ⟨frame, rest, misbound, rfl⟩
      rw [viewBase_of_misbound valid misbound rest, parseVerdict_of_misbound valid misbound rest] at same
      cases same
    · rintro ⟨bound, -⟩
      exact viewBase_eq_parseVerdict valid bound

/-- The incremental decoder yields the frames of the iterated one-shot parser, and
ends poisoned exactly when that ends in an invalid verdict, for all inputs and
cuts but these: an approval request on a business channel, which only the
parser refuses, and a cut behind a length at which the decoder takes a byte
outside its buffer for a control type. -/
theorem decodeChunks_eq_iterateParseFrame_iff (limits : Limits)
    (valid : validateLimits limits = .ok ()) (chunks : List (List UInt8 × UInt8)) :
    decodeChunks limits chunks = iterateParseFrame limits (joined chunks) ↔
      ¬ CarriesMisbound limits (joined chunks) ∧ ¬ CutBehindLength limits chunks := by
  have parseFraming : Framing (parseVerdict limits) := scanFrame_framing valid rfl
  have viewFraming : Framing (viewBase limits) := scanFrame_framing valid rfl
  have differ : ∀ start, withCuts (viewBase limits) (ReadsBeyond limits) chunks start ≠
      parseVerdict limits start →
      withCuts (viewBase limits) (ReadsBeyond limits) chunks start = .bad ∨
        parseVerdict limits start = .bad := by
    intro start different
    by_cases cut : Cut (ReadsBeyond limits) chunks start
    · exact .inl (withCuts_of_cut cut)
    · rw [withCuts_of_not_cut cut] at different
      by_cases bound : ∃ frame rest, Misbound limits frame ∧ start = frameBytes frame ++ rest
      · obtain ⟨frame, rest, misbound, rfl⟩ := bound
        exact .inr (parseVerdict_of_misbound valid misbound rest)
      · exact absurd (viewBase_eq_parseVerdict valid bound) different
  rw [decodeChunks_eq_report valid, iterateParseFrame, iterateParseFrameRounds_eq valid]
  refine (report_drain_eq_iff parseFraming.progress
    (withCuts_progress viewFraming.progress _ chunks) differ _).trans ?_
  simp only [withCuts_eq_parseVerdict_iff valid, start_parseVerdict_iff valid]
  constructor
  · intro agree
    constructor
    · rintro ⟨frames, frame, rest, encoded, misbound, inputEq⟩
      exact (agree _ ⟨frames, encoded, inputEq⟩).1 ⟨frame, rest, misbound, rfl⟩
    · rintro ⟨frames, length, before, chunk, after, encoded, rfl, frontEq, above, fits, control,
        continues⟩
      have inputEq : joined (before ++ chunk :: after) =
          frames.flatMap frameBytes ++ (appendVarint length ++ joined after) := by
        rw [← append_assoc, ← frontEq]
        simp
      refine (parseVerdict_ne_bad_iff valid above fits _).mpr continues
        ((agree _ ⟨frames, encoded, inputEq⟩).2 ?_)
      exact ⟨before, chunk, after, _, rfl, rfl, control, length, rfl, above, fits⟩
  · rintro ⟨bound, whole⟩ start ⟨frames, encoded, inputEq⟩
    constructor
    · rintro ⟨frame, rest, misbound, rfl⟩
      exact bound ⟨frames, frame, rest, encoded, misbound, inputEq⟩
    · rintro ⟨before, chunk, after, front, rfl, rfl, control, length, rfl, above, fits⟩
      refine Classical.byContradiction fun accepted => whole ⟨frames, length, before, chunk, after,
        encoded, rfl, ?_, above, fits, control,
        (parseVerdict_ne_bad_iff valid above fits _).mp accepted⟩
      have whole' : joined (before ++ [chunk]) ++ joined after =
          (frames.flatMap frameBytes ++ appendVarint length) ++ joined after := by
        rw [append_assoc, ← inputEq]
        simp
      exact append_cancel_right whole'

/-- A ping cut inside its message id. -/
theorem decodeChunks_eq_iterateParseFrame_iff_ping :
    decodeChunks {} [([21, 3, 1, 0, 7, 7], 0), (replicate 14 7 ++ [0xaa, 0xbb], 0)] =
      iterateParseFrame {} ([21, 3, 1, 0] ++ replicate 16 7 ++ [0xaa, 0xbb]) ∧
    ¬ CarriesMisbound {}
      (joined [([21, 3, 1, 0, 7, 7], 0), (replicate 14 7 ++ [0xaa, 0xbb], (0 : UInt8))]) ∧
    ¬ CutBehindLength {} [([21, 3, 1, 0, 7, 7], 0), (replicate 14 7 ++ [0xaa, 0xbb], 0)] :=
  ⟨by decide, (decodeChunks_eq_iterateParseFrame_iff {} (by decide) _).mp (by decide)⟩

/-- An empty approval request on channel 1, whole in one chunk: the decoder
yields it and goes on, the parser ends in an invalid verdict.  And a lone length
of 128 KiB with a control type behind the buffer poisons the decoder, where the
parser waits. -/
theorem decodeChunks_ne_iterateParseFrame :
    validateLimits {} = .ok () ∧
    decodeChunks {} [([19, 0x12, 0, 1] ++ replicate 16 7, 0xff)] ≠
      iterateParseFrame {} ([19, 0x12, 0, 1] ++ replicate 16 7) ∧
    decodeChunks {} [([0x80, 0x80, 0x08], 0x01)] ≠ iterateParseFrame {} [0x80, 0x80, 0x08] := by
  decide

/-- Frames that the encoder accepts come out of the decoder as they went in, however their bytes
are cut, if no cut makes it take a byte behind its buffer for a control type. -/
theorem decodeChunks_frames {limits : Limits} (valid : validateLimits limits = .ok ())
    {frames : List Frame} (accepted : ∀ frame ∈ frames, Accepted limits frame)
    {chunks : List (List UInt8 × UInt8)} (whole : joined chunks = frames.flatMap frameBytes)
    (business : ∀ chunk ∈ chunks, isControlType chunk.2 = false) :
    decodeChunks limits chunks = (frames, false) := by
  have uncut : withCuts (viewBase limits) (ReadsBeyond limits) chunks = viewBase limits := by
    funext start
    apply withCuts_of_not_cut
    rintro ⟨before, chunk, after, front, rfl, -, beyond, -⟩
    have plain := business chunk (mem_append_right before (.head after))
    exact Bool.false_ne_true (plain.symm.trans beyond)
  have framing : Framing (viewBase limits) := scanFrame_framing valid rfl
  have drained : drain (viewBase limits) (frames.flatMap frameBytes) = (frames, some []) := by
    clear whole
    induction frames with
    | nil => exact drain_more rfl
    | cons frame frames ih =>
      obtain ⟨own, others⟩ := forall_mem_cons.mp accepted
      have fits : streamDomainError frame limits = none :=
        streamDomainError_eq_none_iff.mpr (.inl ((accepted_iff valid).mp own).2)
      have item : viewBase limits (frameBytes frame ++ frames.flatMap frameBytes) =
          .item (frameBytes frame).length frame := by
        rw [viewBase, scanFrame_frameBytes valid own.toFormed, fits]
      rw [flatMap_cons, drain_item framing.progress item, drop_left, ih others]
  rw [decodeChunks_eq_report valid, uncut, whole, drained]
  rfl

theorem decodeChunks_frames_pings :
    decodeChunks {} [([21, 3, 1], 0xff), ([0] ++ replicate 16 7 ++ [0xaa, 0xbb], 0xff)] =
      ([samplePing], false) :=
  decodeChunks_frames rfl (by
    rintro frame (_ | ⟨_, ⟨⟩⟩)
    exact (encodeFrame_eq_ok_iff.mp (by decide : encodeFrame samplePing {} = .ok
      ([21, 3, 1, 0] ++ replicate 16 7 ++ [0xaa, 0xbb]))).1) rfl (by decide)

end Heyaki
