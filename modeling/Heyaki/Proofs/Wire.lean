/-
Purpose: the frame codec is a bijection between accepted frames and accepted
byte strings.

`encodeFrame_eq_ok_iff` and `parseFrame_eq_parsed_iff` describe the two
directions by the same predicate `Accepted` and the same bytes `frameBytes`;
everything else follows from the pair.  The parser is studied through
`scanFrame`, its verdict with the domain checks and the byte behind an
incomplete header left open, which other parsers of the layout instantiate too.

Main exports: `Accepted`, `frame_codec_bijection`
-/
import Heyaki.Foundation.Incremental
import Heyaki.Foundation.Transaction
import Heyaki.Proofs.Varint

namespace Heyaki

open Foundation
open Foundation.Incremental (Verdict Framing)
open Foundation.Transaction (guard_eq_ok)
open Varint List

variable {limits : Limits} {frame : Frame} {consumed : Nat}

/-! ### Frames the codec accepts -/

/-- The checks on a frame that depend on the layout alone. -/
structure Formed (limits : Limits) (frame : Frame) : Prop where
  flagsKnown : frame.flags &&& ~~~frameKnownFlags = 0
  idNonzero : frame.messageId.isZero = false
  bodyFits : frameBodySize frame ≤ limits.maxFrameBytes
  controlFits : isControlType frame.type = true → frameBodySize frame ≤ limits.maxControlFrameBytes

/-- The checks a frame passes on either side of the codec. -/
structure Accepted (limits : Limits) (frame : Frame) : Prop extends Formed limits frame where
  limitsValid : validateLimits limits = .ok ()
  channelFits : channelError frame.type frame.channelId = none
  payloadFits : payloadLimitError frame.type frame.payload.length limits = none

theorem frameBody_length (frame : Frame) : (frameBody frame).length = frameBodySize frame := by
  simp only [frameBody, frameBodySize, fixedBodySize, length_cons, length_append,
    varintSize_eq_length, frame.messageId.size]
  omega

theorem minimumBodySize_le (frame : Frame) : minimumBodySize ≤ frameBodySize frame := by
  have positive := encode_length_pos frame.channelId.toNat
  rw [frameBodySize, varintSize_eq_length, appendVarint_eq_encode]
  simp only [minimumBodySize, fixedBodySize]
  omega

/-- Under valid limits a body length survives the cast to 32 bits. -/
theorem Formed.bodySize_toNat (formed : Formed limits frame)
    (valid : validateLimits limits = .ok ()) :
    (UInt32.ofNat (frameBodySize frame)).toNat = frameBodySize frame := by
  have frameUpper := (ValidLimits.of_validateLimits valid).frameUpper
  have bodyFits := formed.bodyFits
  rw [UInt32.toNat_ofNat']
  simp only [mib, kib] at frameUpper
  omega

theorem frameLengthMaximum_toNat (valid : validateLimits limits = .ok ()) :
    (frameLengthMaximum limits).toNat = limits.maxFrameBytes := by
  have frameUpper := (ValidLimits.of_validateLimits valid).frameUpper
  rw [frameLengthMaximum, UInt32.toNat_ofNat']
  simp only [mib, kib] at frameUpper
  omega

/-- The encoder writes `frameBytes` for the accepted frames and nothing for the others. -/
theorem encodeFrame_eq_ok_iff {bytes : List UInt8} :
    encodeFrame frame limits = .ok bytes ↔ Accepted limits frame ∧ bytes = frameBytes frame := by
  unfold encodeFrame
  cases valid : validateLimits limits with
  | error error =>
    exact iff_of_false nofun fun both => by cases valid.symm.trans both.1.limitsValid
  | ok _ =>
    cases channelFits : channelError frame.type frame.channelId with
    | some detail =>
      simp only [guard_eq_ok, reduceCtorEq, and_false, false_iff]
      exact fun both => by cases channelFits.symm.trans both.1.channelFits
    | none =>
      cases payloadFits : payloadLimitError frame.type frame.payload.length limits with
      | some detail =>
        simp only [guard_eq_ok, reduceCtorEq, and_false, false_iff]
        exact fun both => by cases payloadFits.symm.trans both.1.payloadFits
      | none =>
        simp only [guard_eq_ok, Except.ok.injEq]
        constructor
        · rintro ⟨flagsKnown, idNonzero, lengthFits, -, controlFits, rfl⟩
          refine ⟨⟨⟨not_not.mp flagsKnown, by simpa using idNonzero, ?_, ?_⟩, valid,
            channelFits, payloadFits⟩, rfl⟩
          · rw [frameBodySize]
            omega
          · intro control
            exact Nat.le_of_not_lt fun above => controlFits ⟨control, above⟩
        · rintro ⟨accepted, rfl⟩
          have bodyFits := accepted.bodyFits
          have frameUpper := (ValidLimits.of_validateLimits valid).frameUpper
          simp only [frameBodySize, mib, kib] at bodyFits frameUpper ⊢
          refine ⟨not_not.mpr accepted.flagsKnown, by simp [accepted.idNonzero], by omega, by omega,
            ?_, trivial⟩
          exact fun above => absurd (accepted.controlFits above.1) (Nat.not_le_of_lt above.2)

/-- A body is read back exactly when it is the body of a frame with known flags
and a non-zero id. -/
theorem readFrameBody_eq_ok_iff {body : List UInt8} (long : 2 ≤ body.length) :
    readFrameBody body = .ok frame ↔
      frame.flags &&& ~~~frameKnownFlags = 0 ∧ frame.messageId.isZero = false ∧
        body = frameBody frame := by
  obtain ⟨type, flags, rest, rfl⟩ : ∃ type flags rest, body = type :: flags :: rest := by
    match body, long with
    | type :: flags :: rest, _ => exact ⟨type, flags, rest, rfl⟩
  have afterFlags : (type :: flags :: rest).drop 2 = rest := rfl
  simp only [readFrameBody, getD_cons_zero, getD_cons_succ, afterFlags, Nat.add_assoc,
    ← drop_drop]
  constructor
  · intro read
    split at read
    · cases read
    rename_i flagsKnown
    split at read
    · cases read
    · cases read
    rename_i channelId channelBytes channel
    obtain ⟨tail, rfl, -, rfl⟩ := decodeVarint_eq_parsed_iff.mp channel
    split at read
    · cases read
    split at read
    · cases read
    rename_i idNonzero
    injection read with same
    subst same
    refine ⟨not_not.mp flagsKnown, by simpa using idNonzero, ?_⟩
    simp only [frameBody, appendVarint_eq_encode, drop_left, take_append_drop]
  · rintro ⟨flagsKnown, idNonzero, same⟩
    simp only [frameBody, cons.injEq, appendVarint_eq_encode] at same
    obtain ⟨rfl, rfl, rfl⟩ := same
    have channel : decodeVarint (encode frame.channelId.toNat ++
        (frame.messageId.bytes ++ frame.payload)) 0xffffffff =
          .parsed frame.channelId (encode frame.channelId.toNat).length := by
      refine decodeVarint_eq_parsed_iff.mpr ⟨_, rfl, UInt32.le_iff_toNat_le.mpr ?_, rfl⟩
      exact Nat.le_of_lt_succ frame.channelId.toNat_lt
    have room : ¬ 2 + ((encode frame.channelId.toNat).length + 16) >
        (frame.type :: frame.flags :: (encode frame.channelId.toNat ++
          (frame.messageId.bytes ++ frame.payload))).length := by
      simp only [length_cons, length_append, frame.messageId.size]
      omega
    have idBytes : ((frame.messageId.bytes ++ frame.payload).take 16) = frame.messageId.bytes :=
      take_left' frame.messageId.size
    have payload : ((frame.messageId.bytes ++ frame.payload).drop 16) = frame.payload :=
      drop_left' frame.messageId.size
    simp only [flagsKnown, channel, room, dif_neg, not_false_eq_true, drop_left, idBytes,
      payload, idNonzero, ne_eq, not_true_eq_false, if_false, Bool.false_eq_true]

/-- The bytes of a frame: the code of the body length, then the body. -/
theorem Formed.frameBytes_eq (formed : Formed limits frame)
    (valid : validateLimits limits = .ok ()) :
    frameBytes frame = encode (frameBodySize frame) ++ frameBody frame := by
  rw [frameBytes, appendVarint_eq_encode, formed.bodySize_toNat valid]

theorem Formed.readFrameBody_frameBody (formed : Formed limits frame) :
    readFrameBody (frameBody frame) = .ok frame := by
  have minimum := minimumBodySize_le frame
  simp only [minimumBodySize] at minimum
  rw [readFrameBody_eq_ok_iff (by rw [frameBody_length]; omega)]
  exact ⟨formed.flagsKnown, formed.idNonzero, rfl⟩

/-! ### Scanning the front of the input -/

def verdict : FrameParseResult → Verdict Frame
  | .parsed consumed frame => .item consumed frame
  | .needMore => .more
  | .invalid _ => .bad

/-- A parser's verdict on the front of the input.  `domainError` are its checks
on a complete frame; `beyond` stands for the type byte where that has not arrived. -/
def scanFrame (limits : Limits) (domainError : Frame → Option String) (beyond : UInt8)
    (input : List UInt8) : Verdict Frame :=
  match decodeVarint input (frameLengthMaximum limits) with
  | .needMore => .more
  | .invalid _ => .bad
  | .parsed length lengthBytes =>
    if length.toNat < minimumBodySize then .bad
    else if isControlType (input.getD lengthBytes beyond) ∧
        length.toNat > limits.maxControlFrameBytes then .bad
    else if input.length < lengthBytes + length.toNat then .more
    else
      match readFrameBody ((input.drop lengthBytes).take length.toNat) with
      | .error _ => .bad
      | .ok frame =>
        match domainError frame with
        | some _ => .bad
        | none => .item (lengthBytes + length.toNat) frame

section Scanning

variable {limits : Limits} {domainError : Frame → Option String} {beyond : UInt8} {frame : Frame}
  {input : List UInt8}

section

variable (valid : validateLimits limits = .ok ())

include valid

theorem decodeVarint_appendVarint {length : UInt32} (fits : length.toNat ≤ limits.maxFrameBytes)
    (rest : List UInt8) :
    decodeVarint (appendVarint length ++ rest) (frameLengthMaximum limits) =
      .parsed length (appendVarint length).length := by
  rw [appendVarint_eq_encode]
  refine decodeVarint_eq_parsed_iff.mpr ⟨rest, rfl, ?_, rfl⟩
  rw [UInt32.le_iff_toNat_le, frameLengthMaximum_toNat valid]
  exact fits

/-- The verdict behind a length that may be a frame's. -/
theorem scanFrame_appendVarint {length : UInt32} (minimum : minimumBodySize ≤ length.toNat)
    (fits : length.toNat ≤ limits.maxFrameBytes) (tail : List UInt8) :
    scanFrame limits domainError beyond (appendVarint length ++ tail) =
      if isControlType (tail.head?.getD beyond) ∧ length.toNat > limits.maxControlFrameBytes then .bad
      else if tail.length < length.toNat then .more
      else
        match readFrameBody (tail.take length.toNat) with
        | .error _ => .bad
        | .ok frame =>
          match domainError frame with
          | some _ => .bad
          | none => .item ((appendVarint length).length + length.toNat) frame := by
  have type : (appendVarint length ++ tail).getD (appendVarint length).length beyond =
      tail.head?.getD beyond := by
    rw [getD_eq_getElem?_getD, getElem?_append_right (Nat.le_refl _), Nat.sub_self,
      head?_eq_getElem?]
  simp only [scanFrame, decodeVarint_appendVarint valid fits, Nat.not_lt.mpr minimum, if_false, type,
    length_append, Nat.add_lt_add_iff_left, drop_left]

/-- Without such a length at the front, the input waits for one or is rejected for good. -/
theorem scanFrame_start (input : List UInt8) :
    (∃ (length : UInt32) (tail : List UInt8), minimumBodySize ≤ length.toNat ∧
      length.toNat ≤ limits.maxFrameBytes ∧ input = appendVarint length ++ tail) ∨
    (∀ domainError beyond, scanFrame limits domainError beyond input = .more) ∨
    ∀ later domainError beyond, scanFrame limits domainError beyond (input ++ later) = .bad := by
  unfold scanFrame
  cases lengthRead : decodeVarint input (frameLengthMaximum limits) with
  | needMore => exact .inr (.inl fun _ _ => rfl)
  | invalid detail =>
    refine .inr (.inr fun later _ _ => ?_)
    rw [decodeVarint_append later (by simp [lengthRead]), lengthRead]
  | parsed length lengthBytes =>
    by_cases minimum : length.toNat < minimumBodySize
    · refine .inr (.inr fun later _ _ => ?_)
      rw [decodeVarint_append later (by simp [lengthRead]), lengthRead]
      exact if_pos minimum
    obtain ⟨tail, rfl, fits, -⟩ := decodeVarint_eq_parsed_iff.mp lengthRead
    rw [UInt32.le_iff_toNat_le, frameLengthMaximum_toNat valid] at fits
    rw [← appendVarint_eq_encode]
    exact .inl ⟨length, tail, Nat.not_lt.mp minimum, fits, rfl⟩

theorem scanFrame_frameBytes (formed : Formed limits frame) (rest : List UInt8) :
    scanFrame limits domainError beyond (frameBytes frame ++ rest) =
      match domainError frame with
      | some _ => .bad
      | none => .item (frameBytes frame).length frame := by
  have size := formed.bodySize_toNat valid
  have length := frameBody_length frame
  have control : ¬ (isControlType frame.type ∧
      frameBodySize frame > limits.maxControlFrameBytes) :=
    fun above => absurd (formed.controlFits above.1) (Nat.not_le_of_lt above.2)
  have type : (frameBody frame ++ rest).head?.getD beyond = frame.type := rfl
  have minimum := minimumBodySize_le frame
  have fits := formed.bodyFits
  rw [← size] at minimum fits
  rw [frameBytes, append_assoc, scanFrame_appendVarint valid minimum fits, size, type,
    if_neg control, if_neg (by rw [length_append]; omega), take_left' length,
    formed.readFrameBody_frameBody, length_append, length]

/-- A well-formed frame is at the front of the input, or the domain checks do not matter and
there is no item. -/
theorem scanFrame_cases (beyond : UInt8) (input : List UInt8) :
    (∃ frame rest, Formed limits frame ∧ input = frameBytes frame ++ rest) ∨
      ∃ verdict : Verdict Frame, (∀ consumed frame, verdict ≠ .item consumed frame) ∧
        ∀ domainError, scanFrame limits domainError beyond input = verdict := by
  rcases scanFrame_start valid input with
    ⟨length, tail, minimum, fits, rfl⟩ | waits | rejects
  · simp only [scanFrame_appendVarint valid minimum fits]
    split
    · exact .inr ⟨.bad, nofun, fun _ => rfl⟩
    rename_i control
    split
    · exact .inr ⟨.more, nofun, fun _ => rfl⟩
    rename_i complete
    cases read : readFrameBody (tail.take length.toNat) with
    | error detail => exact .inr ⟨.bad, nofun, fun _ => rfl⟩
    | ok frame =>
      have bodyLength : (tail.take length.toNat).length = length.toNat := by
        rw [length_take]
        omega
      rw [readFrameBody_eq_ok_iff (by simp only [minimumBodySize] at minimum; omega)] at read
      obtain ⟨flagsKnown, idNonzero, bodyEq⟩ := read
      have size : length.toNat = frameBodySize frame :=
        bodyLength.symm.trans ((congrArg List.length bodyEq).trans (frameBody_length _))
      have tailEq : frameBody frame ++ tail.drop length.toNat = tail := by
        rw [← bodyEq, take_append_drop]
      rw [← tailEq] at control
      refine .inl ⟨frame, tail.drop length.toNat, ⟨flagsKnown, idNonzero, size ▸ fits, ?_⟩, ?_⟩
      · intro controlType
        rw [← size]
        exact Nat.le_of_not_lt fun above => control ⟨controlType, above⟩
      · rw [frameBytes, ← size, UInt32.ofNat_toNat, append_assoc, tailEq]
  · exact .inr ⟨.more, nofun, fun domainError => waits domainError beyond⟩
  · rw [← append_nil input]
    exact .inr ⟨.bad, nofun, fun domainError => rejects [] domainError beyond⟩

/-- The front of the input is an item exactly when it is the bytes of a
well-formed frame that passes the domain checks. -/
theorem scanFrame_eq_item_iff :
    scanFrame limits domainError beyond input = .item consumed frame ↔
      Formed limits frame ∧ domainError frame = none ∧
        ∃ rest, input = frameBytes frame ++ rest ∧ consumed = (frameBytes frame).length := by
  constructor
  · intro found
    rcases scanFrame_cases valid beyond input with ⟨front, rest, formed, rfl⟩ | ⟨verdict, none, same⟩
    · rw [scanFrame_frameBytes valid formed rest] at found
      split at found
      · cases found
      rename_i passes
      cases found
      exact ⟨formed, passes, rest, rfl, rfl⟩
    · exact absurd ((same domainError).symm.trans found) (none consumed frame)
  · rintro ⟨formed, passes, rest, rfl, rfl⟩
    rw [scanFrame_frameBytes valid formed rest, passes]

/-- Only the domain checks on a frame at the front tell two parsers apart. -/
theorem scanFrame_congr {domainError' : Frame → Option String}
    (agree : ∀ frame rest, Formed limits frame → input = frameBytes frame ++ rest →
      (domainError' frame = none ↔ domainError frame = none)) :
    scanFrame limits domainError' beyond input = scanFrame limits domainError beyond input := by
  rcases scanFrame_cases valid beyond input with ⟨frame, rest, formed, rfl⟩ | ⟨verdict, -, same⟩
  · have same := agree frame rest formed rfl
    rw [scanFrame_frameBytes valid formed rest, scanFrame_frameBytes valid formed rest]
    cases passes : domainError frame with
    | none => rw [same.mpr passes]
    | some detail =>
      cases passes' : domainError' frame with
      | none => rw [same.mp passes'] at passes; cases passes
      | some detail' => rfl
  · rw [same, same]

/-- A verdict other than "more" does not change when more bytes arrive, once the
type byte that has not arrived is taken for a business type. -/
theorem scanFrame_append (business : isControlType beyond = false) (later : List UInt8)
    (decided : scanFrame limits domainError beyond input ≠ .more) :
    scanFrame limits domainError beyond (input ++ later) =
      scanFrame limits domainError beyond input := by
  rcases scanFrame_start valid input with ⟨length, tail, minimum, fits, rfl⟩ | waits | rejects
  · rw [append_assoc, scanFrame_appendVarint valid minimum fits,
      scanFrame_appendVarint valid minimum fits]
    rw [scanFrame_appendVarint valid minimum fits] at decided
    cases tail with
    | nil =>
      -- nothing follows the length, so the verdict was "more"
      have incomplete : 0 < length.toNat := Nat.lt_of_lt_of_le (by decide) minimum
      simp [business, incomplete] at decided
    | cons type tail =>
      rw [show (type :: tail ++ later).head? = (type :: tail).head? from rfl]
      by_cases control : isControlType ((type :: tail).head?.getD beyond) ∧
          length.toNat > limits.maxControlFrameBytes
      · rw [if_pos control, if_pos control]
      rw [if_neg control] at decided ⊢
      by_cases incomplete : (type :: tail).length < length.toNat
      · rw [if_pos incomplete] at decided
        exact absurd rfl decided
      rw [if_neg control, if_neg incomplete, length_append, if_neg (by omega),
        take_append_of_le_length (Nat.not_lt.mp incomplete)]
  · exact absurd (waits domainError beyond) decided
  · rw [rejects, ← append_nil input, rejects]

end

theorem scanFrame_framing (valid : validateLimits limits = .ok ())
    (business : isControlType beyond = false) :
    Framing (scanFrame limits domainError beyond) where
  progress := by
    intro input consumed frame found
    obtain ⟨formed, -, rest, rfl, rfl⟩ := (scanFrame_eq_item_iff valid).mp found
    rw [formed.frameBytes_eq valid]
    have positive := encode_length_pos (frameBodySize frame)
    simp only [length_append]
    omega
  stable := fun _ later decided => scanFrame_append valid business later decided
  tight := by
    intro input consumed frame found
    obtain ⟨formed, passes, rest, rfl, rfl⟩ := (scanFrame_eq_item_iff valid).mp found
    rw [take_left]
    exact (scanFrame_eq_item_iff valid).mpr ⟨formed, passes, [], (append_nil _).symm, rfl⟩

end Scanning

/-! ### The one-shot parser -/

/-- The checks the one-shot parser makes on a complete frame. -/
def parseDomainError (limits : Limits) (frame : Frame) : Option String :=
  channelError frame.type frame.channelId <|>
    payloadLimitError frame.type frame.payload.length limits

theorem parseDomainError_eq_none_iff :
    parseDomainError limits frame = none ↔
      channelError frame.type frame.channelId = none ∧
        payloadLimitError frame.type frame.payload.length limits = none := by
  simp [parseDomainError]

/-- The codec accepts the well-formed frames that pass the domain checks. -/
theorem accepted_iff (valid : validateLimits limits = .ok ()) :
    Accepted limits frame ↔ Formed limits frame ∧ parseDomainError limits frame = none := by
  rw [parseDomainError_eq_none_iff]
  exact ⟨fun accepted => ⟨accepted.toFormed, accepted.channelFits, accepted.payloadFits⟩,
    fun ⟨formed, channelFits, payloadFits⟩ => ⟨formed, valid, channelFits, payloadFits⟩⟩

/-- A type byte that has not arrived never counts as a control type here. -/
theorem verdict_parseFrame (valid : validateLimits limits = .ok ()) (input : List UInt8) :
    verdict (parseFrame input limits) = scanFrame limits (parseDomainError limits) 0xff input := by
  have type : ∀ index, input[index]?.any isControlType = isControlType (input.getD index 0xff) := by
    intro index
    rw [getD_eq_getElem?_getD]
    cases input[index]? <;> rfl
  unfold parseFrame scanFrame
  simp only [valid, type, parseDomainError]
  cases decodeVarint input (frameLengthMaximum limits) with
  | needMore => rfl
  | invalid detail => rfl
  | parsed length lengthBytes =>
    simp only [invalidFrame]
    split
    · rfl
    split
    · rfl
    split
    · rfl
    cases readFrameBody ((input.drop lengthBytes).take length.toNat) with
    | error detail => rfl
    | ok frame =>
      simp only []
      cases channelError frame.type frame.channelId with
      | some detail => rfl
      | none =>
        cases payloadLimitError frame.type frame.payload.length limits <;> rfl

/-- The parser accepts a byte string exactly when it begins with the bytes of
an accepted frame, and then consumes those bytes. -/
theorem parseFrame_eq_parsed_iff {input : List UInt8} :
    parseFrame input limits = .parsed consumed frame ↔
      Accepted limits frame ∧ ∃ rest, input = frameBytes frame ++ rest ∧
        consumed = (frameBytes frame).length := by
  cases valid : validateLimits limits with
  | error error =>
    constructor
    · intro parsed
      simp [parseFrame, valid] at parsed
    · rintro ⟨accepted, -⟩
      simp [accepted.limitsValid] at valid
  | ok _ =>
    have parsed_iff : parseFrame input limits = .parsed consumed frame ↔
        verdict (parseFrame input limits) = .item consumed frame := by
      cases parseFrame input limits <;> simp [verdict]
    rw [parsed_iff, verdict_parseFrame valid, scanFrame_eq_item_iff valid, accepted_iff valid,
      and_assoc]

/-! ### The codec as a bijection -/

/-- Parsing undoes encoding whatever follows the frame, encoding undoes parsing
on the bytes consumed, and so frames and accepted beginnings determine each
other.  Limits that fail validation accept nothing on either side. -/
theorem frame_codec_bijection (limits : Limits) :
    (∀ (frame : Frame) (bytes rest : List UInt8), encodeFrame frame limits = .ok bytes →
      parseFrame (bytes ++ rest) limits = .parsed bytes.length frame) ∧
    (∀ (input : List UInt8) (consumed : Nat) (frame : Frame),
      parseFrame input limits = .parsed consumed frame →
      consumed ≤ input.length ∧ encodeFrame frame limits = .ok (input.take consumed)) ∧
    (∀ (frame frame' : Frame) (bytes : List UInt8), encodeFrame frame limits = .ok bytes →
      encodeFrame frame' limits = .ok bytes → frame = frame') ∧
    (∀ (input input' : List UInt8) (consumed consumed' : Nat) (frame : Frame),
      parseFrame input limits = .parsed consumed frame →
      parseFrame input' limits = .parsed consumed' frame →
      input.take consumed = input'.take consumed') := by
  have parseEncode : ∀ (frame : Frame) (bytes rest : List UInt8),
      encodeFrame frame limits = .ok bytes →
      parseFrame (bytes ++ rest) limits = .parsed bytes.length frame := by
    intro frame bytes rest encoded
    obtain ⟨accepted, rfl⟩ := encodeFrame_eq_ok_iff.mp encoded
    exact parseFrame_eq_parsed_iff.mpr ⟨accepted, rest, rfl, rfl⟩
  have encodeParse : ∀ (input : List UInt8) (consumed : Nat) (frame : Frame),
      parseFrame input limits = .parsed consumed frame →
      consumed ≤ input.length ∧ encodeFrame frame limits = .ok (input.take consumed) := by
    intro input consumed frame parsed
    obtain ⟨accepted, rest, rfl, rfl⟩ := parseFrame_eq_parsed_iff.mp parsed
    rw [take_left]
    exact ⟨by simp, encodeFrame_eq_ok_iff.mpr ⟨accepted, rfl⟩⟩
  refine ⟨parseEncode, encodeParse, ?_, ?_⟩
  · intro frame frame' bytes encoded encoded'
    have parsed := parseEncode frame bytes [] encoded
    rw [parseEncode frame' bytes [] encoded'] at parsed
    injection parsed with _ same
    exact same.symm
  · intro input input' consumed consumed' frame parsed parsed'
    have encoded := (encodeParse input consumed frame parsed).2
    rw [(encodeParse input' consumed' frame parsed').2] at encoded
    injection encoded with same
    exact same.symm

/-- A ping on the control channel, used to run the codec on concrete bytes. -/
def samplePing : Frame where
  type := FrameType.ping.code
  flags := 1
  channelId := 0
  messageId := .filled 7
  payload := [0xaa, 0xbb]

theorem frame_codec_bijection_ping :
    encodeFrame samplePing {} = .ok ([21, 3, 1, 0] ++ replicate 16 7 ++ [0xaa, 0xbb]) ∧
    parseFrame (([21, 3, 1, 0] ++ replicate 16 7 ++ [0xaa, 0xbb]) ++ [0x13, 0x03]) {} =
      .parsed 22 samplePing :=
  ⟨by decide, (frame_codec_bijection {}).1 samplePing _ [0x13, 0x03] (by decide)⟩

end Heyaki
