/-
Purpose: what the incremental decoder reads and what it keeps.

The type byte is read before its arrival is checked, and `append` keeps what it is given.

Main exports: `viewReads_inside_iff`, `decoder_safe_iff`
-/
import Heyaki.Foundation.Machine
import Heyaki.Proofs.FrameStream

namespace Heyaki

open Foundation Foundation.Machine List

variable {limits : Limits} {pending : List UInt8} {beyond : UInt8}

theorem varintReads_le (rounds : Nat) (input : List UInt8) :
    varintReads rounds input ≤ input.length := by
  induction rounds generalizing input with
  | zero => simp [varintReads]
  | succ rounds ih =>
    cases input with
    | nil => simp [varintReads]
    | cons byte rest =>
      have later := ih rest
      simp only [varintReads, length_cons]
      split <;> omega

theorem bodyReads_inside {body : List UInt8} (room : minimumBodySize ≤ body.length) :
    ∀ index ∈ bodyReads body, index < body.length := by
  intro index read
  have channel := varintReads_le maxFrameLengthVarintBytes (body.drop 2)
  simp only [minimumBodySize] at room
  simp only [length_drop] at channel
  unfold bodyReads at read
  rcases mem_append.mp read with front | read
  · simp only [mem_cons, not_mem_nil, or_false] at front
    omega
  split_ifs at read
  · cases read
  rcases mem_append.mp read with varint | read
  · rw [mem_range'_1] at varint
    omega
  split at read
  · cases read
  · cases read
  · split_ifs at read
    · cases read
    · rw [mem_range'_1] at read
      omega

/-- The pending bytes end right behind a length that is within the limit. -/
def EndsBehindLength (limits : Limits) (pending : List UInt8) : Prop :=
  ∃ length : UInt32, pending = appendVarint length ∧ minimumBodySize ≤ length.toNat ∧
    length.toNat ≤ limits.maxFrameBytes

theorem viewReads_inside_iff (valid : validateLimits limits = .ok ()) :
    (∀ index ∈ viewReads limits beyond pending, index < pending.length) ↔
      ¬ EndsBehindLength limits pending := by
  constructor
  · rintro inside ⟨length, rfl, minimum, fits⟩
    have lengthRead := decodeVarint_appendVarint valid fits []
    rw [append_nil] at lengthRead
    refine absurd (inside (appendVarint length).length (mem_append_right _ ?_)) (Nat.lt_irrefl _)
    simp [decodeLengthVarint, lengthRead, Nat.not_lt.mpr minimum]
  · intro whole index read
    rcases mem_append.mp read with varint | read
    · exact Nat.lt_of_lt_of_le (mem_range.mp varint) (varintReads_le _ _)
    unfold decodeLengthVarint at read
    cases lengthRead : decodeVarint pending (frameLengthMaximum limits) with
    | needMore | invalid detail => simp [lengthRead] at read
    | parsed length lengthBytes =>
      rw [lengthRead] at read
      obtain ⟨rest, rfl, fits, rfl⟩ := decodeVarint_eq_parsed_iff.mp lengthRead
      rw [UInt32.le_iff_toNat_le, frameLengthMaximum_toNat valid] at fits
      dsimp only at read
      split_ifs at read with short stop
      · cases read
      · -- the body has not arrived, so only the type byte is read
        obtain rfl := mem_singleton.mp read
        cases rest with
        | cons type rest => simp
        | nil =>
          refine absurd ⟨length, ?_, Nat.not_lt.mp short, fits⟩ whole
          rw [appendVarint_eq_encode, append_nil]
      · rw [not_or, Nat.not_lt] at stop
        have minimum := Nat.not_lt.mp short
        rcases mem_cons.mp read with rfl | read
        · simp only [minimumBodySize] at minimum
          omega
        · obtain ⟨position, body, rfl⟩ := mem_map.mp read
          have inside := bodyReads_inside (by simp at stop ⊢; omega) position body
          simp at inside stop ⊢
          omega

/-! ### Runs of a decoder -/

inductive DecoderCall where
  | append (bytes : List UInt8)
  | nextView (beyond : UInt8)
  | consumeView
  | takeFrame (beyond : UInt8)

namespace FrameStreamDecoder

def call (decoder : FrameStreamDecoder) : DecoderCall → FrameStreamDecoder
  | .append bytes => (decoder.append bytes).2
  | .nextView beyond => (decoder.nextView beyond).2
  | .consumeView => decoder.consumeView.2
  | .takeFrame beyond => (decoder.takeFrame beyond).2

/-- One frame of the greatest size and the bytes of its length. -/
def retention (limits : Limits) : Nat := limits.maxFrameBytes + maxFrameLengthVarintBytes

/-- No byte outside the buffered ones is read, and no more than the retention is kept. -/
def Safe (decoder : FrameStreamDecoder) : DecoderCall → Prop
  | .append bytes => (decoder.append bytes).2.buffer.length ≤ retention decoder.limits
  | .nextView beyond | .takeFrame beyond =>
    ∀ index ∈ decoder.reads beyond, index < decoder.bufferedBytes
  | .consumeView => True

/-- While the decoder is not poisoned, a chunk leaves room for what is buffered, and no view
is asked for right behind a length. -/
def Fits (decoder : FrameStreamDecoder) : DecoderCall → Prop
  | .append bytes => decoder.poisoned = false →
    decoder.bufferedBytes + bytes.length ≤ retention decoder.limits
  | .nextView _ | .takeFrame _ => decoder.poisoned = false →
    ¬ EndsBehindLength decoder.limits (decoder.buffer.drop decoder.offset)
  | .consumeView => True

variable {decoder : FrameStreamDecoder}

/-- The limits are valid and the whole buffer is within the retention. -/
structure Within (limits : Limits) (decoder : FrameStreamDecoder) : Prop where
  limitsEq : decoder.limits = limits
  kept : decoder.buffer.length ≤ retention limits

theorem reads_inside_iff (valid : validateLimits decoder.limits = .ok ()) :
    (∀ index ∈ decoder.reads beyond, index < decoder.bufferedBytes) ↔
      (decoder.poisoned = false →
        ¬ EndsBehindLength decoder.limits (decoder.buffer.drop decoder.offset)) := by
  unfold reads
  rw [bufferedBytes, ← length_drop]
  cases poisoned : decoder.poisoned with
  | true => simp
  | false =>
    rw [if_neg (by simp [valid]), viewReads_inside_iff valid]
    simp

theorem buffer_append (valid : validateLimits decoder.limits = .ok ()) (bytes : List UInt8) :
    (decoder.append bytes).2.buffer.length =
      if decoder.poisoned then decoder.buffer.length
      else decoder.bufferedBytes + bytes.length := by
  unfold append
  cases decoder.poisoned with
  | true => rfl
  | false => simp [valid, bufferedBytes]

theorem safe_iff_fits (valid : validateLimits limits = .ok ()) (within : Within limits decoder)
    (event : DecoderCall) : decoder.Safe event ↔ decoder.Fits event := by
  obtain ⟨rfl, kept⟩ := within
  cases event with
  | append bytes =>
    rw [Safe, Fits, buffer_append valid]
    cases decoder.poisoned with
    | true => simpa using kept
    | false => simp
  | nextView beyond | takeFrame beyond => exact reads_inside_iff valid
  | consumeView => exact Iff.rfl

section

variable (within : Within limits decoder)

include within

theorem Within.nextView (beyond : UInt8) :
    Within limits (decoder.nextView beyond).2 := by
  unfold FrameStreamDecoder.nextView
  split_ifs
  · exact within
  split
  · exact ⟨within.1, within.2⟩
  split
  · exact within
  · exact ⟨within.1, within.2⟩
  · exact ⟨within.1, within.2⟩

theorem Within.consumeView :
    Within limits decoder.consumeView.2 := by
  unfold FrameStreamDecoder.consumeView
  split
  · exact within
  split_ifs
  · exact ⟨within.1, Nat.zero_le _⟩
  · exact ⟨within.1, within.2⟩

theorem Within.call (event : DecoderCall)
    (safe : decoder.Safe event) : Within limits (decoder.call event) := by
  cases event with
  | append bytes =>
    refine ⟨?_, within.limitsEq ▸ safe⟩
    rw [← within.limitsEq, FrameStreamDecoder.call, append]
    split_ifs
    · rfl
    · split <;> rfl
  | nextView beyond => exact within.nextView beyond
  | consumeView => exact within.consumeView
  | takeFrame beyond =>
    have viewed := within.nextView beyond
    rw [FrameStreamDecoder.call, takeFrame]
    generalize decoder.nextView beyond = step at viewed ⊢
    obtain ⟨reply, after⟩ := step
    cases reply with
    | needMore | invalid error => exact viewed
    | parsed total frame =>
      have consumed := viewed.consumeView
      dsimp only
      split <;> simp_all

end

theorem eachSafe_iff (valid : validateLimits limits = .ok ()) (within : Within limits decoder)
    (calls : List DecoderCall) :
    EachAllowed call Safe decoder calls ↔ EachAllowed call Fits decoder calls := by
  induction calls generalizing decoder with
  | nil => exact Iff.rfl
  | cons event calls ih =>
    have here := safe_iff_fits valid within event
    constructor
    · intro ⟨safe, later⟩
      exact ⟨here.mp safe, (ih (within.call event safe)).mp later⟩
    · intro ⟨fits, later⟩
      exact ⟨here.mpr fits, (ih (within.call event (here.mpr fits))).mpr later⟩

end FrameStreamDecoder

open FrameStreamDecoder

/-- In a run of a new decoder every call is safe exactly when every call meets the condition
on the decoder before it. -/
theorem decoder_safe_iff (limits : Limits) (valid : validateLimits limits = .ok ())
    (calls : List DecoderCall) :
    EachAllowed call Safe { limits } calls ↔ EachAllowed call Fits { limits } calls :=
  eachSafe_iff valid ⟨rfl, Nat.zero_le _⟩ calls

theorem decoder_safe_ping :
    EachAllowed call Safe { limits := {} }
      [.append (frameBytes samplePing), .takeFrame 0] := by
  refine (decoder_safe_iff {} (by decide) _).mpr ⟨fun _ => by decide, fun _ behind => ?_, trivial⟩
  obtain ⟨length, same, -, -⟩ := behind
  have short := congrArg List.length same
  rw [appendVarint_eq_encode] at short
  have fits := Varint.encode_length_le 4 length.toNat (by have := length.toNat_lt; omega)
  exact absurd (short ▸ fits) (by decide)

/-- The first byte of a ping is its length: the type byte behind it is read before it is
there.  A chunk above the retention is kept. -/
theorem decoder_unsafe_length :
    ¬ EachAllowed call Safe { limits := {} }
        [.append [21], .nextView 0] ∧
      ¬ EachAllowed call Safe { limits := {} }
        [.append (replicate (retention {} + 1) 0)] := by
  constructor
  · intro safe
    exact absurd (safe.2.1 1 (by decide)) (by decide)
  · intro safe
    have kept := safe.1
    rw [Safe, buffer_append (by decide)] at kept
    simp [bufferedBytes] at kept

end Heyaki
