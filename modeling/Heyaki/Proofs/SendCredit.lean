/-
Purpose: the send credit of a stream whose peer may send any window update.

What is sent is covered by what was granted.  The frames of an update are added to
the credit with 64 bits before the sum is cut to 32, so a large grant can lower it.

Main exports: `CreditRun`, `send_credit_kept_iff`
-/
import Heyaki.Proofs.FlowControl

namespace Heyaki

open StreamFrame

variable {limits : ByteStreamLimits} {watch : Watch} {turn after : Turn} {handle : Handle}
  {consumed bytes frames : Nat} {point next last : Handle × List StreamFrame} {granted : Nat × Nat}

/-! ### Spending -/

theorem Spends.trans (one : Spends point next) (two : Spends next last) : Spends point last := by
  obtain ⟨early, outEarly, bytesEarly, framesEarly⟩ := one
  obtain ⟨late, outLate, bytesLate, framesLate⟩ := two
  refine ⟨early ++ late, by rw [outLate, outEarly, List.append_assoc], ?_, ?_⟩
  all_goals
    rw [total_append]
    omega

theorem Actions.spends (actions : Actions limits watch point next) : Spends point next := by
  induction actions with
  | refl => exact .refl _
  | tail _ action ih => exact ih.trans action.effect.spends

/-! ### Runs -/

instance : Decidable (TakesUpdate consumed bytes frames handle) :=
  decidable_of_iff _ ⟨fun ⟨fresh, known, room⟩ => ⟨fresh, known, room⟩,
    fun takes => (⟨takes.fresh, takes.known, takes.room⟩ : _ ∧ _ ∧ _)⟩

/-- What one end of a new stream comes to with writes of its own and any updates of its peer,
and the bytes and frames granted by then. -/
inductive CreditRun (limits : ByteStreamLimits) : Handle × List StreamFrame → Nat × Nat → Prop
  | opened {handle : Handle} {windowBytes windowFrames : Nat} (bytes : UInt64) (frames : UInt32)
      (new : NewHandle windowBytes windowFrames bytes.toNat frames.toNat handle) :
      CreditRun limits (handle, []) (bytes.toNat, frames.toNat)
  | write {turn : Turn} {granted : Nat × Nat} (data : List UInt8) (deadline : Option Nat)
      (run : CreditRun limits turn.point granted) :
      CreditRun limits (asyncWrite limits data deadline turn).point granted
  | update {turn : Turn} {granted : Nat × Nat} (consumed bytes frames : UInt64)
      (run : CreditRun limits turn.point granted) :
      CreditRun limits
        (handleWindowUpdate limits consumed.toNat bytes.toNat frames.toNat turn).point
        (if TakesUpdate consumed.toNat bytes.toNat frames.toNat turn.handle then
          granted + (bytes.toNat, frames.toNat) else granted)

/-- What was sent and what may still be sent was granted. -/
structure Funded (point : Handle × List StreamFrame) (granted : Nat × Nat) : Prop where
  bytes : point.1.send.creditBytes + total dataBytes point.2 ≤ granted.1
  frames : point.1.send.creditFrames + total dataFrames point.2 ≤ granted.2
  small : point.1.send.creditFrames < 2 ^ 32
  idle : Idle point.1
  tidy : Tidy point.1

theorem Funded.actions (funded : Funded point granted) (actions : Actions limits quiet point next) :
    Funded next granted := by
  induction actions with
  | refl => exact funded
  | tail _ action ih =>
    obtain ⟨sent, out, bytes, frames⟩ := Actions.spends (.single action)
    obtain ⟨coversBytes, coversFrames, small, idle, tidy⟩ := ih
    refine ⟨?_, ?_, by omega, idle.action action, tidy.action action⟩
    all_goals
      rw [out, total_append]
      omega

/-- An update that is taken is added to the credit, which is then spent; another one is ignored
or resets the stream. -/
theorem Funded.update (funded : Funded turn.point granted)
    (handled : handleWindowUpdate limits consumed bytes frames turn = after) :
    TakesUpdate consumed bytes frames turn.handle ∧
      Actions limits quiet (grantCredit consumed bytes frames turn.handle, turn.out) after.point ∨
    ¬ TakesUpdate consumed bytes frames turn.handle ∧ Funded after.point granted ∧
      (after = turn ∨ after.handle.state = .reset) ∧
      after.handle.send.creditBytes = turn.handle.send.creditBytes ∧
      after.handle.send.creditFrames = turn.handle.send.creditFrames := by
  have reset (reason : StableStatus) {turn : Turn} (funded : Funded turn.point granted) :
      Funded (handleResetFrameFor reason turn).point granted ∧
      (handleResetFrameFor reason turn).handle.state = .reset ∧
      (handleResetFrameFor reason turn).handle.send = { turn.handle.send with writes := [] } := by
    refine ⟨@Funded.actions limits _ _ _ funded (.single (.reset (.inl trivial))), ?_⟩
    rw [handleResetFrameFor_handle, finishStream_send]
    exact ⟨rfl, rfl⟩
  have outcome : UpdateOutcome limits _ _ _ turn after := handled ▸ handleWindowUpdate_outcome ..
  cases outcome with
  | ignored stale =>
    exact .inr ⟨fun takes => Nat.not_le.mpr stale takes.fresh, funded, .inl rfl, rfl, rfl⟩
  | unknown ahead =>
    obtain ⟨kept, state, send⟩ := reset .protocolError funded
    rw [send]
    exact .inr ⟨fun takes => Nat.not_le.mpr ahead takes.known, kept, .inr state, rfl, rfl⟩
  | overflow exceeds =>
    have marked : Funded ({ turn.handle with
        send := { turn.handle.send with consumedByPeer := consumed }
        violated := true }, turn.out) granted :=
      { funded with tidy := funded.tidy.of_same_writes rfl rfl rfl rfl }
    obtain ⟨kept, state, send⟩ := @reset .resourceExhausted ⟨_, _, turn.replies⟩ marked
    rw [send]
    exact .inr ⟨fun takes => Nat.not_le.mpr exceeds takes.room, kept, .inr state, rfl, rfl⟩
  | granted takes =>
    exact .inl ⟨takes, pumpWrites_actions ⟨_, turn.out, turn.replies⟩ funded.idle (.inl trivial)
      (.inl trivial) (endsSafely_of_forall fun _ => trivial)⟩

theorem CreditRun.funded (run : CreditRun limits point granted) : Funded point granted := by
  induction run with
  | opened bytes frames new =>
    refine ⟨?_, ?_, ?_, .inl ?_, tidy_of_new new⟩
    · rw [new.send]
      exact Nat.le_refl _
    · rw [new.send]
      exact Nat.le_refl _
    · rw [new.send]
      exact frames.toNat_lt
    · rw [new.recv]
  | write data deadline run ih =>
    exact ih.actions (asyncWrite_actions data deadline _ ih.idle ih.tidy.noFin (.inl trivial))
  | @update turn granted consumed bytes frames run ih =>
    rcases ih.update rfl with ⟨takes, actions⟩ | ⟨no, kept, -⟩
    · rw [if_pos takes]
      refine Funded.actions ?_ actions
      refine ⟨?_, ?_, ?_, ih.idle, ih.tidy.of_same_writes rfl rfl rfl rfl⟩
      · have covers : turn.handle.send.creditBytes + total _ turn.out ≤ _ := ih.bytes
        show turn.handle.send.creditBytes + bytes.toNat + total _ turn.out ≤ granted.1 + bytes.toNat
        omega
      · have covers : turn.handle.send.creditFrames + total _ turn.out ≤ _ := ih.frames
        show min (addU64 _ _) _ + total _ turn.out ≤ granted.2 + frames.toNat
        unfold addU64
        omega
      · exact Nat.lt_succ_of_le (Nat.min_le_right _ _)
    · rw [if_neg no]
      exact kept

/-- What is sent is covered by what was granted.  An update that applies adds its bytes, and
it adds its frames, as far as the credit can count them, exactly if their sum with the credit
does not wrap; if it does, the credit is lowered. -/
theorem send_credit_kept_iff (run : CreditRun limits turn.point granted)
    (consumed bytes frames : UInt64)
    (handled : handleWindowUpdate limits consumed.toNat bytes.toNat frames.toNat turn = after) :
    total dataBytes turn.out ≤ granted.1 ∧ total dataFrames turn.out ≤ granted.2 ∧
    (¬ TakesUpdate consumed.toNat bytes.toNat frames.toNat turn.handle →
      (after = turn ∨ after.handle.state = .reset) ∧
      after.handle.send.creditBytes = turn.handle.send.creditBytes ∧
      after.handle.send.creditFrames = turn.handle.send.creditFrames) ∧
    (TakesUpdate consumed.toNat bytes.toNat frames.toNat turn.handle → ∃ sent,
      after.out = turn.out ++ sent ∧
      after.handle.send.creditBytes + total dataBytes sent =
        turn.handle.send.creditBytes + bytes.toNat ∧
      (turn.handle.send.creditFrames ≤ after.handle.send.creditFrames + total dataFrames sent ∧
        after.handle.send.creditFrames + total dataFrames sent =
          min (turn.handle.send.creditFrames + frames.toNat) (2 ^ 32 - 1) ↔
        turn.handle.send.creditFrames + frames.toNat < 2 ^ 64)) := by
  have funded := run.funded
  refine ⟨Nat.le_of_add_left_le funded.bytes, Nat.le_of_add_left_le funded.frames, ?_⟩
  rcases funded.update handled with ⟨takes, actions⟩ | ⟨no, -, kept⟩
  · obtain ⟨sent, out, spentBytes, spentFrames⟩ := Actions.spends actions
    refine ⟨absurd takes, fun _ => ⟨sent, out, spentBytes.symm, ?_⟩⟩
    have small : turn.handle.send.creditFrames < 2 ^ 32 := funded.small
    have added := frames.toNat_lt
    change min (addU64 frames.toNat turn.handle.send.creditFrames) (2 ^ 32 - 1) =
      after.handle.send.creditFrames + _ at spentFrames
    rw [← spentFrames, addU64]
    omega
  · exact ⟨fun _ => kept, fun takes => absurd takes no⟩

/-- The peer has opened a stream with a window of one byte and one frame. -/
def oneFrame : Turn where
  handle := {
    channelId := 3, state := .open, maxPendingReads := 1, maxPendingWrites := 1
    maxPendingWriteBytes := 1, send := { creditBytes := 1, creditFrames := 1 }
    recv := { windowBytes := 8, windowFrames := 2, remainingBytes := 8, remainingFrames := 2 } }

theorem oneFrame_run (limits : ByteStreamLimits) :
    CreditRun limits oneFrame.point ((1 : UInt64).toNat, (1 : UInt32).toNat) :=
  .opened 1 1 ⟨rfl, rfl, .inr rfl, rfl, rfl, rfl, rfl, rfl⟩

/-- The peer grants another frame. -/
theorem send_credit_kept_iff_oneFrame :
    let after := handleWindowUpdate {} 0 0 1 oneFrame
    ∃ sent, after.out = sent ∧ after.handle.send.creditFrames + total dataFrames sent = 2 := by
  obtain ⟨-, -, -, taken⟩ := send_credit_kept_iff (oneFrame_run {}) 0 0 1 rfl
  obtain ⟨sent, out, -, frames⟩ := taken (by decide)
  exact ⟨sent, out, (frames.mpr (by decide)).2⟩

/-- The peer grants all the frames it can write down, and none is left. -/
theorem send_credit_lowered :
    CreditRun {} oneFrame.point ((1 : UInt64).toNat, (1 : UInt32).toNat) ∧
      TakesUpdate 0 0 (2 ^ 64 - 1) oneFrame.handle ∧ oneFrame.handle.send.creditFrames = 1 ∧
      (handleWindowUpdate {} 0 0 (2 ^ 64 - 1) oneFrame).handle.send.creditFrames = 0 :=
  ⟨oneFrame_run {}, by decide, rfl, by decide⟩

end Heyaki
