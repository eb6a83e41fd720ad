/-
Purpose: what a child gets on its standard input.

Offsets are added in 64 bits, so that a slice may end below its start, and a shell that is
told to stop takes part in everything until its child is gone.  Where neither shows, the
child gets what `InputStream` takes, and a break of the input stops the shell for good.

Main exports: `InputStream`, `ShellRun.input_integrity`, `ShellRun.input_after_conflict`
-/
import Heyaki.Client.ShellInput
import Heyaki.Foundation.Machine

namespace Heyaki

open Foundation.Machine (Reaches)

/-- What a child should get.  Offsets do not wrap, and a slice that is neither next nor old,
that is behind the end or that the PTY refuses breaks the input. -/
structure InputStream where
  bytes : List UInt8 := []
  ended : Bool := false
  broken : Bool := false
  closed : Bool := false

def InputStream.take (stream : InputStream) : ShellEvent → InputStream
  | .input offset data written =>
    if stream.closed || stream.broken then stream
    else if stream.ended then { stream with broken := true }
    else if offset.toNat = stream.bytes.length then
      if data = [] ∨ written = true then { stream with bytes := stream.bytes ++ data }
      else { stream with broken := true }
    else if offset.toNat + data.length ≤ stream.bytes.length then stream
    else { stream with broken := true }
  | .eof => { stream with ended := stream.ended || !stream.closed }
  | .close | .exit _ | .spawnFailed _ | .sessionClosed => { stream with closed := true }
  | _ => stream

namespace ShellAction

def stdin : ShellAction → List UInt8
  | .writeStdin data => data
  | _ => []

/-- Neither input for the child nor an error for the peer. -/
def Quiet : ShellAction → Prop
  | .writeStdin _ | .sendError .. => False
  | _ => True

end ShellAction

/-- After `before` an error was sent, the child was told to stop, and only quiet actions
followed. -/
def Stopped (before actions : List ShellAction) : Prop :=
  ∃ status detail after, (∀ action ∈ after, action.Quiet) ∧
    actions = before ++ .sendError status detail :: .terminate detail :: after

/-- A served shell beside what its child should get, with the actions from before the event
that broke the input. -/
structure ShellRun where
  record : ShellRecord := {}
  stream : InputStream := {}
  before : List ShellAction := []

namespace ShellRun

def step (run : ShellRun) (event : ShellEvent) : ShellRun :=
  ⟨run.record.step event, run.stream.take event,
    if run.stream.broken then run.before else run.record.actions⟩

/-- Input without a new byte, and the events that need no error. -/
def Harmless (record : ShellRecord) : ShellEvent → Prop
  | .input offset data _ => record.eofReceived = false ∧
      offset.toNat + data.length ≤ record.nextInputOffset.toNat
  | .signal allowed => allowed = true
  | .output flood => flood = false
  | .spawnFailed _ | .inputRejected => False
  | _ => True

def Fits : ShellEvent → Prop
  | .input offset data _ => offset.toNat + data.length < 2 ^ 64
  | _ => True

/-- No slice ends beyond 64 bits, and from the break of the input to the end of the shell
there are harmless events only. -/
def Orderly (run : ShellRun) (event : ShellEvent) : Prop :=
  Fits event ∧
  (run.stream.broken = true → run.stream.closed = false → Harmless run.record event)

structure Follows (run : ShellRun) : Prop where
  bytes : run.record.actions.flatMap ShellAction.stdin = run.stream.bytes
  closed : run.record.terminal = run.stream.closed
  ended : run.record.eofReceived = run.stream.ended
  next : run.stream.broken = false → run.record.nextInputOffset.toNat = run.stream.bytes.length
  stopped : run.stream.broken = true →
    Stopped run.before run.record.actions ∧ run.record.errorSent = true

variable {record : ShellRecord} {stream : InputStream} {before : List ShellAction}
  {offset : UInt64} {data : List UInt8}

theorem toNat_stop (fits : offset.toNat + data.length < 2 ^ 64) :
    (offset + UInt64.ofNat data.length).toNat = offset.toNat + data.length := by
  rw [UInt64.toNat_add, UInt64.toNat_ofNat_of_lt' (by change _ < 2 ^ 64; omega)]
  exact Nat.mod_eq_of_lt fits

namespace Follows

variable (follows : Follows ⟨record, stream, before⟩)
include follows

theorem act {action : ShellAction} (quiet : action.Quiet) :
    Follows ⟨record.act action, stream, before⟩ := by
  refine { follows with bytes := ?_, stopped := fun broken => ⟨?_, (follows.stopped broken).2⟩ }
  · have nothing : action.stdin = [] := by
      cases action with
      | writeStdin => exact quiet.elim
      | _ => rfl
    simpa [ShellRecord.act, nothing] using follows.bytes
  · obtain ⟨⟨status, detail, after, each, same⟩, -⟩ := follows.stopped broken
    refine ⟨status, detail, after ++ [action], ?_,
      (congrArg (· ++ [action]) same).trans (by simp)⟩
    simpa [or_imp, forall_and] using ⟨each, quiet⟩

theorem close : Follows ⟨record.finishTerminal, { stream with closed := true }, before⟩ :=
  { follows with closed := rfl }

section

variable (whole : stream.broken = false) (status : StableStatus) (detail : String)

include whole status detail

theorem sendError :
    Follows ⟨record.sendError status detail, stream, before⟩ where
  bytes := by simpa [ShellRecord.sendError, ShellRecord.act, ShellAction.stdin] using follows.bytes
  closed := follows.closed
  ended := follows.ended
  next := follows.next
  stopped broken := by cases whole.symm.trans broken

theorem stop :
    Follows ⟨record.stop status detail, stream, before⟩ :=
  (follows.sendError whole status detail).act trivial

theorem breaks (next : UInt64) :
    Follows ⟨{ record with nextInputOffset := next }.stop status detail,
      { stream with broken := true }, record.actions⟩ :=
  { follows.stop whole status detail with
    next := nofun
    stopped := fun _ => ⟨⟨status, detail, [], nofun, List.append_assoc ..⟩, rfl⟩ }

end

end Follows

theorem handleInboundInput_of_old (written : Bool)
    (fits : offset.toNat + data.length < 2 ^ 64)
    (harmless : Harmless record (.input offset data written)) :
    record.handleInboundInput offset data written = record := by
  obtain ⟨noEof, below⟩ := harmless
  have stop := toNat_stop fits
  unfold ShellRecord.handleInboundInput
  rw [if_neg (by simp [noEof])]
  dsimp only
  by_cases next : offset = record.nextInputOffset
  · have empty : data = [] := by
      rw [next] at below
      exact List.eq_nil_of_length_eq_zero (by omega)
    rw [if_pos next, if_pos empty, empty, next]
    simp
  · rw [if_neg next, if_pos (UInt64.le_iff_toNat_le.mpr (by omega))]

theorem Follows.input (follows : Follows ⟨record, stream, record.actions⟩) (written : Bool)
    (fits : offset.toNat + data.length < 2 ^ 64)
    (running : stream.closed = false) (whole : stream.broken = false) :
    Follows ⟨record.handleInboundInput offset data written,
      stream.take (.input offset data written), record.actions⟩ := by
  have next := follows.next whole
  have ended := follows.ended
  have stop := toNat_stop fits
  dsimp only at next ended
  unfold ShellRecord.handleInboundInput InputStream.take
  dsimp only
  rw [if_neg (show ¬ (stream.closed || stream.broken) = true by simp [running, whole])]
  by_cases behind : stream.ended = true
  · rw [if_pos behind, if_pos (ended.trans behind)]
    exact follows.breaks whole ..
  rw [if_neg behind, if_neg (ended ▸ behind)]
  by_cases isNext : offset = record.nextInputOffset
  · have position : offset.toNat = stream.bytes.length := isNext ▸ next
    rw [if_pos isNext, if_pos position]
    rw [position, ← List.length_append] at stop
    by_cases empty : data = []
    · rw [if_pos empty, if_pos (.inl empty)]
      exact { follows with bytes := by simpa [empty] using follows.bytes, next := fun _ => stop }
    rw [if_neg empty]
    by_cases taken : written = true
    · rw [if_pos taken, if_pos (.inr taken)]
      refine ⟨?_, follows.closed, ended, fun _ => stop, fun is => by cases whole.symm.trans is⟩
      simpa [ShellRecord.act, ShellAction.stdin] using follows.bytes
    · rw [if_neg taken, if_neg (not_or.mpr ⟨empty, taken⟩)]
      exact follows.breaks whole ..
  · have elsewhere : offset.toNat ≠ stream.bytes.length := fun same =>
      isNext (UInt64.toNat_inj.mp (same.trans next.symm))
    have below : offset + UInt64.ofNat data.length ≤ record.nextInputOffset ↔
        offset.toNat + data.length ≤ stream.bytes.length := by
      rw [UInt64.le_iff_toNat_le, stop, next]
    rw [if_neg isNext, if_neg elsewhere]
    by_cases old : offset.toNat + data.length ≤ stream.bytes.length
    · rw [if_pos (below.mpr old), if_pos old]
      exact follows
    · rw [if_neg (mt below.mp old), if_neg old]
      exact follows.breaks whole ..

theorem take_of_closed (closed : stream.closed = true) (event : ShellEvent) :
    stream.take event = stream := by
  obtain ⟨bytes, ended, broken, _⟩ := stream
  cases closed
  cases event <;> simp [InputStream.take]

theorem Follows.step {run : ShellRun} (follows : Follows run) {event : ShellEvent}
    (orderly : Orderly run event) : Follows (run.step event) := by
  obtain ⟨record, stream, before⟩ := run
  obtain ⟨fits, calm⟩ := orderly
  dsimp only at calm
  -- While the input is whole, any actions may stand for those before its break.
  have follows : Follows ⟨record, stream, if stream.broken then before else record.actions⟩ := by
    by_cases broken : stream.broken = true
    · rw [if_pos broken]
      exact follows
    · exact { follows with stopped := fun is => absurd is broken }
  unfold ShellRun.step ShellRecord.step
  dsimp only
  cases running : stream.closed with
  | true =>
    rw [if_pos (follows.closed.trans running), take_of_closed running]
    exact follows
  | false =>
  rw [if_neg (by rw [follows.closed, running]; exact Bool.false_ne_true)]
  have whole : ¬ Harmless record event → stream.broken = false := fun harm =>
    Bool.eq_false_iff.mpr fun broken => harm (calm broken running)
  cases event with
  | input offset data written =>
    by_cases broken : stream.broken = true
    · have same : stream.take (.input offset data written) = stream := by
        simp [InputStream.take, broken]
      dsimp only
      rw [handleInboundInput_of_old written fits (calm broken running), same]
      exact follows
    · rw [if_neg broken] at follows ⊢
      exact follows.input written fits running (Bool.eq_false_iff.mpr broken)
  | eof =>
    dsimp only
    unfold ShellRecord.handleInboundEof
    by_cases again : record.eofReceived = true
    · rw [if_pos again]
      exact { follows with ended := by simp [InputStream.take, running, again] }
    · rw [if_neg again]
      exact { follows.act (show ShellAction.Quiet .closeStdin from trivial) with
        ended := by simp [InputStream.take, running, ShellRecord.act] }
  | signal allowed =>
    cases allowed with
    | true => exact follows
    | false => exact follows.sendError (whole (by rintro ⟨⟩)) ..
  | output flood =>
    cases flood with
    | true => exact follows.stop (whole (by rintro ⟨⟩)) ..
    | false => exact follows
  | exit reason =>
    refine (Follows.act ?_ (by trivial)).close
    split
    · split
      · exact follows
      · rename_i silent
        exact follows.sendError
          (Bool.eq_false_iff.mpr fun broken => silent (follows.stopped broken).2) ..
    · exact follows
  | spawnFailed detail => exact (follows.sendError (whole id) ..).close
  | inputRejected => exact follows.stop (whole id) ..
  | closeShell => exact follows.act (by trivial)
  | close | sessionClosed => exact (follows.act (by trivial)).close

/-- In an orderly run the child gets what the stream takes, and nothing more is written and
no second error sent once its input has broken. -/
theorem input_integrity {run : ShellRun} (reached : Reaches step (· = {}) Orderly run) :
    run.record.actions.flatMap ShellAction.stdin = run.stream.bytes ∧
      (run.stream.broken = true → Stopped run.before run.record.actions) := by
  have follows : Follows run := by
    apply reached.invariant
    · rintro _ rfl
      exact ⟨rfl, rfl, rfl, fun _ => rfl, nofun⟩
    · intro run event follows orderly
      exact follows.step orderly
  exact ⟨follows.bytes, fun broken => (follows.stopped broken).1⟩

/-- A slice, a gap, an old slice and the exit. -/
def conflict : List ShellEvent :=
  [.input 0 [1, 2] true, .input 9 [3] true, .input 0 [1] true, .exit .terminated]

theorem input_integrity_conflict :
    (conflict.foldl step {}).record.actions.flatMap ShellAction.stdin = [1, 2] ∧
      Stopped (conflict.foldl step {}).before (conflict.foldl step {}).record.actions := by
  have reached : Reaches step (· = {}) Orderly (conflict.foldl step {}) := by
    refine Reaches.foldl (.start rfl) ⟨⟨?_, nofun⟩, ⟨?_, nofun⟩,
      ⟨?_, fun _ _ => ⟨rfl, by decide⟩⟩, ⟨trivial, fun _ _ => trivial⟩, trivial⟩
    all_goals simp [Fits]
  obtain ⟨bytes, stopped⟩ := input_integrity reached
  exact ⟨bytes.trans rfl, stopped rfl⟩

/-- After a gap the next slice is still written and a second error sent, and a slice whose
end wraps passes for an old one. -/
theorem input_after_conflict :
    (let run := [.input 0 [1] true, .input 5 [9] true, .input 1 [2] true,
        .input 5 [9] true].foldl step {};
      run.stream.broken = true ∧ run.stream.bytes = [1] ∧
      run.record.actions = [.writeStdin [1], .sendError .protocolError "input_offset_conflict",
        .terminate "input_offset_conflict", .writeStdin [2],
        .sendError .protocolError "input_offset_conflict", .terminate "input_offset_conflict"]) ∧
    (let run := [.input 0 [1] true, .input 0xffffffffffffffff [2, 3] true].foldl step {};
      run.stream.broken = true ∧ run.record.actions = [.writeStdin [1]]) := by
  decide +kernel

end ShellRun

end Heyaki
