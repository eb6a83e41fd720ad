/-
Purpose: when the sender of a file asks for the verdict.

FILE_COMPLETE is sent once as many digests came back as the file has chunks.  A chunk that
the receiver's bitmap names is skipped and never counted, so that a resumed transfer does
not get there.  The request is sent in those runs in which every bitmap names only chunks
that were read before.

Main exports: `FileSendSlot.Settled`, `FileSendSlot.settled_sends_complete`,
`FileSendSlot.resumed_never_completes`
-/
import Heyaki.Client.FileSender
import Heyaki.Foundation.Machine

namespace Heyaki

open Foundation.Machine (EachAllowed Reaches)
open List

namespace FileSender

/-- What the counters of a sender say, with the number of its digests under way. -/
structure Counted (hashing : Nat) (sender : FileSender) : Prop where
  present : sender.accepted = true → ∀ index ∈ sender.presentChunks, index < sender.nextReadChunk
  hashed : sender.nextReadChunk ≤ sender.chunksHashed + hashing
  probing : sender.probeInFlight = true → sender.nextReadChunk = 0
  reading : sender.readInFlight = true → sender.probeInFlight = false
  promised : sender.completeSent = true → 0 < sender.completeFrames ∨ sender.completeDeferred = true

/-- A sender that has sent everything has asked for the verdict. -/
structure Sound (hashing : Nat) (sender : FileSender) : Prop extends Counted hashing sender where
  complete : sender.window = [] → sender.size ≠ 0 → sender.chunkCount ≤ sender.nextReadChunk →
    hashing = 0 → sender.completeSent = true

variable {config : FileSendConfig} {hashing : Nat} {sender after : FileSender}
  {answers rest : List SendAnswer} {dispatched : Bool} {env : SendEnv}

theorem sendComplete_cases (done : sender.sendComplete answers = some (after, rest)) :
    after = { sender with
        completeDeferred := false, completeFrames := sender.completeFrames + 1 } ∨
      after = { sender with completeDeferred := true } := by
  unfold sendComplete at done
  split at done
  · cases done
    exact .inl rfl
  · cases done
    exact .inr rfl
  · cases done

/-- The window ends empty only where the counters were compared. -/
theorem Counted.drainFrom (counted : Counted hashing sender) (staged : List (Nat × List UInt8))
    (done : sender.drainFrom staged answers = some (after, rest)) : Sound hashing after := by
  induction staged generalizing sender answers with
  | nil =>
    unfold drainFrom finishDrain at done
    split_ifs at done with due
    · rcases sendComplete_cases done with rfl | rfl
      · exact { counted with
          promised := fun _ => .inl (Nat.succ_pos _), complete := fun _ _ _ _ => rfl }
      · exact { counted with promised := fun _ => .inr rfl, complete := fun _ _ _ _ => rfl }
    · cases done
      refine { counted with complete := fun _ offered read idle => ?_ }
      have hashed := counted.hashed
      rw [idle, Nat.add_zero] at hashed
      by_contra unsent
      exact due ⟨offered, le_trans read hashed, Bool.eq_false_of_not_eq_true unsent⟩
  | cons chunk staged ih =>
    unfold drainFrom at done
    split at done
    · cases done
      exact { counted with complete := fun empty => absurd empty (cons_ne_nil _ _) }
    · cases done
    · apply ih _ done
      exact { counted with }

theorem skipPresent_of_read {present : List Nat} {next : Nat}
    (read : ∀ index ∈ present, index < next) (left : Nat) :
    skipPresent present left next = next := by
  cases left with
  | zero => rfl
  | succ left =>
    have absent : present.contains next = false := by
      apply Bool.eq_false_of_not_eq_true
      intro member
      exact lt_irrefl next (read next (contains_iff_mem.mp member))
    rw [skipPresent, absent, if_neg Bool.false_ne_true]

theorem Sound.startNextRead (sound : Sound hashing sender)
    (done : sender.startNextRead config dispatched answers = some (after, rest)) :
    Sound hashing after := by
  unfold FileSender.startNextRead at done
  by_cases gate : (!sender.accepted || sender.paused || sender.readInFlight ||
      sender.probeInFlight || sender.size == 0) = true
  · rw [if_pos gate] at done
    cases done
    exact sound
  · rw [if_neg gate] at done
    simp only [Bool.or_eq_true, not_or, Bool.not_eq_true, Bool.not_eq_false'] at gate
    dsimp only at done
    rw [skipPresent_of_read (sound.present gate.1.1.1.1)] at done
    split_ifs at done
    · exact sound.toCounted.drainFrom _ done
    · cases done
      exact sound
    · cases done
      exact { sound with reading := fun _ => gate.1.2 }

theorem Counted.drainAndRead (counted : Counted hashing sender)
    (done : sender.drainAndRead config dispatched answers = some (after, rest)) :
    Sound hashing after := by
  obtain ⟨⟨drained, left⟩, first, second⟩ := Option.bind_eq_some_iff.mp done
  exact (counted.drainFrom _ first).startNextRead second

theorem Sound.prune (sound : Sound hashing sender) (done : sender.prune config env = some after) :
    Sound hashing after := by
  unfold FileSender.prune at done
  split_ifs at done
  · cases done
    exact sound
  obtain ⟨⟨drained, answers⟩, first, second⟩ := Option.bind_eq_some_iff.mp done
  have kept := sound.toCounted.drainAndRead first
  dsimp only at second
  split_ifs at second
  · obtain ⟨⟨sent, rest⟩, request, rfl⟩ := Option.map_eq_some_iff.mp second
    rcases sendComplete_cases request with rfl | rfl
    · exact { kept with promised := fun _ => .inl (Nat.succ_pos _) }
    · exact { kept with promised := fun _ => .inr rfl }
  · cases second
    exact kept

/-- A file has at least one chunk: the limits keep the count from wrapping. -/
theorem chunkCountOf_pos {size : Nat} (valid : validateLimits config.limits = .ok ())
    (nonempty : size ≠ 0) (fits : size ≤ config.limits.maxFileBytes)
    (large : minFileChunkSize ≤ chunkSizeFor config size) :
    0 < chunkCountOf size (chunkSizeFor config size) := by
  rw [validateLimits_eq_ok_iff] at valid
  simp only [limitChecks, forall_mem_cons] at valid
  obtain ⟨-, -, -, -, -, -, -, -, -, file, -, chunk, -⟩ := valid
  have below : chunkSizeFor config size ≤ config.limits.maxFileChunkBytes :=
    (Nat.min_le_left _ _).trans (Nat.min_le_left _ _)
  simp only [outside, Bool.or_eq_false_iff, decide_eq_false_iff_not] at file chunk
  simp only [gib, mib, kib, minFileChunkSize] at file chunk large
  unfold chunkCountOf
  rw [Nat.mod_eq_of_lt (by omega)]
  exact Nat.div_pos (by omega) (by omega)

theorem Sound.finishProbe (sound : Sound hashing sender)
    (valid : validateLimits config.limits = .ok ()) {size : Option Nat}
    (done : sender.finishProbe config size env = some after) : Sound hashing after := by
  unfold FileSender.finishProbe at done
  by_cases idle : (!sender.probeInFlight) = true
  · rw [if_pos idle] at done
    cases done
    exact sound
  · rw [if_neg idle] at done
    obtain ⟨size, rfl, offered⟩ := Option.bind_eq_some_iff.mp done
    dsimp only at offered
    split_ifs at offered with unfit
    cases offered
    simp only [not_or, Nat.not_lt] at unfit
    have many := chunkCountOf_pos valid unfit.2.2.1 unfit.2.2.2 unfit.1
    refine { sound with
      probing := fun probing => Bool.noConfusion probing
      reading := fun _ => rfl
      complete := fun _ _ read _ => ?_ }
    have start := sound.probing (by simpa using idle)
    exact absurd (start ▸ read) (Nat.not_le_of_lt many)

end FileSender

open FileSender

namespace FileSendSlot

/-- The digests under way for the sender that the slot has now. -/
def own (slot : FileSendSlot) : Nat := slot.hashing.countP (·.sender == slot.serial)

def Kept (slot : FileSendSlot) : Prop := ∀ sender, slot.sender = some sender → Sound slot.own sender

/-- A bitmap names only chunks that the sender has read. -/
def NamesRead (slot : FileSendSlot) : Event → Prop
  | .accept present _ => ∀ sender, slot.sender = some sender →
      ∀ index ∈ present, index < sender.nextReadChunk
  | _ => True

variable {config : FileSendConfig} {slot : FileSendSlot} {sender : FileSender} {event : Event}

theorem Kept.finishRead (sound : Sound slot.own sender) (kept : slot.Kept)
    (data : Option (List UInt8)) (dispatched : Bool) :
    (slot.finishRead sender data dispatched).Kept := by
  unfold FileSendSlot.finishRead
  split_ifs with idle
  · exact kept
  cases data with
  | none => rintro _ ⟨⟩
  | some data =>
    dsimp only
    split_ifs
    · rintro _ ⟨⟩
    rintro _ ⟨⟩
    have reading := sound.reading (by simpa using idle)
    have more : (slot.hashing ++ [HashTask.mk slot.serial
        (sender.nextReadChunk * sender.chunkSize) data]).countP (·.sender == slot.serial) =
          slot.own + 1 := by
      simp [own]
    have counted : Sound (slot.own + 1) { sender with
        readInFlight := false, nextReadChunk := sender.nextReadChunk + 1 } :=
      { sound with
        present := fun accepted index member =>
          Nat.lt_succ_of_lt (sound.present accepted index member)
        hashed := Nat.succ_le_succ sound.hashed
        probing := fun probing => absurd (reading.symm.trans probing) Bool.false_ne_true
        reading := fun reading => Bool.noConfusion reading
        complete := fun _ _ _ none => absurd none (Nat.succ_ne_zero _) }
    exact Eq.subst (motive := (Sound · _)) more.symm counted

/-- A digest that comes back is counted, whichever sender it was made for. -/
theorem Sound.finishSendHash {less : Nat} {task : HashTask} {env : SendEnv} {after : FileSender}
    (sound : Sound slot.own sender) (one : slot.own ≤ less + 1)
    (done : finishSendHash config sender task env = some after) : Sound less after := by
  obtain ⟨⟨sent, rest⟩, drained, rfl⟩ := Option.map_eq_some_iff.mp done
  apply Counted.drainAndRead _ drained
  have hashed := sound.hashed
  exact { sound with hashed := (by dsimp only; omega) }

theorem own_eraseIdx (slot : FileSendSlot) (index : Nat) :
    slot.own ≤ (slot.hashing.eraseIdx index).countP (·.sender == slot.serial) + 1 := by
  by_cases inside : index < slot.hashing.length
  · have split := congrArg (countP (·.sender == slot.serial))
      (take_append_drop index slot.hashing)
    rw [eraseIdx_eq_take_drop_succ, countP_append]
    rw [drop_eq_getElem_cons inside, countP_append, countP_cons] at split
    unfold own
    split_ifs at split <;> omega
  · rw [eraseIdx_of_length_le (Nat.le_of_not_lt inside)]
    exact Nat.le_succ _

/-- A sender as `push_file` makes it. -/
theorem sound_pushed (hashing : Nat) (present : List Nat) :
    Sound hashing { presentChunks := present } where
  present accepted := Bool.noConfusion accepted
  hashed := Nat.zero_le _
  probing _ := rfl
  reading reading := Bool.noConfusion reading
  promised sent := Bool.noConfusion sent
  complete _ offered := absurd rfl offered

theorem Kept.stepOf (valid : validateLimits config.limits = .ok ()) (live : slot.sender = some sender)
    (kept : slot.Kept) (names : slot.NamesRead event) :
    (slot.step config event).Kept := by
  have sound := kept sender live
  obtain ⟨serial, owner, hashing⟩ := slot
  cases live
  cases event with
  | push present dispatched => exact kept
  | probed size env =>
    intro after done
    exact sound.finishProbe valid done
  | staleProbe =>
    rintro after ⟨⟩
    exact { sound with
      probing := fun probing => Bool.noConfusion probing, reading := fun _ => rfl }
  | accept present env =>
    intro after done
    have told : handleInboundAccept config sender present env = some after := done
    unfold handleInboundAccept at told
    split_ifs at told
    obtain ⟨⟨read, rest⟩, started, rfl⟩ := Option.map_eq_some_iff.mp told
    apply Sound.startNextRead _ started
    exact { sound with present := fun _ => names sender rfl }
  | read data env => exact Kept.finishRead sound kept data env.dispatched
  | hashed index env =>
    unfold FileSendSlot.step
    dsimp only
    split
    · exact kept
    · intro after done
      exact Sound.finishSendHash sound (own_eraseIdx _ index) done
  | pause =>
    rintro after ⟨⟩
    exact { sound with }
  | resume env =>
    intro after done
    have told : resume config sender env = some after := done
    unfold resume at told
    by_cases running : (!sender.paused) = true
    · rw [if_pos running] at told
      cases told
      exact sound
    · rw [if_neg running] at told
      obtain ⟨⟨read, rest⟩, drained, rfl⟩ := Option.map_eq_some_iff.mp told
      apply Counted.drainAndRead _ drained
      exact { sound with }
  | prune env =>
    intro after done
    exact sound.prune done
  | ended => rintro _ ⟨⟩

theorem Kept.step (valid : validateLimits config.limits = .ok ()) (kept : slot.Kept)
    (names : slot.NamesRead event) : (slot.step config event).Kept := by
  cases live : slot.sender with
  | some sender => exact Kept.stepOf valid live kept names
  | none =>
    obtain ⟨serial, owner, hashing⟩ := slot
    cases live
    cases event with
    | push present dispatched =>
      cases dispatched with
      | false => rintro _ ⟨⟩
      | true =>
        rintro _ ⟨⟩
        exact sound_pushed _ present
    | hashed index env =>
      unfold FileSendSlot.step
      dsimp only
      split
      · exact kept
      · rintro _ ⟨⟩
    | _ => exact kept

/-- Nothing is left to read, to hash or to send. -/
structure Settled (slot : FileSendSlot) (sender : FileSender) : Prop where
  live : slot.sender = some sender
  accepted : sender.accepted = true
  offered : sender.size ≠ 0
  window : sender.window = []
  reads : sender.readInFlight = false
  hashes : ∀ task ∈ slot.hashing, task.sender ≠ slot.serial
  chunks : ∀ index < sender.chunkCount, index ∉ sender.presentChunks → index < sender.nextReadChunk

section

variable (settled : slot.Settled sender) (sent : sender.completeSent = true) (read : sender.chunkCount ≤ sender.nextReadChunk)

include settled sent read

theorem Settled.drainAndRead (dispatched : Bool) (answers : List SendAnswer) :
    sender.drainAndRead config dispatched answers = some (sender, answers) := by
  have drained : sender.drainWindow answers = some (sender, answers) := by
    unfold drainWindow
    rw [settled.window, drainFrom, finishDrain,
      if_neg (by simp [sent]), ← settled.window]
  have started : sender.startNextRead config dispatched answers = some (sender, answers) := by
    unfold startNextRead
    split
    · rfl
    · rw [Nat.sub_eq_zero_of_le read]
      exact (if_pos read).trans drained
  rw [FileSender.drainAndRead, drained]
  exact started

/-- A request that the session refused goes out with the next prune it has room for. -/
theorem Settled.retried (deferred : sender.completeDeferred = true)
    (running : sender.paused = false) (env : SendEnv) :
    ∃ after, (slot.step config (.prune { env with answers := [.sent] })).sender = some after ∧
      0 < after.completeFrames := by
  refine ⟨{ sender with
    completeDeferred := false, completeFrames := sender.completeFrames + 1 }, ?_, Nat.succ_pos _⟩
  obtain ⟨serial, owner, hashing⟩ := slot
  cases settled.live
  have pruned : sender.prune config { env with answers := [.sent] } = some { sender with
      completeDeferred := false, completeFrames := sender.completeFrames + 1 } := by
    unfold prune
    rw [if_neg (by simp [running]), if_neg (by simp [settled.accepted]),
      settled.drainAndRead sent read, Option.bind_eq_bind, Option.bind_some]
    exact if_pos deferred
  exact pruned

end

/-- A sender that has read, hashed and sent every chunk its receiver lacks has asked for the
verdict. -/
theorem settled_sends_complete (valid : validateLimits config.limits = .ok ())
    (run : Reaches (step config) (· = {}) NamesRead slot) (settled : slot.Settled sender) :
    sender.completeSent = true ∧ (0 < sender.completeFrames ∨
      sender.completeDeferred = true ∧ (sender.paused = false → ∀ env : SendEnv,
        ∃ after, (slot.step config (.prune { env with answers := [.sent] })).sender = some after ∧
          0 < after.completeFrames)) := by
  have kept : slot.Kept := by
    apply run.invariant
    · rintro _ rfl _ ⟨⟩
    · intro slot event kept names
      exact kept.step valid names
  have sound := kept sender settled.live
  have idle : slot.own = 0 := by
    rw [own, countP_eq_zero]
    intro task member
    exact fun same => settled.hashes task member (beq_iff_eq.mp same)
  have read : sender.chunkCount ≤ sender.nextReadChunk := by
    by_contra less
    have next := Nat.lt_of_not_le less
    by_cases present : sender.nextReadChunk ∈ sender.presentChunks
    · exact lt_irrefl _ (sound.present settled.accepted _ present)
    · exact lt_irrefl _ (settled.chunks _ next present)
  have sent := sound.complete settled.window settled.offered read idle
  refine ⟨sent, (sound.promised sent).imp_right fun deferred => ⟨deferred, ?_⟩⟩
  intro running env
  exact settled.retried sent read deferred running env

/-! ### A resumed transfer -/

def smallChunks : FileSendConfig := { maxMessageBytes := 4156 }

/-- Two chunks, of which the receiver has the first. -/
def resumedEvents : List Event := [
  .push [0] true, .probed (some 4097) { answers := [.sent] }, .accept [0] {}, .read (some [7]) {},
  .hashed 0 { answers := [.sent, .sent] }]

def resumedSlot : FileSendSlot := resumedEvents.foldl (step smallChunks) {}

/-- The chunk that the receiver lacks was sent; no prune ever asks for the verdict. -/
theorem resumed_never_completes :
    ∃ sender, resumedSlot.Settled sender ∧ sender.completeSent = false ∧
      ∀ env, step smallChunks resumedSlot (.prune env) = resumedSlot := by
  refine ⟨{
    size := 4097, chunkSize := 4096, chunkCount := 2, presentChunks := [0], nextReadChunk := 2
    bytesAdmitted := 1, probeInFlight := false, chunksHashed := 1, accepted := true },
    ⟨?_, rfl, ?_, rfl, rfl, ?_, ?_⟩, rfl, ?_⟩
  · decide +kernel
  · decide
  · decide +kernel
  · decide
  · intro env
    rfl

def freshEvents : List Event := [
  .push [] true, .probed (some 1) { answers := [.sent] }, .accept [] {}, .read (some [7]) {},
  .hashed 0 { answers := [.sent, .sent] }]

def freshSender : FileSender where
  size := 1
  chunkSize := 4096
  chunkCount := 1
  nextReadChunk := 1
  bytesAdmitted := 1
  probeInFlight := false
  completeSent := true
  chunksHashed := 1
  accepted := true
  completeFrames := 1

theorem freshEvents_settled : (freshEvents.foldl (step smallChunks) {}).Settled freshSender :=
  ⟨by decide +kernel, rfl, by decide, rfl, rfl, by decide +kernel, by decide⟩

theorem settled_sends_complete_fresh :
    (freshEvents.foldl (step smallChunks) {}).Settled freshSender ∧
      freshSender.completeSent = true := by
  have names : EachAllowed (step smallChunks) NamesRead {} freshEvents :=
    ⟨trivial, trivial, fun _ _ _ member => absurd member not_mem_nil, trivial, trivial, trivial⟩
  exact ⟨freshEvents_settled, (settled_sends_complete validateLimits_default
    (Reaches.foldl (.start rfl) names) freshEvents_settled).1⟩

end FileSendSlot

end Heyaki
