/-
Purpose: how often a device may guess the pairing password.

A device that failed often enough is not asked again before its wait is over.  A full
table of failures is meant to drop the device that failed longest ago.  It compares the
new record before its time is set, so it drops that one, adds it again and grows.  The
results are about runs in which no new device fails at a full table.

Trusted boundary: `GrantCrypto`, `PairingEnv`
Main exports: `PairingService.GuessRun`, `PairingService.GuessRun.guesses_limited`,
`PairingService.GuessRun.failure_table_overflows`
-/
import Heyaki.Proofs.TrustStore

namespace Heyaki

open Foundation
open Foundation.Machine (Reaches)
open SortedMap

namespace PairingService

/-! ### The wait -/

theorem toNat_doubleWait_iterate (times : Nat) (wait : UInt64) :
    (doubleWait^[times] wait).toNat = min (wait.toNat * 2 ^ times) (2 ^ 64 - 1) := by
  have bound := wait.toNat_lt
  induction times with
  | zero =>
    rw [Function.iterate_zero, id, Nat.pow_zero, Nat.mul_one]
    omega
  | succ times ih =>
    have next : wait.toNat * 2 ^ (times + 1) = wait.toNat * 2 ^ times * 2 := by
      rw [Nat.pow_succ, Nat.mul_assoc]
    rw [Function.iterate_succ_apply', doubleWait, next]
    split_ifs with large
    · have far : 2 ^ 63 - 1 < _ := UInt64.lt_iff_toNat_lt.mp large
      change 2 ^ 64 - 1 = _
      omega
    · have near : _ ≤ 2 ^ 63 - 1 := UInt64.le_iff_toNat_le.mp (UInt64.not_lt.mp large)
      rw [UInt64.toNat_mul]
      change _ * 2 % 2 ^ 64 = _
      omega

theorem toNat_ofInt_of_lt {value : Int} (positive : 0 < value) (small : value < 2 ^ 64) :
    ((UInt64.ofInt value).toNat : Int) = value := by
  unfold UInt64.ofInt
  rw [Int.emod_eq_of_lt positive.le small, UInt64.toNat_ofNat_of_lt' (by change _ < 2 ^ 64; omega)]
  omega

/-- The wait does not leave its 64 bits if the longest wait fits. -/
theorem toNat_backoffWait (config : PairingServiceConfig) (failures : Nat)
    (fits : config.corrected.backoffMax < 2 ^ 64) :
    ((backoffWait config.corrected failures).toNat : Int) = min (config.corrected.backoffBase *
      2 ^ min (failures - config.corrected.failureThreshold) 16) config.corrected.backoffMax := by
  have positive : 0 < config.corrected.backoffBase := by
    unfold PairingServiceConfig.corrected
    dsimp only
    split_ifs <;> omega
  have below : config.corrected.backoffBase ≤ config.corrected.backoffMax := by
    unfold PairingServiceConfig.corrected
    dsimp only
    split_ifs <;> omega
  have base := toNat_ofInt_of_lt positive (by omega)
  have ceiling := toNat_ofInt_of_lt (positive.trans_le below) fits
  unfold backoffWait
  dsimp only
  generalize min (failures - config.corrected.failureThreshold) 16 = times
  have doubled := toNat_doubleWait_iterate times (UInt64.ofInt config.corrected.backoffBase)
  have scaled : ((UInt64.ofInt config.corrected.backoffBase).toNat * 2 ^ times : Nat) =
      config.corrected.backoffBase * 2 ^ times := by
    push_cast
    rw [base]
  split_ifs with le
  · have small := UInt64.le_iff_toNat_le.mp le
    omega
  · have large := UInt64.lt_iff_toNat_lt.mp (UInt64.not_le.mp le)
    omega

/-! ### One evaluation -/

variable (crypto : GrantCrypto) (service : PairingService) (env : PairingEnv)
  (request : PairingRequestBody) (peer : DeviceId) (peerPublicKey : List UInt8)

/-- Whether the password was right, if an evaluation gets to check it. -/
def verdict : Option Bool :=
  if service.profile.pairingPolicy.passwordPairingEnabled ∧ !service.backoffBlocks peer env.now then
    service.profile.passwordVerifier.bind fun verifier =>
      (env.verifyPassword request.passwordUtf8 verifier).toOption
  else none

theorem issueGrant_failures (request : PairingApprovalRequestBody)
    (emptyDetail issuedDetail : String) :
    let after := (issueGrant crypto service env peer peerPublicKey request emptyDetail
      issuedDetail).2
    (after.config, after.failures) = (service.config, service.failures) := by
  unfold issueGrant
  split
  · rfl
  dsimp only
  split
  · rfl
  split
  · rfl
  split
  · rfl
  split
  · rfl
  split
  all_goals
    rename_i stored
    exact congrArg (fun result => (result.2.config, result.2.failures)) stored.symm

theorem evaluate_failures :
    let after := (evaluate crypto service env request peer peerPublicKey).2
    (after.config, after.failures) = (service.config,
      match service.verdict env request peer with
      | none => service.failures
      | some false => (service.recordFailure peer env.now).failures
      | some true => service.failures.erase peer) := by
  unfold evaluate verdict audit
  cases service.profile.pairingPolicy.passwordPairingEnabled with
  | false => rfl
  | true =>
    cases service.backoffBlocks peer env.now with
    | true => rfl
    | false =>
      dsimp only
      cases service.profile.passwordVerifier with
      | none => rfl
      | some verifier =>
        simp only [Bool.not_true, Bool.not_false, and_self, if_true, Option.bind_some]
        cases env.verifyPassword request.passwordUtf8 verifier with
        | error error => rfl
        | ok right =>
          cases right with
          | false => rfl
          | true => exact issueGrant_failures ..

/-- A device that has to wait is denied, whatever its password. -/
theorem evaluate_of_blocks {service : PairingService} {env : PairingEnv} {peer : DeviceId}
    (blocks : service.backoffBlocks peer env.now = true)
    (check : List UInt8 → PasswordVerifier → Except Error Bool) :
    evaluate crypto service { env with verifyPassword := check } request peer peerPublicKey =
      evaluate crypto service env request peer peerPublicKey := by
  unfold evaluate
  dsimp only
  rw [if_pos blocks, if_pos blocks]

/-! ### The table -/

/-- What the table should hold for a device that failed at these times since it last
succeeded, the last one first. -/
def recordOf : List UInt64 → Option FailureRecord
  | [] => none
  | last :: earlier =>
    some { failures := earlier.length + 1, lastFailureUnixMilliseconds := last }

/-- The times of the failures after one more evaluation. -/
def extend (now : UInt64) : Option Bool → List UInt64 → List UInt64
  | none, times => times
  | some false, times => now :: times
  | some true, _ => []

/-- The device has a record, or the table is not full. -/
def Room : Prop :=
  service.failures.find? peer = none → service.failures.size < service.config.failureTableCapacity

instance : Decidable (service.Room peer) := inferInstanceAs (Decidable (_ → _))

variable {service peer} {times : List UInt64}

section

variable (room : service.Room peer) (record : service.failures.find? peer = recordOf times)

include room record

/-- With room for it the table gains a failure and loses nothing. -/
theorem recordFailure_table (now : UInt64) :
    (service.recordFailure peer now).failures.size ≤
        max service.failures.size service.config.failureTableCapacity ∧
      (service.recordFailure peer now).failures.find? peer = recordOf (now :: times) ∧
      ∀ device, device ≠ peer → (service.recordFailure peer now).failures.find? device =
        service.failures.find? device := by
  unfold recordFailure
  dsimp only
  cases times with
  | cons last earlier =>
    rw [recordOf] at record
    rw [record, if_pos Option.isSome_some, if_neg (by simp), record]
    refine ⟨le_max_of_le_left (size_insert_le record), ?_, fun device other => ?_⟩
    · exact find?_insert_self ..
    · rw [find?_insert, if_neg other]
  | nil =>
    have added : (service.failures.insert peer {}).size = service.failures.size + 1 :=
      size_insert_of_absent record
    have less := room record
    have found := find?_insert_self service.failures peer {}
    have below : ¬ (service.failures.insert peer {}).size > service.config.failureTableCapacity := by
      omega
    rw [recordOf] at record
    simp only [record, Option.isSome_none, Bool.false_eq_true, if_false, below, and_false, found]
    refine ⟨le_max_of_le_right ((size_insert_le found).trans ?_), ?_, fun device other => ?_⟩
    · exact added ▸ less
    · exact find?_insert_self ..
    · rw [find?_insert, if_neg other, find?_insert, if_neg other]

/-- With room for it an evaluation changes the record of its device only. -/
theorem evaluate_table :
    let after := (evaluate crypto service env request peer peerPublicKey).2
    after.config = service.config ∧
      after.failures.size ≤ max service.failures.size service.config.failureTableCapacity ∧
      after.failures.find? peer =
        recordOf (extend env.now (service.verdict env request peer) times) ∧
      ∀ device, device ≠ peer → after.failures.find? device = service.failures.find? device := by
  obtain ⟨kept, failures⟩ := Prod.ext_iff.mp
    (evaluate_failures crypto service env request peer peerPublicKey)
  refine ⟨kept, ?_⟩
  dsimp only at failures
  rw [failures]
  cases service.verdict env request peer with
  | none => exact ⟨le_max_left .., record, fun _ _ => rfl⟩
  | some right =>
    cases right with
    | false => exact recordFailure_table room record env.now
    | true =>
      refine ⟨le_max_of_le_left (size_filter_le _ _), find?_erase_self, ?_⟩
      intro device other
      rw [find?_erase, if_neg other]

end

/-! ### Runs -/

/-- One call of `evaluate`. -/
structure Guess where
  env : PairingEnv
  request : PairingRequestBody
  peer : DeviceId
  publicKey : List UInt8

/-- The service with the times at which each device failed since it last succeeded. -/
structure GuessRun where
  service : PairingService
  streak : DeviceId → List UInt64 := fun _ => []

namespace GuessRun

variable {run : GuessRun} {config : PairingServiceConfig} {guess : Guess}

def step (run : GuessRun) (guess : Guess) : GuessRun where
  service := (evaluate crypto run.service guess.env guess.request guess.peer guess.publicKey).2
  streak := Function.update run.streak guess.peer (extend guess.env.now
    (run.service.verdict guess.env guess.request guess.peer) (run.streak guess.peer))

def Starts (config : PairingServiceConfig) (run : GuessRun) : Prop :=
  run.service.config = config.corrected ∧ run.service.failures = {} ∧ run.streak = fun _ => []

/-- A new device finds the table below its capacity, and a wait fits into 64 bits. -/
def Fits (run : GuessRun) (guess : Guess) : Prop :=
  run.service.Room guess.peer ∧ guess.env.now.toNat + run.service.config.backoffMax < 2 ^ 64

instance (run : GuessRun) (guess : Guess) : Decidable (run.Fits guess) :=
  inferInstanceAs (Decidable (_ ∧ _))

/-- The table holds the failures of every device. -/
structure Faithful (config : PairingServiceConfig) (run : GuessRun) : Prop where
  config_eq : run.service.config = config.corrected
  size_le : run.service.failures.size ≤ config.corrected.failureTableCapacity
  record : ∀ device, run.service.failures.find? device = recordOf (run.streak device)

theorem Faithful.step (faithful : Faithful config run) (fits : run.Fits guess) :
    Faithful config (run.step crypto guess) := by
  obtain ⟨kept, size, own, others⟩ := evaluate_table crypto guess.env guess.request guess.publicKey
    fits.1 (faithful.record guess.peer)
  rw [faithful.config_eq] at kept size
  refine ⟨kept, size.trans (max_le faithful.size_le le_rfl), fun device => ?_⟩
  unfold GuessRun.step
  dsimp only
  by_cases same : device = guess.peer
  · rw [same, Function.update_self]
    exact own
  · rw [Function.update_of_ne same]
    exact (others device same).trans (faithful.record device)

theorem faithful_of_run (reached : Reaches (step crypto) (Starts config) Fits run) :
    Faithful config run := by
  apply reached.invariant
  · rintro ⟨service, streak⟩ ⟨made, empty, rfl⟩
    refine ⟨made, ?_, fun device => ?_⟩
    · exact (congrArg size empty).trans_le (Nat.zero_le _)
    · exact congrArg (find? · device) empty
  · intro run guess faithful fits
    exact faithful.step crypto fits

/-- If no new device fails at a full table and no wait leaves 64 bits, then the table is
never above its capacity, no record is ever lost, and a device with enough failures since
its last success is denied, whatever its password, until its wait is over. -/
theorem guesses_limited (reached : Reaches (step crypto) (Starts config) Fits run) :
    run.service.failures.size ≤ config.corrected.failureTableCapacity ∧
    (∀ device, run.service.failures.find? device = recordOf (run.streak device)) ∧
    ∀ guess last earlier, run.Fits guess → run.streak guess.peer = last :: earlier →
      config.corrected.failureThreshold ≤ earlier.length + 1 → last ≤ guess.env.now →
      (guess.env.now.toNat : Int) < last.toNat + min (config.corrected.backoffBase *
        2 ^ min (earlier.length + 1 - config.corrected.failureThreshold) 16)
          config.corrected.backoffMax →
      ∀ check, evaluate crypto run.service { guess.env with verifyPassword := check }
        guess.request guess.peer guess.publicKey =
          evaluate crypto run.service guess.env guess.request guess.peer guess.publicKey := by
  have faithful := faithful_of_run crypto reached
  refine ⟨faithful.size_le, faithful.record, ?_⟩
  intro guess last earlier fits streak enough later early
  have record := faithful.record guess.peer
  have clock := UInt64.le_iff_toNat_le.mp later
  have short := fits.2
  rw [faithful.config_eq] at short
  have wait := toNat_backoffWait config (earlier.length + 1) (by omega)
  apply evaluate_of_blocks
  unfold backoffBlocks
  rw [record, streak, faithful.config_eq]
  refine decide_eq_true ⟨enough, UInt64.lt_iff_toNat_lt.mpr ?_⟩
  dsimp only
  rw [UInt64.toNat_add]
  omega

def wrongGuess (peer : DeviceId) (now : UInt64) : Guess where
  env := { sampleEnv with now := now, verifyPassword := fun _ _ => .ok false }
  request := samplePairing
  peer := peer
  publicKey := sampleKey.val

def initial (capacity : Nat) : GuessRun :=
  { service := { sampleService with
      config := { identity := localDevice, failureTableCapacity := capacity } } }

/-- After three failures the next guess has to wait for a second. -/
theorem guesses_limited_three :
    let run := [wrongGuess peerDevice 1000, wrongGuess peerDevice 2000,
      wrongGuess peerDevice 3000].foldl (step sampleCrypto) (initial 256)
    let guess := wrongGuess peerDevice 3999
    ∀ check, evaluate sampleCrypto run.service { guess.env with verifyPassword := check }
        guess.request guess.peer guess.publicKey =
      evaluate sampleCrypto run.service guess.env guess.request guess.peer guess.publicKey := by
  have start : Starts { identity := localDevice } (initial 256) := ⟨rfl, rfl, rfl⟩
  exact (guesses_limited sampleCrypto ((Reaches.start start).foldl (by decide +kernel))).2.2
    (wrongGuess peerDevice 3999) 3000 [2000, 1000] (by decide +kernel) (by decide +kernel)
    (by decide) (by decide) (by decide)

/-- A table for one device holds two: the second is dropped in its own favour. -/
theorem failure_table_overflows :
    let run := [wrongGuess peerDevice 1000, wrongGuess localDevice 2000].foldl (step sampleCrypto)
      (initial 1)
    Starts { identity := localDevice, failureTableCapacity := 1 } (initial 1) ∧
      run.service.config.failureTableCapacity = 1 ∧ run.service.failures.size = 2 := by
  refine ⟨⟨rfl, rfl, rfl⟩, ?_⟩
  decide +kernel

end GuessRun

end PairingService

end Heyaki
