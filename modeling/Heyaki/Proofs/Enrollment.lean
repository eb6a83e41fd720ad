/-
Purpose: what a completion of an enrollment leaves in the database, whichever call into it
fails.

The use of a token and the device are written in two transactions.  If the first commits
and the second does not, the completion fails with the use gone.

Main exports: `RelayEnrollmentService.Completes`, `RelayEnrollmentService.all_or_nothing_iff`,
`RelayEnrollmentService.token_lost_on_failure`
-/
import Heyaki.Proofs.RelayDatabase
import Heyaki.Relay.EnrollmentService

namespace Heyaki

open Foundation (SortedMap)
open Foundation.Transaction RelayDatabase

namespace RelayEnrollmentService

variable {service : RelayEnrollmentService} {crypto : EnrollmentCrypto} {database : RelayDatabase}
  {faults : CompletionFaults} {request : EnrollmentRequest} {steadyNow : Int} {now : UInt64}
  {challenge : EnrollmentChallenge} {value : Unit} {consumption : Option RelayBootstrapConsumption}
  {after final : RelayDatabase} {existing : Option RelayDeviceRecord}

/-! ### What a valid request says -/

structure Authentic (crypto : EnrollmentCrypto) (request : EnrollmentRequest) : Prop where
  device : request.deviceId.isZero = false
  key : allZero request.identityPublicKey.val = false
  derived : (crypto.deriveDeviceId request.identityPublicKey).toOption = some request.deviceId

theorem authentic_of_valid
    (valid : validateEnrollmentRequest crypto.toIdentityCrypto request challenge now = .ok value) :
    Authentic crypto request := by
  unfold validateEnrollmentRequest at valid
  rw [guard_eq_ok, bind_eq_ok] at valid
  obtain ⟨shape, bound, binding, -⟩ := valid
  simp only [Bool.or_eq_true, not_or, Bool.not_eq_true] at shape
  obtain ⟨⟨⟨⟨⟨⟨⟨⟨⟨device, -⟩, key⟩, -⟩, -⟩, -⟩, -⟩, -⟩, -⟩, -⟩ := shape
  unfold validateBinding at binding
  rw [guard_eq_ok] at binding
  exact ⟨device, key, not_not.mp binding.1⟩

/-! ### Spending a use -/

/-- A use is spent, there is none to spend in this mode, or nothing happens. -/
inductive Spending (service : RelayEnrollmentService) (crypto : EnrollmentCrypto)
    (database : RelayDatabase) (faults : SqlFaults) (request : EnrollmentRequest) (now : UInt64) :
    Except Error (Option RelayBootstrapConsumption) × RelayDatabase → Prop
  | spent {hash : RelayBootstrapTokenHash} {row : RelayBootstrapTokenRow}
      (mode : service.config.mode = .token) (healthy : Healthy faults)
      (spendable : Spendable database crypto.toIdentityCrypto request.bootstrapToken request.tenant
        now hash row) :
      Spending service crypto database faults request now
        (.ok (some (consumptionOf row)), database.spent hash row)
  | free (mode : service.config.mode ≠ .token) :
      Spending service crypto database faults request now (.ok none, database)
  | failed (error : Error) (mode : service.config.mode = .token)
      (unspendable : request.deviceId.isZero = false → Healthy faults → ∀ hash row,
        ¬ Spendable database crypto.toIdentityCrypto request.bootstrapToken request.tenant now hash
          row) :
      Spending service crypto database faults request now (.error error, database)

theorem spending_of_spent {faults : SqlFaults}
    {result : Except Error (Option RelayBootstrapConsumption) × RelayDatabase}
    (spent : service.spendToken crypto database faults request now = result) :
    Spending service crypto database faults request now result := by
  subst spent
  unfold spendToken
  split
  · rename_i mode
    unfold consumeBootstrapToken
    rcases commit_cases database (database.consumeTokenBody crypto.toIdentityCrypto faults
      request.bootstrapToken request.tenant request.deviceId now) with
      ⟨error, failed, kept⟩ | ⟨consumption, after, done, left⟩
    · rw [kept]
      refine .failed error mode ?_
      intro device healthy hash row spendable
      have done := consumeTokenBody_eq_ok.mpr ⟨healthy, device, hash, row, spendable, rfl, rfl⟩
      rw [failed] at done
      cases done
    · obtain ⟨healthy, -, hash, row, spendable, rfl, rfl⟩ :=
        consumeTokenBody_eq_ok.mp done
      rw [left]
      exact .spent mode healthy spendable
  · rename_i mode
    exact .free mode

theorem devices_of_spent {faults : SqlFaults}
    (spent : service.spendToken crypto database faults request now = (.ok consumption, after)) :
    after.devices = database.devices := by
  cases spending_of_spent spent with
  | spent => rfl
  | free => rfl

/-! ### What a completion can do -/

def taken (service : RelayEnrollmentService) (request : EnrollmentRequest) (steadyNow : Int) :
    RelayEnrollmentService :=
  { service with challenges := (service.challenges.take request.challengeNonce steadyNow).2 }

/-- The challenge is live and the request passes every check before the first write. -/
structure Checked (service : RelayEnrollmentService) (crypto : EnrollmentCrypto)
    (database : RelayDatabase) (faults : CompletionFaults) (request : EnrollmentRequest)
    (steadyNow : Int) (now : UInt64) (existing : Option RelayDeviceRecord) : Prop where
  live : ∃ challenge, (service.challenges.take request.challengeNonce steadyNow).1 =
    some challenge ∧
    validateEnrollmentRequest crypto.toIdentityCrypto request challenge now = .ok ()
  mode : service.checkMode crypto database faults.password request = .ok ()
  found : database.device faults.device request.deviceId = .ok existing

inductive Completes (service : RelayEnrollmentService) (crypto : EnrollmentCrypto)
    (database : RelayDatabase) (faults : CompletionFaults) (request : EnrollmentRequest)
    (steadyNow : Int) (now : UInt64) : CompletionOutcome → Prop
  | refused (error : Error)
      (unchecked : ∀ existing,
        ¬ Checked service crypto database faults request steadyNow now existing) :
      Completes service crypto database faults request steadyNow now
        { result := .error error, service := service.taken request steadyNow, database := database }
  | known (existing : Option RelayDeviceRecord) (record : RelayDeviceRecord)
      (checked : Checked service crypto database faults request steadyNow now existing)
      (same : alreadyEnrolled existing request = some record)
      (completion : RelayEnrollmentCompletion) :
      Completes service crypto database faults request steadyNow now
        { result := .ok completion, service := service.taken request steadyNow
          database := database }
  | unspent (error : Error) (existing : Option RelayDeviceRecord)
      (checked : Checked service crypto database faults request steadyNow now existing)
      (different : alreadyEnrolled existing request = none) (mode : service.config.mode = .token)
      (unspendable : Healthy faults.consume → ∀ hash row,
        ¬ Spendable database crypto.toIdentityCrypto request.bootstrapToken request.tenant now hash
          row) :
      Completes service crypto database faults request steadyNow now
        { result := .error error, service := service.taken request steadyNow, database := database }
  | lost (error : Error) (existing : Option RelayDeviceRecord)
      (checked : Checked service crypto database faults request steadyNow now existing)
      (different : alreadyEnrolled existing request = none)
      (consumption : Option RelayBootstrapConsumption) (after : RelayDatabase)
      (spent : (service.taken request steadyNow).spendToken crypto database faults.consume request
        now = (.ok consumption, after))
      (failed : after.enrollBody crypto.toIdentityCrypto faults.enroll (newDevice request existing)
        now = .error error) :
      Completes service crypto database faults request steadyNow now
        { result := .error error, consumption := consumption
          service := service.taken request steadyNow, database := after }
  | enrolled (existing : Option RelayDeviceRecord)
      (checked : Checked service crypto database faults request steadyNow now existing)
      (different : alreadyEnrolled existing request = none)
      (consumption : Option RelayBootstrapConsumption) (after final : RelayDatabase)
      (spent : (service.taken request steadyNow).spendToken crypto database faults.consume request
        now = (.ok consumption, after))
      (stored : after.enrollBody crypto.toIdentityCrypto faults.enroll (newDevice request existing)
        now = .ok ((), final)) :
      Completes service crypto database faults request steadyNow now
        { result := .ok { deviceId := request.deviceId, endpointId := request.endpointId
                          tenant := request.tenant, enrollmentGeneration := nextGeneration existing
                          tokenRemainingUsesAfter := consumption.map (·.remainingUsesAfter) }
          consumption := consumption, service := service.taken request steadyNow
          database := final }

theorem checkRequest_eq_ok :
    service.checkRequest crypto database faults request challenge now = .ok existing ↔
      validateEnrollmentRequest crypto.toIdentityCrypto request challenge now = .ok () ∧
        service.checkMode crypto database faults.password request = .ok () ∧
        database.device faults.device request.deviceId = .ok existing := by
  simp only [checkRequest, bind_eq_ok]
  constructor
  · rintro ⟨_, valid, _, mode, found⟩
    exact ⟨valid, mode, found⟩
  · rintro ⟨valid, mode, found⟩
    exact ⟨(), valid, (), mode, found⟩

theorem Checked.authentic
    (checked : Checked service crypto database faults request steadyNow now existing) :
    Authentic crypto request := by
  obtain ⟨challenge, -, valid⟩ := checked.live
  exact authentic_of_valid valid

def ended (service : RelayEnrollmentService)
    (steps : Except Error RelayEnrollmentCompletion × Option RelayBootstrapConsumption ×
      RelayDatabase) : CompletionOutcome :=
  { result := steps.1, consumption := steps.2.1, service := service, database := steps.2.2 }

/-- The second transaction, after the first one has left `after`. -/
theorem enrollRequest_completes
    (checked : Checked service crypto database faults request steadyNow now existing)
    (different : alreadyEnrolled existing request = none) :
    Completes service crypto database faults request steadyNow now
      ((service.taken request steadyNow).ended ((service.taken request steadyNow).enrollRequest
        crypto database faults request existing now)) := by
  unfold enrollRequest
  rcases spent : (service.taken request steadyNow).spendToken crypto database faults.consume
    request now with ⟨error | consumption, after⟩
  · cases spending_of_spent spent with
    | failed _ mode unspendable =>
      exact .unspent error existing checked different mode (unspendable checked.authentic.device)
  -- Whatever was spent, the device is stored or not.
  · dsimp only
    unfold enrollDevice
    rcases commit_cases after (after.enrollBody crypto.toIdentityCrypto faults.enroll
      (newDevice request existing) now) with ⟨error, failed, kept⟩ | ⟨value, final, stored, left⟩
    · rw [kept]
      exact .lost error existing checked different consumption after spent failed
    · rw [left]
      exact .enrolled existing checked different consumption after final spent stored

theorem completeRequest_completes (service : RelayEnrollmentService) (crypto : EnrollmentCrypto)
    (database : RelayDatabase) (faults : CompletionFaults) (request : EnrollmentRequest)
    (steadyNow : Int) (now : UInt64) :
    Completes service crypto database faults request steadyNow now
      (service.completeRequest crypto database faults request steadyNow now) := by
  unfold completeRequest
  dsimp only
  split
  · rename_i unknown
    apply Completes.refused
    rintro existing ⟨⟨challenge, found, -⟩, -, -⟩
    cases unknown.symm.trans found
  rename_i challenge live
  split
  · rename_i error failed
    apply Completes.refused
    rintro existing ⟨⟨other, found, valid⟩, mode, device⟩
    cases live.symm.trans found
    cases failed.symm.trans (checkRequest_eq_ok.mpr ⟨valid, mode, device⟩)
  · rename_i existing checks
    obtain ⟨valid, mode, device⟩ := checkRequest_eq_ok.mp checks
    have checked : Checked service crypto database faults request steadyNow now existing :=
      ⟨⟨challenge, live, valid⟩, mode, device⟩
    unfold admittedRequest
    cases same : alreadyEnrolled existing request with
    | some record => exact .known existing record checked same _
    | none => exact enrollRequest_completes checked same

/-! ### The second transaction -/

section

variable (found : database.device faults.device request.deviceId = .ok existing)

include found

/-- The lookup before the completion gives the generation that the row has. -/
theorem newer_newDevice :
    ∀ row, database.devices.find? request.deviceId = some row →
      row.enrollmentGeneration < (newDevice request existing).enrollmentGeneration := by
  intro row stored
  obtain ⟨-, -, same⟩ := device_eq_ok.mp found
  rw [stored] at same
  subst same
  exact lt_next row

theorem nextGeneration_ne_zero :
    nextGeneration existing ≠ 0 := by
  obtain ⟨-, -, rfl⟩ := device_eq_ok.mp found
  cases database.devices.find? request.deviceId with
  | none => decide
  | some row =>
    have later := lt_next row
    intro zero
    have wrapped : row.enrollmentGeneration + 1 = 0 := zero
    rw [wrapped] at later
    exact absurd later UInt64.not_lt_zero

end

/-- Only the clock can make the record of a valid request invalid. -/
theorem deviceRecordInvalid_newDevice (authentic : Authentic crypto request)
    (tenant : RelayDatabase.validTenant request.tenant = true)
    (generation : nextGeneration existing ≠ 0) (now : UInt64) :
    deviceRecordInvalid (newDevice request existing) now = (now == 0) := by
  have name : RelayDatabase.validTenant ⟨asciiBytes "device"⟩ = true := by
    decide +kernel
  have later : (nextGeneration existing == 0) = false := beq_eq_false_iff_ne.mpr generation
  simp only [deviceRecordInvalid, newDevice, authentic.device, authentic.key, tenant,
    name, later]
  simp

/-- The device is stored if no call fails, the clock is set and the generation fits. -/
def Storable (faults : CompletionFaults) (existing : Option RelayDeviceRecord) (now : UInt64) :
    Prop :=
  Healthy faults.enroll ∧ now ≠ 0 ∧ 0 < (nextGeneration existing).toInt64

theorem enrollBody_newDevice
    (checked : Checked service crypto database faults request steadyNow now existing)
    (tenant : RelayDatabase.validTenant request.tenant = true)
    (same : after.devices = database.devices) :
    after.enrollBody crypto.toIdentityCrypto faults.enroll (newDevice request existing) now =
        .ok (value, final) ↔
      Storable faults existing now ∧ ∃ fits, final = after.stored request.deviceId
        ⟨newDevice request existing, fits⟩ := by
  have invalid := deviceRecordInvalid_newDevice checked.authentic tenant
    (nextGeneration_ne_zero checked.found) now
  by_cases clock : now = 0
  · constructor
    · intro done
      unfold enrollBody at done
      rw [invalid, guard_eq_ok] at done
      exact absurd (beq_iff_eq.mpr clock) done.1
    · rintro ⟨⟨-, set, -⟩, -⟩
      exact absurd clock set
  · have valid : deviceRecordInvalid (newDevice request existing) now = false :=
      invalid.trans (beq_eq_false_iff_ne.mpr clock)
    have newer := newer_newDevice checked.found
    rw [← same] at newer
    refine (enrollBody_of_newer valid checked.authentic.derived newer).trans ?_
    constructor
    · rintro ⟨healthy, fits, stored⟩
      exact ⟨⟨healthy, clock, fits⟩, fits, stored⟩
    · rintro ⟨⟨healthy, -, -⟩, fits, stored⟩
      exact ⟨healthy, fits, stored⟩

theorem tenant_of_enrolled
    (stored : after.enrollBody crypto.toIdentityCrypto faults.enroll (newDevice request existing)
      now = .ok (value, final)) : RelayDatabase.validTenant request.tenant = true := by
  unfold enrollBody at stored
  rw [guard_eq_ok] at stored
  have valid := stored.1
  simp only [deviceRecordInvalid, Bool.or_eq_true, not_or, Bool.not_eq_true',
    Bool.not_eq_false] at valid
  exact valid.1.1.2

/-! ### All or nothing -/

/-- A failure leaves both tables as they were, and a use is spent only with a newer row of
the device. -/
def AllOrNothing (before : RelayDatabase) (outcome : CompletionOutcome) : Prop :=
  (∀ error, outcome.result = .error error →
    outcome.database.devices = before.devices ∧
      outcome.database.bootstrapTokens = before.bootstrapTokens) ∧
  (outcome.database.bootstrapTokens ≠ before.bootstrapTokens →
    ∃ completion row, outcome.result = .ok completion ∧
      outcome.database.devices.find? completion.deviceId = some row ∧
      row.enrollmentGeneration = completion.enrollmentGeneration ∧
      ∀ old, before.devices.find? completion.deviceId = some old →
        old.enrollmentGeneration < row.enrollmentGeneration)

/-- The request passes every check and its token can be spent. -/
structure Spends (service : RelayEnrollmentService) (crypto : EnrollmentCrypto)
    (database : RelayDatabase) (faults : CompletionFaults) (encodedRequest : List UInt8)
    (steadyNow : Int) (now : UInt64) (request : EnrollmentRequest)
    (existing : Option RelayDeviceRecord) : Prop where
  parsed : parseEnrollmentRequest encodedRequest = .ok request
  checked : Checked service crypto database faults request steadyNow now existing
  different : alreadyEnrolled existing request = none
  mode : service.config.mode = .token
  healthy : Healthy faults.consume
  spendable : ∃ hash row,
    Spendable database crypto.toIdentityCrypto request.bootstrapToken request.tenant now hash row

theorem allOrNothing_of_unchanged {outcome : CompletionOutcome}
    (same : outcome.database = database) : AllOrNothing database outcome := by
  subst same
  exact ⟨fun _ _ => ⟨rfl, rfl⟩, fun changed => absurd rfl changed⟩

theorem Checked.existing_eq {one two : Option RelayDeviceRecord}
    (first : Checked service crypto database faults request steadyNow now one)
    (second : Checked service crypto database faults request steadyNow now two) : one = two := by
  obtain ⟨-, -, same⟩ := device_eq_ok.mp first.found
  obtain ⟨-, -, other⟩ := device_eq_ok.mp second.found
  exact same.trans other.symm

theorem spent_ne {hash : RelayBootstrapTokenHash} {row : RelayBootstrapTokenRow}
    (spendable : Spendable database crypto.toIdentityCrypto request.bootstrapToken request.tenant
      now hash row) :
    (database.spent hash row).bootstrapTokens ≠ database.bootstrapTokens := by
  intro same
  have looked := congrArg (fun tokens => SortedMap.find? tokens hash) same
  have after : (database.spent hash row).bootstrapTokens.find? hash =
      some { row with remainingUses := row.remainingUses - 1 } := SortedMap.find?_insert_self _ _ _
  have less : row.remainingUses - 1 = row.remainingUses :=
    congrArg RelayBootstrapTokenRow.remainingUses
      (Option.some.inj (after.symm.trans (looked.trans spendable.found)))
  grind

/-- A completion is all or nothing exactly if, whenever its token can be spent, the device
can be stored as well. -/
theorem all_or_nothing_iff (service : RelayEnrollmentService) (crypto : EnrollmentCrypto)
    (database : RelayDatabase) (faults : CompletionFaults) (encodedRequest : List UInt8)
    (steadyNow : Int) (now : UInt64) :
    AllOrNothing database (service.complete crypto database faults encodedRequest steadyNow now) ↔
      ∀ request existing,
        Spends service crypto database faults encodedRequest steadyNow now request existing →
          Storable faults existing now := by
  unfold complete
  cases parsed : parseEnrollmentRequest encodedRequest with
  | error error =>
    refine iff_of_true (allOrNothing_of_unchanged rfl) ?_
    intro request existing spends
    cases parsed.symm.trans spends.parsed
  | ok request =>
    have completes := completeRequest_completes service crypto database faults request steadyNow now
    dsimp only
    revert completes
    generalize service.completeRequest crypto database faults request steadyNow now = outcome
    intro completes
    cases completes with
    | refused error unchecked =>
      refine iff_of_true (allOrNothing_of_unchanged rfl) ?_
      intro other existing spends
      cases parsed.symm.trans spends.parsed
      exact absurd spends.checked (unchecked existing)
    | known existing record checked same completion =>
      refine iff_of_true (allOrNothing_of_unchanged rfl) ?_
      intro other found spends
      cases parsed.symm.trans spends.parsed
      cases checked.existing_eq spends.checked
      rw [spends.different] at same
      cases same
    | unspent error existing checked different mode unspendable =>
      refine iff_of_true (allOrNothing_of_unchanged rfl) ?_
      intro other found spends
      cases parsed.symm.trans spends.parsed
      obtain ⟨hash, row, spendable⟩ := spends.spendable
      exact absurd spendable (unspendable spends.healthy hash row)
    | lost error existing checked different consumption after spent failed =>
      cases spending_of_spent spent with
      | @spent hash row mode healthy spendable =>
        refine iff_of_false ?_ ?_
        · intro both
          exact spent_ne spendable (both.1 error rfl).2
        · intro storable
          obtain ⟨healthy, clock, fits⟩ := storable request existing
            ⟨parsed, checked, different, mode, healthy, hash, row, spendable⟩
          have same : (database.spent hash row).devices = database.devices := rfl
          have stored : (database.spent hash row).enrollBody crypto.toIdentityCrypto
              faults.enroll (newDevice request existing) now =
              .ok ((), (database.spent hash row).stored request.deviceId
                ⟨newDevice request existing, fits⟩) :=
            (enrollBody_newDevice checked spendable.tenantValid same).mpr
              ⟨⟨healthy, clock, fits⟩, fits, rfl⟩
          rw [failed] at stored
          cases stored
      | free other =>
        refine iff_of_true (allOrNothing_of_unchanged rfl) ?_
        intro _ _ spends
        exact absurd spends.mode other
    | enrolled existing checked different consumption after final spent stored =>
      have tenant := tenant_of_enrolled stored
      have same := devices_of_spent spent
      obtain ⟨storable, fits, rfl⟩ := (enrollBody_newDevice checked tenant same).mp stored
      refine iff_of_true ⟨nofun, fun _ => ?_⟩ ?_
      · refine ⟨_, ⟨newDevice request existing, fits⟩, rfl, ?_, rfl, newer_newDevice checked.found⟩
        exact SortedMap.find?_insert_self _ _ _
      · intro other found spends
        cases parsed.symm.trans spends.parsed
        cases checked.existing_eq spends.checked
        exact storable

/-! ### A use is spent and nobody enrolled -/

open ProtoCodec in
/-- A request that answers the challenge of nonce 5 with a token. -/
def sampleRequest : List UInt8 :=
  appendBytes 1 (appendBytes 1 (List.replicate 32 1) ++ appendBytes 2 (List.replicate 16 2)) ++
    appendBytes 2 (List.replicate 32 4) ++ appendBytes 3 (List.replicate 32 5) ++
    appendBytes 4 (asciiBytes "home") ++ appendBytes 5 (List.replicate 16 0x41) ++
    appendBytes 6 (appendUint 1 1 ++ appendUint 2 0) ++
    appendBytes 7 (appendUint 1 Capability.enrollment.bit ++ appendUint 2 0) ++
    appendUint 8 50000 ++ appendBytes 9 (appendBytes 1 (List.replicate 64 6))

/-- Every signature verifies, every key is that of device 1 and every token has one hash. -/
def sampleCrypto : EnrollmentCrypto where
  verifySignature := fun _ _ _ => true
  deriveDeviceId := fun _ => .ok (Identifier.filled 1)
  sha256 := fun _ => filledBytes 32 9
  verifyPassword := fun _ _ => .ok true

def freshService : RelayEnrollmentService :=
  { relayId := Bytes32.filled 3, config := {}, challenges := { capacity := 256 } }

/-- The service that has issued the nonce 5. -/
def sampleService : RelayEnrollmentService :=
  (freshService.beginChallenge (Bytes32.filled 5) 0 1000).2

def sampleDatabase : RelayDatabase :=
  (createBootstrapToken {} sampleCrypto.toIdentityCrypto (fun _ => false)
    ⟨asciiBytes "home"⟩ (List.replicate 16 0x41) 90000 1 (filledBytes 16 7) 1000).2

/-- The database is locked when the device is about to be stored. -/
def lockedEnroll : CompletionFaults := { enroll := fun call => call == .begin }

/-- The completion fails with the only use of the token gone. -/
theorem token_lost_on_failure :
    let outcome := sampleService.complete sampleCrypto sampleDatabase lockedEnroll sampleRequest
      1000000 2000
    outcome.result = .error (databaseError "relay_database_statement_failed") ∧
      (sampleDatabase.bootstrapTokens.find? (Bytes32.filled 9)).map (·.remainingUses) = some 1 ∧
      (outcome.database.bootstrapTokens.find? (Bytes32.filled 9)).map (·.remainingUses) = some 0 ∧
      (outcome.database.devices.find? (Identifier.filled 1)).isNone = true := by
  decide +kernel

end RelayEnrollmentService

end Heyaki
