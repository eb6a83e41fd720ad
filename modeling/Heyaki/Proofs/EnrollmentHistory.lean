/-
Purpose: the accounts of a relay database over whole histories of challenges, completions,
revocations and tokens.

Between two calls the service can be restarted, which forgets its challenges.  Calls into
the database fail where the event says so.

Main exports: `EnrollmentHistory.Kept.run`, `EnrollmentHistory.enrollment_accounting`
-/
import Heyaki.Proofs.Enrollment
import Heyaki.Proofs.EnrollmentBooks

namespace Heyaki

open Foundation (SortedMap)
open Foundation.Transaction RelayEnrollmentService RelayDatabase

inductive EnrollmentEvent where
  | challenge (nonce : EnrollmentChallengeNonce) (steadyNow : Int) (now : UInt64)
  | complete (faults : CompletionFaults) (encodedRequest : List UInt8) (steadyNow : Int)
      (now : UInt64)
  | revoke (faults : SqlFaults) (deviceId : DeviceId) (generation now : UInt64)
  | createToken (faults : SqlFaults) (tenant : Text) (token : List UInt8) (expires uses : UInt64)
      (tokenId : RelayBootstrapTokenId) (now : UInt64)
  | setPassword (faults : SqlFaults) (record : RelayEnrollmentPasswordRecord)
  | restart (config : RelayEnrollmentServiceConfig)

structure EnrollmentHistory where
  service : RelayEnrollmentService
  database : RelayDatabase
  log : List EnrollmentRecord

namespace EnrollmentHistory

variable {steadyNow : Int} {crypto : EnrollmentCrypto} {history : EnrollmentHistory}
  {service : RelayEnrollmentService} {faults : CompletionFaults} {request : EnrollmentRequest}
  {now : UInt64} {database : RelayDatabase} {old : RelayDeviceRow}
  {existing : Option RelayDeviceRecord} {deviceId : DeviceId}

/-! ### Runs -/

def start (service : RelayEnrollmentService) : EnrollmentHistory :=
  { service := service, database := {}, log := [] }

def spentRecords (request : EnrollmentRequest) (now : UInt64) :
    Option RelayBootstrapConsumption → List EnrollmentRecord
  | none => []
  | some _ => [.spent request.bootstrapToken request.tenant now]

def completedRecords (request : EnrollmentRequest) (steadyNow : Int) :
    Except Error RelayEnrollmentCompletion → List EnrollmentRecord
  | .error _ => []
  | .ok _ => [.completed request.challengeNonce steadyNow]

/-- The records of a completion, newest first. -/
def completionRecords (outcome : RelayEnrollmentService.CompletionOutcome)
    (encodedRequest : List UInt8) (steadyNow : Int) (now : UInt64) : List EnrollmentRecord :=
  match parseEnrollmentRequest encodedRequest with
  | .error _ => []
  | .ok request =>
    completedRecords request steadyNow outcome.result ++
      spentRecords request now outcome.consumption

def issuedRecords (service : RelayEnrollmentService) (nonce : EnrollmentChallengeNonce)
    (steadyNow : Int) : Except Error (List UInt8) → List EnrollmentRecord
  | .error _ => []
  | .ok _ => [.issued nonce steadyNow service.config.challengeValidity]

def createdRecords (token : List UInt8) (tenant : Text) (expires uses : UInt64) :
    Except Error RelayBootstrapTokenHash → List EnrollmentRecord
  | .error _ => []
  | .ok _ => [.created token tenant expires uses]

def step (crypto : EnrollmentCrypto) (history : EnrollmentHistory) (event : EnrollmentEvent) :
    EnrollmentHistory :=
  match event with
  | .challenge nonce steadyNow now =>
    let (result, service) := history.service.beginChallenge nonce steadyNow now
    { history with
      service := service
      log := issuedRecords history.service nonce steadyNow result ++ history.log }
  | .complete faults encodedRequest steadyNow now =>
    let outcome := history.service.complete crypto history.database faults encodedRequest
      steadyNow now
    { service := outcome.service, database := outcome.database
      log := completionRecords outcome encodedRequest steadyNow now ++ history.log }
  | .revoke faults deviceId generation now =>
    { history with
      database := (history.database.revokeDevice faults deviceId generation now).2 }
  | .createToken faults tenant token expires uses tokenId now =>
    let (result, database) := history.database.createBootstrapToken crypto.toIdentityCrypto faults
      tenant token expires uses tokenId now
    { history with
      database := database, log := createdRecords token tenant expires uses result ++ history.log }
  | .setPassword faults record =>
    { history with
      database := (history.database.setEnrollmentPasswordVerifier faults record).2 }
  | .restart config =>
    match create history.service.relayId config with
    | .error _ => history
    | .ok service => { history with service := service }

def run (crypto : EnrollmentCrypto) (history : EnrollmentHistory) (events : List EnrollmentEvent) :
    EnrollmentHistory :=
  events.foldl (step crypto) history

/-! ### One step -/

theorem beginChallenge_cases (service : RelayEnrollmentService) (nonce : EnrollmentChallengeNonce)
    (steadyNow : Int) (now : UInt64) :
    (∃ error after, service.beginChallenge nonce steadyNow now = (.error error, after) ∧
      after.challenges.Within service.challenges) ∨
    ∃ encoded challenge, ∃ room : RelayTtlTable EnrollmentChallengeNonce EnrollmentChallenge,
      room.Within service.challenges ∧ service.beginChallenge nonce steadyNow now = (.ok encoded,
        { service with
          challenges := room.put nonce challenge service.config.challengeValidity steadyNow }) := by
  unfold beginChallenge
  by_cases closed : service.config.mode = .closed
  · rw [if_pos closed]
    exact .inl ⟨_, service, rfl, .refl⟩
  rw [if_neg closed]
  cases createEnrollmentChallenge service.relayId nonce now service.config.challengeValidity with
  | error error => exact .inl ⟨error, service, rfl, .refl⟩
  | ok challenge =>
    obtain ⟨room, within, ⟨error, failed⟩ | ⟨outcome, done⟩⟩ := service.challenges.upsert_cases challenge service.config.challengeValidity
    · dsimp only
      rw [failed]
      exact .inl ⟨error, _, rfl, within⟩
    · dsimp only
      rw [done]
      cases encodeEnrollmentChallenge challenge with
      | error error =>
        refine .inl ⟨error, _, rfl, ?_⟩
        exact (RelayTtlTable.within_erase_put challenge _).trans within
      | ok encoded => exact .inr ⟨encoded, challenge, room, within, rfl⟩

abbrev Kept (crypto : EnrollmentCrypto) (history : EnrollmentHistory) : Prop :=
  Books crypto.toIdentityCrypto history.service.challenges history.database.bootstrapTokens
    history.log

theorem Kept.spendToken (kept : Kept crypto history) {faults : SqlFaults}
    {consumption : Option RelayBootstrapConsumption} {after : RelayDatabase}
    (spent : service.spendToken crypto history.database faults request now =
      (.ok consumption, after))
    (free : CollisionFree crypto.toIdentityCrypto
      (spentRecords request now consumption ++ history.log)) :
    Books crypto.toIdentityCrypto history.service.challenges after.bootstrapTokens
      (spentRecords request now consumption ++ history.log) := by
  cases spending_of_spent spent with
  | spent mode healthy spendable => exact Books.spend kept spendable free
  | free => exact kept

/-- A challenge that is answered is pending, and taking it removes it. -/
theorem finish_of_checked {steadyNow : Int}
    {tokens : SortedMap RelayBootstrapTokenHash RelayBootstrapTokenRow}
    {log : List EnrollmentRecord}
    (checked : Checked service crypto database faults request steadyNow now existing)
    (books : Books crypto.toIdentityCrypto service.challenges tokens log) :
    Books crypto.toIdentityCrypto (service.taken request steadyNow).challenges tokens
      (.completed request.challengeNonce steadyNow :: log) := by
  obtain ⟨challenge, taken, -⟩ := checked.live
  obtain ⟨within, gone, found⟩ := service.challenges.take_cases request.challengeNonce steadyNow
  obtain ⟨expiresAt, pending, live⟩ := found challenge taken
  exact books.finish pending live within gone

theorem challenges_of_created {relayId : RelayId} {config : RelayEnrollmentServiceConfig}
    (created : create relayId config = .ok service) :
    ∃ capacity, service.challenges = { capacity := capacity } := by
  unfold create at created
  rw [guard_eq_ok, bind_eq_ok] at created
  obtain ⟨-, challenges, made, done⟩ := created
  unfold RelayTtlTable.create at made
  rw [guard_eq_ok] at made
  cases made.2
  cases done
  exact ⟨config.challengeCapacity, rfl⟩

/-- The event is a completion of the device that succeeds on a use of a token or on the
owner password. -/
def Readmits (crypto : EnrollmentCrypto) (history : EnrollmentHistory) (event : EnrollmentEvent)
    (deviceId : DeviceId) : Prop :=
  ∃ faults encodedRequest steadyNow now request,
    event = .complete faults encodedRequest steadyNow now ∧
      parseEnrollmentRequest encodedRequest = .ok request ∧ request.deviceId = deviceId ∧
      let outcome := history.service.complete crypto history.database faults encodedRequest
        steadyNow now
      (∃ completion, outcome.result = .ok completion) ∧
        (outcome.consumption.isSome = true ∨
          ∃ proof record, request.passwordProof = some proof ∧
            history.database.enrollmentPassword = some record ∧
            crypto.verifyPassword (hexProof proof) record = .ok true)

/-- A step leaves the devices or writes one row, which is newer than the one it replaces. -/
inductive Writes (crypto : EnrollmentCrypto) (history : EnrollmentHistory)
    (event : EnrollmentEvent) (devices : SortedMap DeviceId RelayDeviceRow) : Prop
  | nothing (same : devices = history.database.devices)
  | row (deviceId : DeviceId) (row : RelayDeviceRow)
      (inserted : devices = history.database.devices.insert deviceId row)
      (newer : ∀ old, history.database.devices.find? deviceId = some old →
        old.enrollmentGeneration < row.enrollmentGeneration)
      (readmits : row.status = .active → Readmits crypto history event deviceId)

/-- What admits a device in a mode that spends nothing. -/
theorem password_of_checked {steadyNow : Int}
    (checked : Checked service crypto database faults request steadyNow now existing)
    (other : service.config.mode ≠ .token) :
    ∃ proof record, request.passwordProof = some proof ∧
      database.enrollmentPassword = some record ∧
      crypto.verifyPassword (hexProof proof) record = .ok true := by
  have gate := checked.mode
  unfold checkMode at gate
  cases mode : service.config.mode with
  | token => exact absurd mode other
  | closed =>
    rw [mode] at gate
    cases gate
  | password =>
    rw [mode] at gate
    unfold checkPassword at gate
    cases given : request.passwordProof with
    | none =>
      rw [given] at gate
      cases gate
    | some proof =>
      rw [given] at gate
      split_ifs at gate
      obtain ⟨stored, read, verified⟩ := bind_eq_ok.mp gate
      cases stored with
      | none => cases verified
      | some record =>
        obtain ⟨answer, checked, accepted⟩ := bind_eq_ok.mp verified
        cases answer with
        | false => cases accepted
        | true => exact ⟨proof, record, rfl, password_of_verifier read, checked⟩

/-- What a step does: it writes at most one device row, adds records and keeps the books. -/
structure Steps (crypto : EnrollmentCrypto) (history : EnrollmentHistory)
    (event : EnrollmentEvent) (after : EnrollmentHistory) : Prop where
  writes : Writes crypto history event after.database.devices
  log : ∃ newer, after.log = newer ++ history.log
  kept : Kept crypto history → CollisionFree crypto.toIdentityCrypto after.log → Kept crypto after

theorem Steps.unchanged {event : EnrollmentEvent} : Steps crypto history event history :=
  ⟨.nothing rfl, ⟨[], rfl⟩, fun kept _ => kept⟩

theorem steps_complete (faults : CompletionFaults) (encodedRequest : List UInt8) :
    Steps crypto history (.complete faults encodedRequest steadyNow now)
      (step crypto history (.complete faults encodedRequest steadyNow now)) := by
  unfold step completionRecords
  dsimp only
  cases parsed : parseEnrollmentRequest encodedRequest with
  | error error =>
    unfold complete
    rw [parsed]
    exact .unchanged
  | ok request =>
    have whole : history.service.complete crypto history.database faults encodedRequest steadyNow
        now = history.service.completeRequest crypto history.database faults request steadyNow
          now := by
      unfold complete
      rw [parsed]
    have completes := completeRequest_completes history.service crypto
      history.database faults request steadyNow now
    have within := (history.service.challenges.take_cases request.challengeNonce steadyNow).1
    rw [← whole] at completes
    revert completes
    generalize outcome_eq : history.service.complete crypto history.database faults encodedRequest
      steadyNow now = outcome
    intro completes
    cases completes with
    | refused error unchecked | unspent error existing checked different mode unspendable =>
      exact ⟨.nothing rfl, ⟨_, rfl⟩, fun kept _ => kept.within within⟩
    | known existing record checked same completion =>
      exact ⟨.nothing rfl, ⟨_, rfl⟩, fun kept _ => finish_of_checked checked kept⟩
    | lost error existing checked different consumption after spent failed =>
      exact ⟨.nothing (devices_of_spent spent), ⟨_, rfl⟩, fun kept free =>
        (kept.spendToken spent free).within within⟩
    | enrolled existing checked different consumption after final spent stored =>
      have unchanged := devices_of_spent spent
      refine ⟨?_, ⟨_, rfl⟩, fun kept free => ?_⟩
      · rcases enrollBody_cases stored with rfl | ⟨-, newer, fits, rfl⟩
        · exact .nothing unchanged
        refine .row request.deviceId ⟨_, fits⟩ ?_ ?_ fun _ => ?_
        · exact congrArg (fun devices => SortedMap.insert devices request.deviceId _) unchanged
        · rw [← unchanged]
          exact newer
        · refine ⟨faults, encodedRequest, steadyNow, now, request, rfl, parsed, rfl, ?_⟩
          rw [outcome_eq]
          refine ⟨⟨_, rfl⟩, ?_⟩
          cases spending_of_spent spent with
          | spent => exact .inl rfl
          | free other => exact .inr (password_of_checked checked other)
      · rw [List.append_assoc] at free
        have books := finish_of_checked checked (kept.spendToken spent free.of_append)
        rcases enrollBody_cases stored with rfl | ⟨-, -, -, rfl⟩
        · exact books
        · exact books

theorem steps_step (crypto : EnrollmentCrypto) (history : EnrollmentHistory)
    (event : EnrollmentEvent) :
    Steps crypto history event (step crypto history event) := by
  cases event with
  | challenge nonce steadyNow now =>
    unfold step
    dsimp only
    refine ⟨.nothing rfl, ⟨_, rfl⟩, fun kept _ => ?_⟩
    rcases beginChallenge_cases history.service nonce steadyNow now with
      ⟨error, after, failed, within⟩ | ⟨encoded, challenge, room, within, done⟩
    · rw [failed]
      exact kept.within within
    · rw [done]
      exact (kept.within within).issue
  | complete faults encodedRequest steadyNow now => exact steps_complete faults encodedRequest
  | revoke faults deviceId generation now =>
    unfold step revokeDevice
    dsimp only
    rcases commit_cases history.database (history.database.revokeBody faults deviceId generation
      now) with ⟨error, -, failed⟩ | ⟨value, after, body, done⟩
    · rw [failed]
      exact .unchanged
    rw [done]
    obtain ⟨existing, fits, found, newer, rfl⟩ := revokeBody_cases body
    refine ⟨.row deviceId ⟨_, fits⟩ rfl ?_ ?_, ⟨[], rfl⟩, fun kept _ => kept⟩
    · intro old stored
      cases found.symm.trans stored
      exact newer
    · rintro ⟨⟩
  | createToken faults tenant token expires uses tokenId now =>
    unfold step createBootstrapToken
    dsimp only
    rcases commit_cases history.database (history.database.createTokenBody
      crypto.toIdentityCrypto faults tenant token expires uses tokenId now) with
      ⟨error, -, failed⟩ | ⟨hash, after, body, done⟩
    · rw [failed]
      exact .unchanged
    · rw [done]
      obtain ⟨hashed, absent, rfl⟩ := createTokenBody_eq_ok body
      exact ⟨.nothing rfl, ⟨_, rfl⟩, fun kept _ => Books.create kept hashed absent⟩
  | setPassword faults record =>
    unfold step setEnrollmentPasswordVerifier
    dsimp only
    rcases commit_cases history.database (history.database.setPasswordBody faults record) with
      ⟨error, -, failed⟩ | ⟨value, after, body, done⟩
    · rw [failed]
      exact .unchanged
    · rw [done]
      simp only [setPasswordBody, guard_eq_ok, bind_eq_ok, Except.ok.injEq,
        Prod.mk.injEq] at body
      obtain ⟨-, -, -, -, -, -, -, -, -, -, rfl⟩ := body
      exact ⟨.nothing rfl, ⟨[], rfl⟩, fun kept _ => kept⟩
  | restart config =>
    unfold step
    dsimp only
    cases created : create history.service.relayId config with
    | error error => exact .unchanged
    | ok service =>
      obtain ⟨capacity, empty⟩ := challenges_of_created created
      refine ⟨.nothing rfl, ⟨[], rfl⟩, fun kept _ => kept.within ?_⟩
      rw [empty]
      rintro nonce entry ⟨⟩

/-! ### Whole runs -/

theorem log_run (crypto : EnrollmentCrypto) (history : EnrollmentHistory)
    (events : List EnrollmentEvent) :
    ∃ newer, (run crypto history events).log = newer ++ history.log := by
  induction events generalizing history with
  | nil => exact ⟨[], rfl⟩
  | cons event events ih =>
    obtain ⟨newest, later⟩ := ih (step crypto history event)
    obtain ⟨newer, first⟩ := (steps_step crypto history event).log
    refine ⟨newest ++ newer, ?_⟩
    rw [List.append_assoc, ← first]
    exact later

theorem Kept.run (kept : Kept crypto history) (events : List EnrollmentEvent)
    (free : CollisionFree crypto.toIdentityCrypto (run crypto history events).log) :
    Kept crypto (run crypto history events) := by
  induction events generalizing history with
  | nil => exact kept
  | cons event events ih =>
    obtain ⟨newer, later⟩ := log_run crypto (EnrollmentHistory.step crypto history event) events
    have first : CollisionFree crypto.toIdentityCrypto
        (EnrollmentHistory.step crypto history event).log := by
      have whole : CollisionFree crypto.toIdentityCrypto
          (newer ++ (EnrollmentHistory.step crypto history event).log) := later ▸ free
      exact whole.of_append
    exact ih ((steps_step crypto history event).kept kept first) free

/-! ### Devices -/

/-- The generation never goes back, and what the row says changes only with it. -/
def Succeeds (old new : RelayDeviceRow) : Prop :=
  old = new ∨ old.enrollmentGeneration < new.enrollmentGeneration

theorem Succeeds.trans {middle new : RelayDeviceRow} (first : Succeeds old middle)
    (second : Succeeds middle new) : Succeeds old new := by
  rcases first with rfl | less
  · exact second
  · rcases second with rfl | more
    · exact .inr less
    · exact .inr (UInt64.lt_trans less more)

theorem not_active_of_revoked {status : RelayDeviceStatus} {claim : Prop}
    (revoked : status = .revoked) (active : status = .active) : claim := by
  rw [revoked] at active
  cases active

/-- A row has a successor after every step, and a revoked one is active only if the step
readmits the device. -/
theorem row_step (event : EnrollmentEvent)
    (found : history.database.devices.find? deviceId = some old) :
    ∃ new, (step crypto history event).database.devices.find? deviceId = some new ∧
      Succeeds old new ∧
      (old.status = .revoked → new.status = .active → Readmits crypto history event deviceId) := by
  cases (steps_step crypto history event).writes with
  | nothing same => exact ⟨old, same ▸ found, .inl rfl, not_active_of_revoked⟩
  | row other row inserted newer readmits =>
    rw [inserted, SortedMap.find?_insert]
    split
    · rename_i same
      subst same
      exact ⟨row, rfl, .inr (newer old found), fun _ => readmits⟩
    · exact ⟨old, found, .inl rfl, not_active_of_revoked⟩

theorem row_run (events : List EnrollmentEvent)
    (found : history.database.devices.find? deviceId = some old) :
    ∃ new, (run crypto history events).database.devices.find? deviceId = some new ∧
      Succeeds old new ∧
      (old.status = .revoked → new.status = .active → ∃ earlier event later,
        events = earlier ++ event :: later ∧
          Readmits crypto (run crypto history earlier) event deviceId) := by
  induction events generalizing history old with
  | nil => exact ⟨old, found, .inl rfl, not_active_of_revoked⟩
  | cons event events ih =>
    obtain ⟨middle, stored, first, now⟩ := row_step event found
    obtain ⟨new, kept, second, later⟩ := ih stored
    refine ⟨new, kept, first.trans second, ?_⟩
    intro revoked active
    cases status : middle.status with
    | active => exact ⟨[], event, events, rfl, now revoked status⟩
    | revoked =>
      obtain ⟨earlier, readmission, rest, rfl, readmits⟩ := later status active
      exact ⟨event :: earlier, readmission, rest, rfl, readmits⟩

/-- The accounts of a relay that starts with an empty database. -/
theorem enrollment_accounting (crypto : EnrollmentCrypto) (relayId : RelayId)
    (config : RelayEnrollmentServiceConfig) (service : RelayEnrollmentService)
    (created : create relayId config = .ok service)
    (earlier later : List EnrollmentEvent)
    (free : CollisionFree crypto.toIdentityCrypto
      (run crypto (start service) (earlier ++ later)).log) :
    Accounted (run crypto (start service) (earlier ++ later)).log ∧
      ∀ deviceId old,
        (run crypto (start service) earlier).database.devices.find? deviceId = some old →
        ∃ new, (run crypto (start service) (earlier ++ later)).database.devices.find? deviceId =
            some new ∧
          old.enrollmentGeneration ≤ new.enrollmentGeneration ∧
          (old.publicKey ≠ new.publicKey ∨ old.tenant ≠ new.tenant ∨ old.status ≠ new.status →
            old.enrollmentGeneration < new.enrollmentGeneration) ∧
          (old.status = .revoked → new.status = .active → ∃ between event rest,
            later = between ++ event :: rest ∧
              Readmits crypto (run crypto (start service) (earlier ++ between)) event deviceId) := by
  have whole : ∀ events, run crypto (start service) (earlier ++ events) =
      run crypto (run crypto (start service) earlier) events := fun events =>
    List.foldl_append
  obtain ⟨capacity, empty⟩ := challenges_of_created created
  have kept : Kept crypto (start service) := by
    unfold Kept start
    rw [empty]
    exact Books.empty capacity
  refine ⟨(kept.run (earlier ++ later) free).accounted, ?_⟩
  intro deviceId old found
  obtain ⟨new, stored, succeeds, readmitted⟩ := row_run later found
  rw [whole later]
  refine ⟨new, stored, ?_, ?_, ?_⟩
  · rcases succeeds with rfl | less
    · exact UInt64.le_refl _
    · exact UInt64.le_of_lt less
  · rintro differs
    rcases succeeds with rfl | less
    · simp at differs
    · exact less
  · intro revoked active
    obtain ⟨between, event, rest, split, readmits⟩ := readmitted revoked active
    refine ⟨between, event, rest, split, ?_⟩
    rw [whole between]
    exact readmits

/-- A token is created, a challenge issued and answered, the device revoked. -/
def sampleEvents : List EnrollmentEvent :=
  [.createToken (fun _ => false) ⟨asciiBytes "home"⟩ (List.replicate 16 0x41) 90000 1
      (filledBytes 16 7) 1000,
    .challenge (Bytes32.filled 5) 0 1000,
    .complete {} sampleRequest 1000000 2000,
    .revoke (fun _ => false) (Identifier.filled 1) 2 3000]

def sampleHistory : EnrollmentHistory :=
  run sampleCrypto (start freshService) (sampleEvents ++ [])

theorem enrollment_accounting_sample :
    sampleHistory.log.length = 4 ∧
      CollisionFree sampleCrypto.toIdentityCrypto sampleHistory.log ∧
      Accounted sampleHistory.log := by
  have free : CollisionFree sampleCrypto.toIdentityCrypto sampleHistory.log := by
    unfold CollisionFree
    decide +kernel
  have created : create (Bytes32.filled 3) {} = .ok freshService := by
    unfold create
    rw [if_neg (by decide +kernel)]
    rfl
  obtain ⟨accounted, -⟩ := enrollment_accounting sampleCrypto _ _ _ created sampleEvents [] free
  exact ⟨by decide +kernel, free, accounted⟩

end EnrollmentHistory

end Heyaki
