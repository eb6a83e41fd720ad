/-
Purpose: when the transactions of the relay database commit and what they leave then.
-/
import Heyaki.Relay.Database

namespace Heyaki

open Foundation (SortedMap)
open Foundation.Transaction

namespace RelayDatabase

variable {database after : RelayDatabase} {crypto : IdentityCrypto} {faults : SqlFaults}
  {detail : String} {value : Unit} {tenant : Text} {deviceId : DeviceId} {now generation : UInt64}
  {record : RelayDeviceRecord} {hash : RelayBootstrapTokenHash}
  {consumption : RelayBootstrapConsumption} {token : List UInt8}

/-! ### The calls around a statement -/

/-- No call into the database library fails. -/
def Healthy (faults : SqlFaults) : Prop := ∀ call, faults call = false

@[simp] theorem selectCalls_eq_ok :
    selectCalls faults detail = .ok value ↔
      faults .prepareSelect = false ∧ faults .bindSelect = false := by
  simp [selectCalls, bind_eq_ok]

@[simp] theorem writeCalls_eq_ok :
    writeCalls faults detail = .ok value ↔
      faults .prepareWrite = false ∧ faults .bindWrite = false := by
  simp [writeCalls, bind_eq_ok]

@[simp] theorem writeAudit_eq_ok :
    writeAudit faults detail = .ok value ↔
      faults .bindAudit = false ∧ faults .stepAudit = false := by
  simp [writeAudit, bind_eq_ok]

theorem healthy_iff : Healthy faults ↔
    faults .begin = false ∧ (faults .prepareSelect = false ∧ faults .bindSelect = false) ∧
      faults .stepSelect = false ∧ (faults .prepareWrite = false ∧ faults .bindWrite = false) ∧
      faults .stepWrite = false ∧ faults .prepareAudit = false ∧
      (faults .bindAudit = false ∧ faults .stepAudit = false) ∧ faults .commit = false := by
  constructor
  · intro healthy
    simp [healthy _]
  · intro calls call
    cases call <;> simp [calls]

/-! ### Bootstrap tokens -/

/-- A token that can be spent: its row and the conditions on it. -/
structure Spendable (database : RelayDatabase) (crypto : IdentityCrypto) (token : List UInt8)
    (tenant : Text) (now : UInt64) (hash : RelayBootstrapTokenHash)
    (row : RelayBootstrapTokenRow) : Prop where
  tenantValid : validTenant tenant = true
  hashed : hashRelayBootstrapToken crypto token = .ok hash
  found : database.bootstrapTokens.find? hash = some row
  sameTenant : row.tenant = tenant
  inTime : now < row.expiresUnixMilliseconds
  left : row.remainingUses ≠ 0
  consumable : consumable row now = true

def spent (database : RelayDatabase) (hash : RelayBootstrapTokenHash)
    (row : RelayBootstrapTokenRow) : RelayDatabase :=
  { database with
    bootstrapTokens := database.bootstrapTokens.insert hash
      { row with remainingUses := row.remainingUses - 1 } }

def consumptionOf (row : RelayBootstrapTokenRow) : RelayBootstrapConsumption where
  tokenId := row.tokenId
  tenant := row.tenant
  expiresUnixMilliseconds := row.expiresUnixMilliseconds
  remainingUsesBefore := row.remainingUses
  remainingUsesAfter := row.remainingUses - 1

theorem consumeRow_eq_ok {row : RelayBootstrapTokenRow} :
    database.consumeRow faults hash row tenant deviceId now = .ok (consumption, after) ↔
      (row.tenant = tenant ∧ now < row.expiresUnixMilliseconds ∧ row.remainingUses ≠ 0 ∧
        consumable row now = true) ∧
      (faults .prepareWrite = false ∧ faults .bindWrite = false) ∧ faults .stepWrite = false ∧
      faults .prepareAudit = false ∧ deviceId.isZero = false ∧
      (faults .bindAudit = false ∧ faults .stepAudit = false) ∧ faults .commit = false ∧
      consumption = consumptionOf row ∧ after = database.spent hash row := by
  simp only [consumeRow, guard_eq_ok, bind_eq_ok, stepWrite, prepareAudit, commitCall,
    attempt_eq_ok, writeCalls_eq_ok, writeAudit_eq_ok, exists_const, not_not,
    UInt64.not_le, Bool.not_eq_true', Bool.not_eq_false, Bool.not_eq_true, Except.ok.injEq,
    Prod.mk.injEq, ge_iff_le]
  constructor
  · rintro ⟨rfl, inTime, left, writes, step, consumable, audit, device, rest, commit, rfl, rfl⟩
    exact ⟨⟨rfl, inTime, left, consumable⟩, writes, step, audit, device, rest, commit, rfl, rfl⟩
  · rintro ⟨⟨rfl, inTime, left, consumable⟩, writes, step, audit, device, rest, commit, rfl, rfl⟩
    exact ⟨rfl, inTime, left, writes, step, consumable, audit, device, rest, commit, rfl, rfl⟩

theorem consumeTokenBody_eq_ok :
    database.consumeTokenBody crypto faults token tenant deviceId now = .ok (consumption, after) ↔
      Healthy faults ∧ deviceId.isZero = false ∧ ∃ hash row,
        Spendable database crypto token tenant now hash row ∧
          consumption = consumptionOf row ∧ after = database.spent hash row := by
  simp only [consumeTokenBody, guard_eq_ok, bind_eq_ok, beginCall, attempt_eq_ok,
    selectCalls_eq_ok, exists_const, Bool.not_eq_true', Bool.not_eq_false]
  constructor
  · rintro ⟨valid, hash, hashed, begun, selected, done⟩
    unfold selectToken at done
    split_ifs at done with failed
    cases found : database.bootstrapTokens.find? hash with
    | none =>
      rw [found] at done
      cases done
    | some row =>
      rw [found] at done
      obtain ⟨⟨same, inTime, left, consumable⟩, writes, step, audit, device, rest, commit, answer,
        stored⟩ := consumeRow_eq_ok.mp done
      refine ⟨healthy_iff.mpr ⟨begun, selected, eq_false_of_ne_true failed, writes, step, audit,
        rest, commit⟩, device, hash, row, ?_, answer, stored⟩
      exact ⟨valid, hashed, found, same, inTime, left, consumable⟩
  · rintro ⟨healthy, device, hash, row, spendable, answer, stored⟩
    obtain ⟨begun, selected, stepped, writes, step, audit, rest, commit⟩ := healthy_iff.mp healthy
    refine ⟨spendable.tenantValid, hash, spendable.hashed, begun, selected, ?_⟩
    unfold selectToken
    rw [stepped, spendable.found]
    exact consumeRow_eq_ok.mpr ⟨⟨spendable.sameTenant, spendable.inTime, spendable.left,
      spendable.consumable⟩, writes, step, audit, device, rest, commit, answer, stored⟩

theorem createTokenBody_eq_ok {expires uses : UInt64} {tokenId : RelayBootstrapTokenId}
    (created : database.createTokenBody crypto faults tenant token expires uses tokenId now =
      .ok (hash, after)) :
    hashRelayBootstrapToken crypto token = .ok hash ∧
      database.bootstrapTokens.find? hash = none ∧
      after = { database with
        bootstrapTokens := database.bootstrapTokens.insert hash
          { tokenId := tokenId, tenant := tenant, expiresUnixMilliseconds := expires
            remainingUses := uses } } := by
  simp only [createTokenBody, guard_eq_ok, bind_eq_ok, beginCall, commitCall, attempt_eq_ok,
    writeCalls_eq_ok, exists_const, Except.ok.injEq, Prod.mk.injEq] at created
  obtain ⟨-, -, -, other, hashed, -, -, fresh, -, -, rfl, rfl⟩ := created
  refine ⟨hashed, ?_, rfl⟩
  unfold tokenKnown at fresh
  rw [Bool.not_eq_true, Bool.or_eq_false_iff, Option.isSome_eq_false_iff] at fresh
  exact Option.isNone_iff_eq_none.mp fresh.1

/-! ### Devices -/

def stored (database : RelayDatabase) (deviceId : DeviceId) (row : RelayDeviceRow) :
    RelayDatabase :=
  { database with devices := database.devices.insert deviceId row }

theorem writeDevice_eq_ok :
    database.writeDevice faults record = .ok (value, after) ↔
      ((faults .prepareWrite = false ∧ faults .bindWrite = false) ∧ faults .stepWrite = false ∧
        faults .prepareAudit = false ∧ (faults .bindAudit = false ∧ faults .stepAudit = false) ∧
        faults .commit = false) ∧
      ∃ checked, after = database.stored record.deviceId ⟨record, checked⟩ := by
  simp only [writeDevice, bind_eq_ok, stepWrite, attempt_eq_ok, writeCalls_eq_ok, exists_const]
  by_cases checked : 0 < record.enrollmentGeneration.toInt64
  · rw [dif_pos checked]
    simp only [bind_eq_ok, prepareAudit, commitCall, attempt_eq_ok, writeAudit_eq_ok, exists_const,
      Except.ok.injEq, Prod.mk.injEq, true_and]
    constructor
    · rintro ⟨writes, step, audit, rest, commit, rfl⟩
      exact ⟨⟨writes, step, audit, rest, commit⟩, checked, rfl⟩
    · rintro ⟨⟨writes, step, audit, rest, commit⟩, _, rfl⟩
      exact ⟨writes, step, audit, rest, commit, rfl⟩
  · rw [dif_neg checked]
    constructor
    · rintro ⟨-, -, failed⟩
      cases failed
    · rintro ⟨-, accepted, -⟩
      exact absurd accepted checked

/-- A newer record is stored unless a call fails or its generation has no place in the
table. -/
theorem enrollBody_of_newer (valid : deviceRecordInvalid record now = false)
    (own : (crypto.deriveDeviceId record.publicKey).toOption = some record.deviceId)
    (newer : ∀ row, database.devices.find? record.deviceId = some row →
      row.enrollmentGeneration < record.enrollmentGeneration) :
    database.enrollBody crypto faults record now = .ok (value, after) ↔
      Healthy faults ∧ ∃ checked, after = database.stored record.deviceId ⟨record, checked⟩ := by
  have write : database.storeDevice faults record = database.writeDevice faults record := by
    unfold storeDevice
    cases found : database.devices.find? record.deviceId with
    | none => rfl
    | some existing =>
      have later := newer existing found
      dsimp only
      unfold replaceDevice
      rw [if_neg (UInt64.not_lt.mpr (UInt64.le_of_lt later)), if_neg (UInt64.ne_of_lt later).symm]
  unfold enrollBody
  rw [valid, if_neg Bool.false_ne_true, if_neg (not_not.mpr own), write]
  simp only [bind_eq_ok, beginCall, attempt_eq_ok, selectCalls_eq_ok, exists_const,
    writeDevice_eq_ok, healthy_iff]
  tauto

theorem enrollBody_cases
    (done : database.enrollBody crypto faults record now = .ok (value, after)) :
    after = database ∨ record.status = .active ∧
      (∀ row, database.devices.find? record.deviceId = some row →
        row.enrollmentGeneration < record.enrollmentGeneration) ∧
      ∃ checked, after = database.stored record.deviceId ⟨record, checked⟩ := by
  simp only [enrollBody, guard_eq_ok, bind_eq_ok, storeDevice] at done
  obtain ⟨valid, -, -, -, -, -, -, -, done⟩ := done
  have active : record.status = .active := by
    simp only [deviceRecordInvalid, Bool.or_eq_true, not_or] at valid
    simpa using valid.2
  cases found : database.devices.find? record.deviceId with
  | none =>
    rw [found] at done
    obtain ⟨-, checked, rfl⟩ := writeDevice_eq_ok.mp done
    refine .inr ⟨active, ?_, checked, rfl⟩
    rintro row ⟨⟩
  | some existing =>
    rw [found] at done
    simp only [replaceDevice] at done
    split_ifs at done with older same conflict revoked
    · cases done
      exact .inl rfl
    · obtain ⟨-, checked, rfl⟩ := writeDevice_eq_ok.mp done
      refine .inr ⟨active, ?_, checked, rfl⟩
      rintro row ⟨⟩
      exact UInt64.lt_of_le_of_ne (UInt64.not_lt.mp older) fun equal => same equal.symm

theorem revokeBody_cases
    (done : database.revokeBody faults deviceId generation now = .ok (value, after)) :
    ∃ existing checked, database.devices.find? deviceId = some existing ∧
      existing.enrollmentGeneration < generation ∧
      after = database.stored deviceId
        ⟨{ existing.toRelayDeviceRecord with
           enrollmentGeneration := generation, status := .revoked }, checked⟩ := by
  simp only [revokeBody, guard_eq_ok, bind_eq_ok] at done
  obtain ⟨-, -, -, -, -, -, -, done⟩ := done
  cases found : database.devices.find? deviceId with
  | none =>
    rw [found] at done
    cases done
  | some existing =>
    rw [found] at done
    simp only [guard_eq_ok, bind_eq_ok] at done
    obtain ⟨newer, -, -, -, -, done⟩ := done
    split_ifs at done with checked
    simp only [bind_eq_ok] at done
    obtain ⟨-, -, -, -, -, -, done⟩ := done
    cases done
    exact ⟨existing, checked, rfl, UInt64.not_le.mp newer, rfl⟩

theorem password_of_verifier {record : RelayEnrollmentPasswordRecord}
    (read : database.enrollmentPasswordVerifier faults = .ok (some record)) :
    database.enrollmentPassword = some record := by
  simp only [enrollmentPasswordVerifier, bind_eq_ok] at read
  obtain ⟨-, -, -, -, read⟩ := read
  cases stored : database.enrollmentPassword with
  | none =>
    rw [stored] at read
    cases read
  | some other =>
    rw [stored] at read
    dsimp only at read
    split_ifs at read
    cases read
    rfl

/-- The condition on the column keeps the sign bit free. -/
theorem toNat_lt_of_checked (checked : 0 < generation.toInt64) : generation.toNat < 2 ^ 63 := by
  have positive := Int64.lt_iff_toInt_lt.mp checked
  have bits : generation.toInt64.toBitVec.toNat = generation.toNat := rfl
  rw [← Int64.toInt_toBitVec generation.toInt64, BitVec.toInt_eq_toNat_cond, bits] at positive
  have zero : Int64.toInt 0 = 0 := rfl
  split at positive
  · omega
  · omega

theorem lt_next (row : RelayDeviceRow) : row.enrollmentGeneration < row.enrollmentGeneration + 1 := by
  have bound := toNat_lt_of_checked row.checked
  rw [UInt64.lt_iff_toNat_lt, UInt64.toNat_add]
  have one : (1 : UInt64).toNat = 1 := rfl
  omega

theorem device_eq_ok {existing : Option RelayDeviceRecord} :
    database.device faults deviceId = .ok existing ↔ deviceId.isZero = false ∧
      ((faults .prepareSelect = false ∧ faults .bindSelect = false) ∧ faults .stepSelect = false) ∧
      existing = (database.devices.find? deviceId).map RelayDeviceRow.toRelayDeviceRecord := by
  simp only [device, guard_eq_ok, bind_eq_ok, attempt_eq_ok, selectCalls_eq_ok, exists_const,
    Bool.not_eq_true, Except.ok.injEq]
  constructor
  · rintro ⟨zero, select, step, same⟩
    exact ⟨zero, ⟨select, step⟩, same.symm⟩
  · rintro ⟨zero, ⟨select, step⟩, same⟩
    exact ⟨zero, select, step, same.symm⟩

end RelayDatabase

end Heyaki
