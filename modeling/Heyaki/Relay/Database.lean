/-
Purpose: the devices, bootstrap tokens and owner password of a relay
(`relay_database.cpp`).

Every call into the database library may fail.  Which calls fail is an argument, and a
transaction of which one failed leaves the tables as they were.  Unsigned columns are
written as the signed 64 bit integers of the database: its own conditions compare them
signed, the code compares what it reads back unsigned.  The audit table is written and
never read, so only its statements appear; opening and migrating a file, the times of a
device row and the counts of rows are left out.
-/
import Heyaki.Relay.Admission
import Heyaki.Foundation.SortedMap
import Heyaki.Foundation.Transaction

namespace Heyaki

open Foundation (SortedMap)
open Foundation.Transaction (attempt commit)

def relayBootstrapTokenMaxUses : UInt64 := 1000000
def relayEnrollmentPasswordEncodedMaxBytes : Nat := 512

abbrev RelayBootstrapTokenHash := Bytes32
abbrev RelayBootstrapTokenId := { bytes : List UInt8 // bytes.length = 16 }

inductive RelayDeviceStatus where
  | active | revoked
  deriving Repr, Inhabited, DecidableEq

structure RelayDeviceRecord where
  deviceId : DeviceId
  publicKey : IdentityPublicKey
  tenant : Text
  displayName : Text
  enrollmentGeneration : UInt64 := 1
  status : RelayDeviceStatus := .active
  deriving Repr, DecidableEq

/-- A row of `devices`, with the condition its schema puts on the generation. -/
structure RelayDeviceRow extends RelayDeviceRecord where
  checked : 0 < enrollmentGeneration.toInt64

structure RelayBootstrapTokenRow where
  tokenId : RelayBootstrapTokenId
  tenant : Text
  expiresUnixMilliseconds : UInt64
  remainingUses : UInt64
  deriving Repr, DecidableEq

structure RelayBootstrapConsumption where
  tokenId : RelayBootstrapTokenId
  tenant : Text
  expiresUnixMilliseconds : UInt64
  remainingUsesBefore : UInt64
  remainingUsesAfter : UInt64
  deriving Repr, DecidableEq

structure RelayEnrollmentPasswordRecord where
  formatVersion : UInt16 := 1
  kdfOperations : UInt32 := 2
  kdfMemoryKib : UInt32 := 65536
  encoded : List UInt8
  updatedUnixMilliseconds : UInt64
  deriving Repr, DecidableEq

structure RelayDatabase where
  devices : SortedMap DeviceId RelayDeviceRow := {}
  bootstrapTokens : SortedMap RelayBootstrapTokenHash RelayBootstrapTokenRow := {}
  enrollmentPassword : Option RelayEnrollmentPasswordRecord := none

/-- The calls of a function into the database library, in their order. -/
inductive SqlCall where
  | begin | prepareSelect | bindSelect | stepSelect | prepareWrite | bindWrite | stepWrite
  | prepareAudit | bindAudit | stepAudit | commit
  deriving Repr, DecidableEq

/-- The calls that fail. -/
abbrev SqlFaults := SqlCall → Bool

def relayDatabaseError (code : ErrorCode) (detail : String) : Error :=
  { code := code, component := "relay_database", safeDetail := detail }

def databaseError (detail : String) : Error :=
  relayDatabaseError .storage detail

def validateRelayBootstrapToken (token : List UInt8) : Except Error Unit :=
  if token.length < relayBootstrapTokenMinBytes ∨ token.length > relayBootstrapTokenMaxBytes then
    .error (relayDatabaseError .configuration "relay_bootstrap_token_length_invalid")
  else if token.all fun byte => byte ≥ 0x21 && byte ≤ 0x7e then .ok ()
  else .error (relayDatabaseError .configuration "relay_bootstrap_token_character_invalid")

def hashRelayBootstrapToken (crypto : IdentityCrypto) (token : List UInt8) :
    Except Error RelayBootstrapTokenHash := do
  validateRelayBootstrapToken token
  .ok ⟨(crypto.sha256 token).val, (crypto.sha256 token).property⟩

namespace RelayDatabase

/-- Not the check of the lease table: this one asks for well-formed UTF-8. -/
def validTenant (value : Text) : Bool :=
  !value.bytes.isEmpty && decide (value.bytes.length ≤ 128) && isUtf8 value.bytes &&
    value.bytes.all fun byte => 0x20 ≤ byte

/-! ### The calls around a statement -/

variable (faults : SqlFaults)

def beginCall : Except Error Unit :=
  attempt (faults .begin) (databaseError "relay_database_statement_failed")

def commitCall : Except Error Unit :=
  attempt (faults .commit) (databaseError "relay_database_statement_failed")

variable (bindDetail : String)

/-- Preparing the query and binding its argument. -/
def selectCalls : Except Error Unit := do
  attempt (faults .prepareSelect) (databaseError "relay_database_prepare_failed")
  attempt (faults .bindSelect) (databaseError bindDetail)

/-- Preparing and binding the statement that writes. -/
def writeCalls : Except Error Unit := do
  attempt (faults .prepareWrite) (databaseError "relay_database_prepare_failed")
  attempt (faults .bindWrite) (databaseError bindDetail)

def stepWrite : Except Error Unit :=
  attempt (faults .stepWrite) (databaseError "relay_database_write_failed")

def prepareAudit : Except Error Unit :=
  attempt (faults .prepareAudit) (databaseError "relay_database_prepare_failed")

def writeAudit : Except Error Unit := do
  attempt (faults .bindAudit) (databaseError bindDetail)
  attempt (faults .stepAudit) (databaseError "relay_database_write_failed")

/-! ### Bootstrap tokens -/

variable (database : RelayDatabase)

/-- The row violates a key of the table: its hash or its random id is there already. -/
def tokenKnown (hash : RelayBootstrapTokenHash) (tokenId : RelayBootstrapTokenId) : Bool :=
  (database.bootstrapTokens.find? hash).isSome ||
    database.bootstrapTokens.entries.any fun entry => entry.2.tokenId == tokenId

variable (crypto : IdentityCrypto) (faults : SqlFaults)

def createTokenBody (tenant : Text) (token : List UInt8)
    (expires uses : UInt64) (tokenId : RelayBootstrapTokenId) (now : UInt64) :
    Except Error (RelayBootstrapTokenHash × RelayDatabase) :=
  if !validTenant tenant then
    .error (relayDatabaseError .configuration "relay_database_tenant_invalid")
  else if uses = 0 ∨ uses > relayBootstrapTokenMaxUses then
    .error (relayDatabaseError .configuration "relay_bootstrap_uses_invalid")
  else if expires ≤ now then
    .error (relayDatabaseError .configuration "relay_bootstrap_token_expired_at_create")
  else do
    let hash ← hashRelayBootstrapToken crypto token
    beginCall faults
    writeCalls faults "relay_database_token_bind_failed"
    if database.tokenKnown hash tokenId then
      .error (relayDatabaseError .authentication "relay_bootstrap_token_already_exists")
    else do
      attempt (faults .stepWrite) (databaseError "relay_database_token_insert_failed")
      commitCall faults
      .ok (hash, { database with
        bootstrapTokens := database.bootstrapTokens.insert hash
          { tokenId := tokenId, tenant := tenant, expiresUnixMilliseconds := expires
            remainingUses := uses } })

/-- The id of the token is random, `now` the time of the wall clock. -/
def createBootstrapToken (tenant : Text) (token : List UInt8)
    (expires uses : UInt64) (tokenId : RelayBootstrapTokenId) (now : UInt64) :
    Except Error RelayBootstrapTokenHash × RelayDatabase :=
  commit database (database.createTokenBody crypto faults tenant token expires uses tokenId now)

/-- The row that the query of a token finds; a query that fails finds none. -/
def selectToken (hash : RelayBootstrapTokenHash) :
    Option RelayBootstrapTokenRow :=
  if faults .stepSelect then none else database.bootstrapTokens.find? hash

/-- What the condition of the update says, in the comparisons of the database. -/
def consumable (row : RelayBootstrapTokenRow) (now : UInt64) : Bool :=
  decide (row.expiresUnixMilliseconds.toInt64 > now.toInt64) &&
    decide (row.remainingUses.toInt64 > 0)

/-- The checks of the row that was found and the update. -/
def consumeRow (hash : RelayBootstrapTokenHash) (row : RelayBootstrapTokenRow)
    (tenant : Text) (deviceId : DeviceId) (now : UInt64) :
    Except Error (RelayBootstrapConsumption × RelayDatabase) :=
  if row.tenant ≠ tenant then
    .error (relayDatabaseError .authentication "relay_bootstrap_token_invalid")
  else if now ≥ row.expiresUnixMilliseconds then
    .error (relayDatabaseError .authentication "relay_bootstrap_token_expired")
  else if row.remainingUses = 0 then
    .error (relayDatabaseError .authentication "relay_bootstrap_token_exhausted")
  else do
    writeCalls faults "relay_database_token_consume_bind_failed"
    stepWrite faults
    if !consumable row now then
      .error (relayDatabaseError .authentication "relay_bootstrap_token_invalid")
    else do
      prepareAudit faults
      if deviceId.isZero then
        .error (relayDatabaseError .configuration "relay_database_device_id_invalid")
      else do
        writeAudit faults "relay_database_audit_bind_failed"
        commitCall faults
        .ok ({ tokenId := row.tokenId, tenant := tenant
               expiresUnixMilliseconds := row.expiresUnixMilliseconds
               remainingUsesBefore := row.remainingUses
               remainingUsesAfter := row.remainingUses - 1 },
          { database with
            bootstrapTokens := database.bootstrapTokens.insert hash
              { row with remainingUses := row.remainingUses - 1 } })

def consumeTokenBody (token : List UInt8) (tenant : Text) (deviceId : DeviceId)
    (now : UInt64) : Except Error (RelayBootstrapConsumption × RelayDatabase) :=
  if !validTenant tenant then
    .error (relayDatabaseError .configuration "relay_database_tenant_invalid")
  else do
    let hash ← hashRelayBootstrapToken crypto token
    beginCall faults
    selectCalls faults "relay_database_token_lookup_bind_failed"
    match database.selectToken faults hash with
    | none => .error (relayDatabaseError .authentication "relay_bootstrap_token_invalid")
    | some row => database.consumeRow faults hash row tenant deviceId now

def consumeBootstrapToken (token : List UInt8) (tenant : Text)
    (deviceId : DeviceId) (now : UInt64) : Except Error RelayBootstrapConsumption × RelayDatabase :=
  commit database (database.consumeTokenBody crypto faults token tenant deviceId now)

/-! ### Devices -/

variable (record : RelayDeviceRecord)

def deviceRecordInvalid (now : UInt64) : Bool :=
  record.deviceId.isZero || allZero record.publicKey.val || record.enrollmentGeneration == 0 ||
    now == 0 || !validTenant record.tenant || !validTenant record.displayName ||
    record.status != .active

/-- The statement that inserts the row of a device or overwrites it. -/
def writeDevice : Except Error (Unit × RelayDatabase) := do
  writeCalls faults "relay_device_upsert_bind_failed"
  stepWrite faults
  if checked : 0 < record.enrollmentGeneration.toInt64 then do
    prepareAudit faults
    writeAudit faults "relay_device_audit_bind_failed"
    commitCall faults
    .ok ((), { database with
      devices := database.devices.insert record.deviceId ⟨record, checked⟩ })
  else .error (databaseError "relay_database_write_failed")

/-- A device that has a row needs a newer generation, unless it asks for what it has. -/
def replaceDevice (existing record : RelayDeviceRecord) :
    Except Error (Unit × RelayDatabase) :=
  if record.enrollmentGeneration < existing.enrollmentGeneration then
    .error (relayDatabaseError .permission "relay_device_generation_older")
  else if record.enrollmentGeneration = existing.enrollmentGeneration then
    if existing.publicKey ≠ record.publicKey ∨ existing.tenant ≠ record.tenant then
      .error (relayDatabaseError .permission "relay_device_enrollment_conflict")
    else if existing.status = .revoked then
      .error (relayDatabaseError .permission "relay_device_revoked")
    else .ok ((), database)
  else database.writeDevice faults record

def storeDevice : Except Error (Unit × RelayDatabase) :=
  match database.devices.find? record.deviceId with
  | none => database.writeDevice faults record
  | some existing => database.replaceDevice faults existing.toRelayDeviceRecord record

def enrollBody (now : UInt64) : Except Error (Unit × RelayDatabase) :=
  if deviceRecordInvalid record now then
    .error (relayDatabaseError .configuration "relay_device_record_invalid")
  else if (crypto.deriveDeviceId record.publicKey).toOption ≠ some record.deviceId then
    .error (relayDatabaseError .authentication "relay_device_id_mismatch")
  else do
    beginCall faults
    selectCalls faults "relay_device_select_bind_failed"
    attempt (faults .stepSelect) (databaseError "relay_device_select_failed")
    database.storeDevice faults record

def enrollDevice (now : UInt64) : Except Error Unit × RelayDatabase :=
  commit database (database.enrollBody crypto faults record now)

def device (deviceId : DeviceId) : Except Error (Option RelayDeviceRecord) :=
  if deviceId.isZero then
    .error (relayDatabaseError .configuration "relay_device_id_invalid")
  else do
    selectCalls faults "relay_device_select_bind_failed"
    attempt (faults .stepSelect) (databaseError "relay_device_select_failed")
    .ok ((database.devices.find? deviceId).map RelayDeviceRow.toRelayDeviceRecord)

def revokeBody (deviceId : DeviceId) (generation now : UInt64) :
    Except Error (Unit × RelayDatabase) :=
  if deviceId.isZero || generation == 0 || now == 0 then
    .error (relayDatabaseError .configuration "relay_revocation_invalid")
  else do
    beginCall faults
    selectCalls faults "relay_revoke_select_bind_failed"
    attempt (faults .stepSelect) (databaseError "relay_revoke_select_failed")
    match database.devices.find? deviceId with
    | none => .error (relayDatabaseError .permission "relay_device_not_found")
    | some existing =>
      if generation ≤ existing.enrollmentGeneration then
        .error (relayDatabaseError .permission "relay_revocation_generation_not_newer")
      else do
        writeCalls faults "relay_revoke_update_bind_failed"
        stepWrite faults
        if checked : 0 < generation.toInt64 then do
          prepareAudit faults
          writeAudit faults "relay_revoke_audit_bind_failed"
          commitCall faults
          .ok ((), { database with
            devices := database.devices.insert deviceId
              ⟨{ existing.toRelayDeviceRecord with
                 enrollmentGeneration := generation, status := .revoked }, checked⟩ })
        else .error (databaseError "relay_database_write_failed")

def revokeDevice (deviceId : DeviceId) (generation now : UInt64) :
    Except Error Unit × RelayDatabase :=
  commit database (database.revokeBody faults deviceId generation now)

/-! ### The owner password -/

def validEnrollmentPasswordRecord (record : RelayEnrollmentPasswordRecord) : Bool :=
  record.formatVersion == 1 && record.kdfOperations != 0 && decide (record.kdfOperations ≤ 16) &&
    decide (record.kdfMemoryKib ≥ 8192) && record.updatedUnixMilliseconds != 0 &&
    !record.encoded.isEmpty &&
    decide (record.encoded.length ≤ relayEnrollmentPasswordEncodedMaxBytes) &&
    record.encoded.all fun byte => byte ≥ 0x21 && byte ≤ 0x7e

def setPasswordBody (record : RelayEnrollmentPasswordRecord) :
    Except Error (Unit × RelayDatabase) :=
  if !validEnrollmentPasswordRecord record then
    .error (relayDatabaseError .configuration "relay_enrollment_password_record_invalid")
  else do
    beginCall faults
    writeCalls faults "relay_enrollment_password_bind_failed"
    stepWrite faults
    commitCall faults
    .ok ((), { database with enrollmentPassword := some record })

def setEnrollmentPasswordVerifier (record : RelayEnrollmentPasswordRecord) :
    Except Error Unit × RelayDatabase :=
  commit database (database.setPasswordBody faults record)

def enrollmentPasswordVerifier :
    Except Error (Option RelayEnrollmentPasswordRecord) := do
  attempt (faults .prepareSelect) (databaseError "relay_database_prepare_failed")
  attempt (faults .stepSelect) (databaseError "relay_enrollment_password_select_failed")
  match database.enrollmentPassword with
  | none => .ok none
  | some record =>
    if validEnrollmentPasswordRecord record then .ok (some record)
    else .error (databaseError "relay_enrollment_password_record_corrupt")

end RelayDatabase

end Heyaki
