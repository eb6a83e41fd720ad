/-
Purpose: the leases of online endpoints (`relay_lease_table.cpp`).

A lease is stored under its device and endpoint.  Two indices list the endpoints of a
device and the devices of a tenant.  Points in time are nanoseconds of the steady clock,
durations are milliseconds.  The counters for diagnostics are left out.
-/
import Heyaki.Core.Signing
import Heyaki.Foundation.SetIndex

namespace Heyaki

open Foundation (SortedMap SetIndex)

structure RelayLeaseKey where
  deviceId : DeviceId
  endpointId : EndpointId
  deriving Repr, DecidableEq

/-- First by device, then by endpoint. -/
instance : LinearOrder RelayLeaseKey :=
  LinearOrder.lift' (fun key => toLex (key.deviceId, key.endpointId)) fun one two same => by
    cases one
    cases two
    cases same
    rfl

structure RelayLeaseRecord where
  key : RelayLeaseKey
  tenant : Text
  leaseGeneration : UInt64
  expiresAt : Int
  deriving Repr, DecidableEq

structure RelayLeaseConfig where
  capacity : Nat := 4096
  perDeviceEndpointCapacity : Nat := 64
  perTenantDeviceCapacity : Nat := 4096
  defaultLease : Int := 45000
  maximumLease : Int := 120000
  deriving Repr, DecidableEq

inductive RelayLeaseHeartbeatOutcome where
  | inserted | refreshed
  deriving Repr, DecidableEq

structure RelayLeaseHeartbeatResult where
  outcome : RelayLeaseHeartbeatOutcome
  leaseGeneration : UInt64
  expiresAt : Int
  deriving Repr, DecidableEq

def leaseError (code : ErrorCode) (detail : String) : Error :=
  { code := code, component := "relay_lease", safeDetail := detail }

def validTenant (value : Text) : Bool :=
  !value.bytes.isEmpty && decide (value.bytes.length ≤ 128) && value.bytes.all fun byte => 0x20 ≤ byte

def effectiveLease (requested : Int) (config : RelayLeaseConfig) : Int :=
  if requested ≤ 0 then config.defaultLease else requested

structure RelayLeaseTable where
  config : RelayLeaseConfig
  nextGeneration : UInt64 := 1
  entries : SortedMap RelayLeaseKey RelayLeaseRecord := {}
  endpointsByDevice : SetIndex DeviceId EndpointId := {}
  devicesByTenant : SetIndex Text DeviceId := {}

namespace RelayLeaseTable

def create (config : RelayLeaseConfig) : Except Error RelayLeaseTable :=
  if config.capacity = 0 ∨ config.perDeviceEndpointCapacity = 0 ∨ config.perTenantDeviceCapacity = 0 ∨
      config.defaultLease ≤ 0 ∨ config.maximumLease < config.defaultLease then
    .error (leaseError .configuration "lease_config_invalid")
  else .ok { config := config }

variable (table : RelayLeaseTable) (key : RelayLeaseKey)

/-- The device leaves the index of the tenant with any of its endpoints. -/
def unlink : RelayLeaseTable :=
  match table.entries.find? key with
  | none => table
  | some record => { table with
      endpointsByDevice :=
        SetIndex.discard table.endpointsByDevice record.key.deviceId record.key.endpointId
      devicesByTenant := SetIndex.discard table.devicesByTenant record.tenant record.key.deviceId
      entries := table.entries.erase key }

def expire (now : Int) : RelayLeaseTable :=
  (table.entries.filter fun _ record => decide (record.expiresAt ≤ now)).keys.foldl unlink table

variable (tenant : Text)

/-- A new lease, if the three limits allow it. -/
def insertLease (duration now : Int) : Except Error RelayLeaseHeartbeatResult × RelayLeaseTable :=
  let table :=
    if table.entries.size ≥ table.config.capacity then table.expire now else table
  if table.entries.size ≥ table.config.capacity then
    (.error (leaseError .resourceExhausted "lease_capacity_exhausted"), table)
  else if (table.endpointsByDevice.find? key.deviceId).any fun endpoints =>
      decide (endpoints.size ≥ table.config.perDeviceEndpointCapacity) then
    (.error (leaseError .resourceExhausted "lease_per_device_capacity_exhausted"), table)
  else if (table.devicesByTenant.find? tenant).any fun devices =>
      !devices.contains key.deviceId &&
        decide (devices.size ≥ table.config.perTenantDeviceCapacity) then
    (.error (leaseError .resourceExhausted "lease_per_tenant_capacity_exhausted"), table)
  else
    let record : RelayLeaseRecord :=
      { key := key, tenant := tenant, leaseGeneration := table.nextGeneration
        expiresAt := now + duration * 1000000 }
    (.ok { outcome := .inserted, leaseGeneration := record.leaseGeneration
           expiresAt := record.expiresAt },
      { table with
        nextGeneration := table.nextGeneration + 1
        entries := table.entries.insert key record
        endpointsByDevice := SetIndex.add table.endpointsByDevice key.deviceId key.endpointId
        devicesByTenant := SetIndex.add table.devicesByTenant tenant key.deviceId })

def heartbeat (lease now : Int) : Except Error RelayLeaseHeartbeatResult × RelayLeaseTable :=
  if key.deviceId.isZero || key.endpointId.isZero || !validTenant tenant ||
      decide (lease > table.config.maximumLease) then
    (.error (leaseError .configuration "lease_heartbeat_invalid"), table)
  else
    let duration := effectiveLease lease table.config
    match table.entries.find? key with
    | some existing =>
      if existing.expiresAt > now then
        if existing.tenant ≠ tenant then
          (.error (leaseError .permission "lease_tenant_conflict"), table)
        else
          let refreshed := { existing with
            expiresAt := now + duration * 1000000
            leaseGeneration := table.nextGeneration }
          (.ok { outcome := .refreshed, leaseGeneration := refreshed.leaseGeneration
                 expiresAt := refreshed.expiresAt },
            { table with
              nextGeneration := table.nextGeneration + 1
              entries := table.entries.insert key refreshed })
      else (table.unlink key).insertLease key tenant duration now
    | none => table.insertLease key tenant duration now

def remove : RelayLeaseTable :=
  if table.entries.contains key then table.unlink key else table

def removeDevice (deviceId : DeviceId) : Nat × RelayLeaseTable :=
  let keys := (SetIndex.members table.endpointsByDevice deviceId).keys.map fun endpointId =>
    RelayLeaseKey.mk deviceId endpointId
  (keys.length, keys.foldl remove table)

def get (now : Int) : Option RelayLeaseRecord :=
  (table.entries.find? key).filter fun record => decide (record.expiresAt > now)

def onlineDevice (deviceId : DeviceId) (now : Int) : List RelayLeaseRecord :=
  (SetIndex.members table.endpointsByDevice deviceId).keys.filterMap fun endpointId =>
    table.get ⟨deviceId, endpointId⟩ now

def onlineTenant (now : Int) : List RelayLeaseRecord :=
  (SetIndex.members table.devicesByTenant tenant).keys.flatMap fun deviceId =>
    table.onlineDevice deviceId now

end RelayLeaseTable

end Heyaki
