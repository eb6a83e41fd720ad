/-
Purpose: what a refused heartbeat says about the leases that are live.

Expired leases are taken out on the way to the total limit only.  The limits for a device
and for a tenant count them until the next sweep.

Main exports: `RelayLeaseTable.DeviceLive`, `RelayLeaseTable.rejected_heartbeat_full`,
`RelayLeaseTable.expired_lease_blocks`
-/
import Heyaki.Proofs.LeaseTable

namespace Heyaki

open Foundation
open SortedMap (length_keys keys_nodup mem_keys_iff find?_filter)
open SetIndex (members)

namespace RelayLeaseTable

variable {table : RelayLeaseTable} {now : Int} {key : RelayLeaseKey} {tenant : Text}
  {deviceId : DeviceId}

def liveLeases (table : RelayLeaseTable) (now : Int) : SortedMap RelayLeaseKey RelayLeaseRecord :=
  table.entries.filter fun _ record => decide (now < record.expiresAt)

def liveEndpoints (table : RelayLeaseTable) (deviceId : DeviceId) (now : Int) :
    List RelayLeaseKey :=
  (table.liveLeases now).keys.filter fun key => decide (key.deviceId = deviceId)

def liveDevices (table : RelayLeaseTable) (tenant : Text) (now : Int) : List DeviceId :=
  (((table.liveLeases now).filter fun _ record => decide (record.tenant = tenant)).keys.map
    RelayLeaseKey.deviceId).dedup

/-- A heartbeat for a new lease in a full table takes out expired leases first. -/
def Sweeps (table : RelayLeaseTable) (key : RelayLeaseKey) : Prop :=
  table.entries.find? key = none ∧ table.config.capacity ≤ table.entries.size

/-- No other lease of the device is expired, or expired ones are taken out first. -/
def DeviceLive (table : RelayLeaseTable) (key : RelayLeaseKey) (now : Int) : Prop :=
  Sweeps table key ∨ ∀ other record, table.entries.find? other = some record →
    other.deviceId = key.deviceId → other ≠ key → now < record.expiresAt

/-- Every other device with a lease of the tenant has a live one. -/
def TenantLive (table : RelayLeaseTable) (key : RelayLeaseKey) (tenant : Text) (now : Int) : Prop :=
  Sweeps table key ∨ ∀ other record, table.entries.find? other = some record →
    record.tenant = tenant → other.deviceId ≠ key.deviceId →
      ∃ endpointId stored, table.entries.find? ⟨other.deviceId, endpointId⟩ = some stored ∧
        stored.tenant = tenant ∧ now < stored.expiresAt

theorem mem_liveLeases :
    key ∈ (table.liveLeases now).keys ↔
      ∃ record, table.entries.find? key = some record ∧ now < record.expiresAt := by
  unfold liveLeases
  rw [mem_keys_iff]
  simp only [find?_filter, Option.filter_eq_some_iff, decide_eq_true_eq]

theorem mem_liveEndpoints :
    key ∈ table.liveEndpoints deviceId now ↔ key.deviceId = deviceId ∧
      ∃ record, table.entries.find? key = some record ∧ now < record.expiresAt := by
  unfold liveEndpoints
  rw [List.mem_filter, mem_liveLeases, decide_eq_true_eq, and_comm]

theorem mem_liveDevices :
    deviceId ∈ table.liveDevices tenant now ↔
      ∃ endpointId record, table.entries.find? ⟨deviceId, endpointId⟩ = some record ∧
        record.tenant = tenant ∧ now < record.expiresAt := by
  unfold liveDevices liveLeases
  rw [List.mem_dedup, List.mem_map]
  simp only [mem_keys_iff, find?_filter, Option.filter_eq_some_iff,
    decide_eq_true_eq]
  constructor
  · rintro ⟨⟨device, endpointId⟩, ⟨record, ⟨found, live⟩, same⟩, rfl⟩
    exact ⟨endpointId, record, found, same, live⟩
  · rintro ⟨endpointId, record, found, same, live⟩
    exact ⟨⟨deviceId, endpointId⟩, ⟨record, ⟨found, live⟩, same⟩, rfl⟩

/-- What a new lease finds was there before, apart from its own key, and is live after a
sweep. -/
theorem find?_ready {other : RelayLeaseKey} {record : RelayLeaseRecord}
    (found : ((table.unlink key).swept now).entries.find? other = some record) :
    table.entries.find? other = some record ∧ other ≠ key ∧
      ((table.unlink key).config.capacity ≤ (table.unlink key).entries.size →
        now < record.expiresAt) := by
  have stored : (table.unlink key).entries.find? other = some record := by
    rcases find?_swept now with gone | stays
    · rw [gone] at found
      cases found
    · exact stays ▸ found
  have before := stored
  rw [find?_unlink] at before
  split_ifs at before with same
  refine ⟨before, same, ?_⟩
  intro full
  unfold swept expire at found
  rw [if_pos full, find?_unlinkAll] at found
  split_ifs at found with late
  by_contra expired
  apply late
  apply mem_keys_iff.mpr
  refine ⟨record, ?_⟩
  rw [find?_filter, stored]
  simp only [Option.filter_some, not_lt.mp expired, decide_true, ite_true]

theorem Sweeps.full (sweeps : Sweeps table key) :
    (table.unlink key).config.capacity ≤ (table.unlink key).entries.size := by
  rw [unlink_of_absent sweeps.1]
  exact sweeps.2

section

variable (kept : Kept table)

include kept

theorem live_of_full (reached : ((table.unlink key).swept now).config.capacity ≤
      ((table.unlink key).swept now).entries.size) :
    table.config.capacity ≤ (table.liveLeases now).size := by
  have full : (table.unlink key).config.capacity ≤ (table.unlink key).entries.size := by
    by_contra room
    rw [swept_of_room (Nat.not_le.mp room)] at reached
    exact room reached
  rw [(kept.ready key now).config] at reached
  apply reached.trans
  rw [← length_keys, ← length_keys]
  apply List.Subperm.length_le
  apply List.subperm_of_subset (keys_nodup _)
  intro other member
  obtain ⟨record, found⟩ := mem_keys_iff.mp member
  obtain ⟨before, -, live⟩ := find?_ready found
  exact mem_liveLeases.mpr ⟨record, before, live full⟩

section

variable (reached : ((table.unlink key).swept now).config.perDeviceEndpointCapacity ≤
  (members ((table.unlink key).swept now).endpointsByDevice key.deviceId).size)

include reached

theorem live_of_deviceFull (live : DeviceLive table key now) :
    table.config.perDeviceEndpointCapacity ≤ (table.liveEndpoints key.deviceId now).length := by
  rw [(kept.ready key now).config] at reached
  apply reached.trans
  rw [← length_keys, ← List.length_map (RelayLeaseKey.mk key.deviceId)]
  apply List.Subperm.length_le
  apply List.subperm_of_subset
  · exact (keys_nodup _).map fun one two same => (RelayLeaseKey.mk.inj same).2
  · intro other member
    obtain ⟨endpointId, listed, rfl⟩ := List.mem_map.mp member
    obtain ⟨record, found⟩ :=
      Option.ne_none_iff_exists'.mp (((kept.ready key now).kept.devices _ _).mp listed)
    obtain ⟨before, different, swept⟩ := find?_ready found
    refine mem_liveEndpoints.mpr ⟨rfl, record, before, ?_⟩
    rcases live with sweeps | all
    · exact swept sweeps.full
    · exact all _ record before rfl different

/-- A lease of the device that is expired takes the place of a live one. -/
theorem deviceLive_of_deviceFull (enough : table.config.perDeviceEndpointCapacity ≤
      (table.liveEndpoints key.deviceId now).length) : DeviceLive table key now := by
  by_cases sweeps : Sweeps table key
  · exact .inl sweeps
  -- The own lease would have left room, so the table is the one before the call.
  have absent : table.entries.find? key = none := by
    by_contra present
    obtain ⟨existing, found⟩ := Option.ne_none_iff_exists'.mp present
    obtain ⟨total, device, -⟩ := kept.unlink_room found
    rw [swept_of_room total] at reached
    exact absurd device (Nat.not_lt.mpr reached)
  have listed : table.liveEndpoints key.deviceId now ⊆
      (members table.endpointsByDevice key.deviceId).keys.map
        (RelayLeaseKey.mk key.deviceId) := by
    intro other member
    obtain ⟨device, record, found, -⟩ := mem_liveEndpoints.mp member
    refine (mem_endpointKeys kept).mpr ⟨device, ?_⟩
    exact fun none => Option.some_ne_none record (found.symm.trans none)
  have few : ((members table.endpointsByDevice key.deviceId).keys.map
      (RelayLeaseKey.mk key.deviceId)).length ≤ (table.liveEndpoints key.deviceId now).length := by
    rw [List.length_map, length_keys]
    exact (kept.perDevice _).trans enough
  have nodup : (table.liveEndpoints key.deviceId now).Nodup := (keys_nodup _).filter _
  have all := (List.subperm_of_subset nodup listed).perm_of_length_le few
  refine .inr ?_
  intro other record found device _
  have member : other ∈ (members table.endpointsByDevice key.deviceId).keys.map
      (RelayLeaseKey.mk key.deviceId) := by
    refine (mem_endpointKeys kept).mpr ⟨device, ?_⟩
    exact fun none => Option.some_ne_none record (found.symm.trans none)
  obtain ⟨-, stored, lookup, live⟩ := mem_liveEndpoints.mp (all.mem_iff.mpr member)
  rw [found] at lookup
  cases lookup
  exact live

end

theorem live_of_tenantFull
    (absent : key.deviceId ∉ (members ((table.unlink key).swept now).devicesByTenant tenant).keys)
    (reached : ((table.unlink key).swept now).config.perTenantDeviceCapacity ≤
      (members ((table.unlink key).swept now).devicesByTenant tenant).size)
    (live : TenantLive table key tenant now) :
    table.config.perTenantDeviceCapacity ≤ (table.liveDevices tenant now).length := by
  rw [(kept.ready key now).config] at reached
  apply reached.trans
  rw [← length_keys]
  apply List.Subperm.length_le
  apply List.subperm_of_subset (keys_nodup _)
  intro deviceId listed
  obtain ⟨endpointId, record, found, same⟩ :=
    (kept.ready key now).kept.tenants tenant deviceId listed
  obtain ⟨before, -, swept⟩ := find?_ready found
  apply mem_liveDevices.mpr
  rcases live with sweeps | all
  · exact ⟨endpointId, record, before, same, swept sweeps.full⟩
  · apply all ⟨deviceId, endpointId⟩ record before same
    rintro rfl
    exact absent listed

end

theorem Beats.inserts {lease : Int} {detail : String}
    {outcome : Except Error RelayLeaseHeartbeatResult × RelayLeaseTable}
    (beats : Beats table key tenant lease now outcome)
    (rejected : outcome.1 = .error (leaseError .resourceExhausted detail)) :
    ∃ duration, Inserts (table.unlink key) key tenant duration now outcome := by
  cases beats with
  | refused error code =>
    cases rejected
    exact absurd rfl code
  | renewed result existing record found own same => cases rejected
  | entered duration ended inserts => exact ⟨duration, inserts⟩

/-- A heartbeat that is refused for the total meets as many live leases.  One refused for
its device does so exactly if no other lease of the device is expired, and one refused for
its tenant if no other device of the tenant has only expired leases. -/
theorem rejected_heartbeat_full {config : RelayLeaseConfig} {start : RelayLeaseTable}
    (created : create config = .ok start) (ops : List LeaseOp) (key : RelayLeaseKey)
    (tenant : Text) (lease now : Int) :
    (((ops.foldl step start).heartbeat key tenant lease now).1 =
        .error (leaseError .resourceExhausted "lease_capacity_exhausted") →
      config.capacity ≤ ((ops.foldl step start).liveLeases now).size) ∧
    (((ops.foldl step start).heartbeat key tenant lease now).1 =
        .error (leaseError .resourceExhausted "lease_per_device_capacity_exhausted") →
      (config.perDeviceEndpointCapacity ≤
          ((ops.foldl step start).liveEndpoints key.deviceId now).length ↔
        DeviceLive (ops.foldl step start) key now)) ∧
    (((ops.foldl step start).heartbeat key tenant lease now).1 =
        .error (leaseError .resourceExhausted "lease_per_tenant_capacity_exhausted") →
      TenantLive (ops.foldl step start) key tenant now →
      config.perTenantDeviceCapacity ≤
        ((ops.foldl step start).liveDevices tenant now).length) := by
  obtain ⟨begin, chosen⟩ := kept_of_create created
  obtain ⟨kept, limits⟩ := begin.run ops
  have same : (ops.foldl step start).config = config := limits.trans chosen
  rw [← same]
  have beats := heartbeat_beats kept key tenant lease now
  generalize (ops.foldl step start).heartbeat key tenant lease now = outcome at beats
  refine ⟨?_, ?_, ?_⟩
  · intro rejected
    obtain ⟨duration, inserts⟩ := beats.inserts rejected
    cases inserts with
    | full reached => exact live_of_full kept reached
    | _ => simp [leaseError] at rejected
  · intro rejected
    obtain ⟨duration, inserts⟩ := beats.inserts rejected
    cases inserts with
    | deviceFull room reached =>
      exact ⟨deviceLive_of_deviceFull kept reached, live_of_deviceFull kept reached⟩
    | _ => simp [leaseError] at rejected
  · intro rejected live
    obtain ⟨duration, inserts⟩ := beats.inserts rejected
    cases inserts with
    | tenantFull room absent reached => exact live_of_tenantFull kept absent reached live
    | _ => simp [leaseError] at rejected

/-- One endpoint for each device, and its lease of a millisecond. -/
def oneEndpoint : RelayLeaseTable := { config := { perDeviceEndpointCapacity := 1 } }

def shortLease : List LeaseOp := [.heartbeat ⟨.filled 1, .filled 1⟩ ⟨[97]⟩ 1 0]

theorem rejected_heartbeat_full_live :
    1 ≤ ((shortLease.foldl step oneEndpoint).liveEndpoints (.filled 1) 0).length := by
  have created : create { perDeviceEndpointCapacity := 1 } = .ok oneEndpoint := rfl
  have limits := rejected_heartbeat_full created shortLease ⟨.filled 1, .filled 2⟩ ⟨[97]⟩ 1 0
  apply (limits.2.1 (by decide +kernel)).mpr
  refine .inr ?_
  intro other record found _ _
  have live : ∀ entry ∈ (shortLease.foldl step oneEndpoint).entries.entries,
      0 < entry.2.expiresAt := by decide +kernel
  exact live (other, record) (SortedMap.mem_entries_iff.mpr found)

/-- Two milliseconds later the lease is over, and the second endpoint of the device is
refused although no lease is live. -/
theorem expired_lease_blocks :
    ((shortLease.foldl step oneEndpoint).heartbeat ⟨.filled 1, .filled 2⟩ ⟨[97]⟩ 1 2000000).1 =
      .error (leaseError .resourceExhausted "lease_per_device_capacity_exhausted") ∧
    (shortLease.foldl step oneEndpoint).liveEndpoints (.filled 1) 2000000 = [] := by
  decide +kernel

end RelayLeaseTable

end Heyaki
