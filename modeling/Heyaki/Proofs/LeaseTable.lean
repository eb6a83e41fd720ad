/-
Purpose: the lease table and its two indices over every history of calls.

The index of endpoints is always exact, and the index of tenants never lists a device
without a lease of that tenant.  It misses devices, though: taking out one lease of a
device takes the device out.  And a device with leases of two tenants shows both to
either.  Both stay away if the leases of a device are of one tenant and end together.

Main exports: `RelayLeaseTable.Kept`, `RelayLeaseTable.lease_table_exact`,
`RelayLeaseTable.remaining_endpoint_hidden`
-/
import Heyaki.Foundation.Machine
import Heyaki.Relay.LeaseTable

namespace Heyaki

open Foundation SortedMap SetIndex

namespace RelayLeaseTable

variable {keys : List RelayLeaseKey} {table : RelayLeaseTable} {config : RelayLeaseConfig}
  {tenant : Text} {deviceId : DeviceId} {key : RelayLeaseKey} {existing record : RelayLeaseRecord}
  {lease now : Int} {outcome : Except Error RelayLeaseHeartbeatResult × RelayLeaseTable}
  {op : LeaseOp}

/-! ### What holds in every table -/

structure Kept (table : RelayLeaseTable) : Prop where
  limits : 0 < table.config.perDeviceEndpointCapacity ∧ 0 < table.config.perTenantDeviceCapacity
  keyed : ∀ key record, table.entries.find? key = some record → record.key = key
  devices : ∀ deviceId endpointId,
    endpointId ∈ (members table.endpointsByDevice deviceId).keys ↔
      table.entries.find? ⟨deviceId, endpointId⟩ ≠ none
  tenants : ∀ tenant deviceId,
    deviceId ∈ (members table.devicesByTenant tenant).keys →
      ∃ endpointId record, table.entries.find? ⟨deviceId, endpointId⟩ = some record ∧
        record.tenant = tenant
  capacity : table.entries.size ≤ table.config.capacity
  perDevice : ∀ deviceId, (members table.endpointsByDevice deviceId).size ≤
    table.config.perDeviceEndpointCapacity
  perTenant : ∀ tenant, (members table.devicesByTenant tenant).size ≤
    table.config.perTenantDeviceCapacity

theorem kept_of_create (created : create config = .ok table) :
    Kept table ∧ table.config = config := by
  unfold create at created
  split_ifs at created with refused
  cases created
  simp only [not_or] at refused
  obtain ⟨-, device, tenant, -⟩ := refused
  refine ⟨⟨⟨Nat.pos_of_ne_zero device, Nat.pos_of_ne_zero tenant⟩, ?_, ?_, ?_, Nat.zero_le _,
    fun _ => Nat.zero_le _, fun _ => Nat.zero_le _⟩, rfl⟩
  · intro key record found
    cases found
  · intro deviceId endpointId
    exact ⟨fun member => (by cases member), fun found => absurd rfl found⟩
  · intro tenant deviceId member
    cases member

/-! ### Taking leases out -/

variable (other : RelayLeaseKey)

theorem find?_unlink : (table.unlink key).entries.find? other =
      if other = key then none else table.entries.find? other := by
  unfold unlink
  split
  · rename_i absent
    split_ifs with same
    · rw [same, absent]
    · rfl
  · refine (find?_erase).trans ?_
    split_ifs
    · rfl
    · rfl

theorem unlink_of_absent (absent : table.entries.find? key = none) : table.unlink key = table := by
  unfold unlink
  rw [absent]

/-- The table after calls: it is kept, and its limits are the same. -/
structure Keeps (table after : RelayLeaseTable) : Prop where
  kept : Kept after
  config : after.config = table.config

theorem Keeps.trans {middle after : RelayLeaseTable} (first : Keeps table middle)
    (second : Keeps middle after) : Keeps table after :=
  ⟨second.kept, second.config.trans first.config⟩

/-- The device is off the tenant's list, whatever other leases it has. -/
theorem Kept.mem_tenant_unlink (kept : Kept table) :
    deviceId ∈ (members (table.unlink key).devicesByTenant tenant).keys ↔
      deviceId ∈ (members table.devicesByTenant tenant).keys ∧
        ∀ record, table.entries.find? key = some record →
          ¬ (key.deviceId = deviceId ∧ record.tenant = tenant) := by
  unfold unlink
  split
  · rename_i absent
    rw [absent]
    simp
  · rename_i record found
    have own := kept.keyed key record found
    rw [mem_members_discard, own, found]
    constructor
    · rintro ⟨member, other⟩
      refine ⟨member, ?_⟩
      rintro _ ⟨⟩ ⟨device, same⟩
      exact other ⟨same.symm, device.symm⟩
    · rintro ⟨member, other⟩
      refine ⟨member, ?_⟩
      rintro ⟨same, device⟩
      exact other record rfl ⟨device.symm, same.symm⟩

theorem Kept.unlink (kept : Kept table) (key : RelayLeaseKey) : Keeps table (table.unlink key) := by
  cases stored : table.entries.find? key with
  | none =>
    rw [unlink_of_absent stored]
    exact ⟨kept, rfl⟩
  | some record =>
    have own := kept.keyed key record stored
    unfold RelayLeaseTable.unlink
    rw [stored]
    dsimp only
    rw [own]
    refine ⟨⟨kept.limits, ?_, ?_, ?_, (size_filter_le _ _).trans kept.capacity,
      fun device => (size_discard_le _ _ _).trans (kept.perDevice device),
      fun tenant => (size_discard_le _ _ _).trans (kept.perTenant tenant)⟩, rfl⟩
    · intro other held found
      exact kept.keyed other held (find?_of_erase found).2
    · intro deviceId endpointId
      rw [mem_members_discard, kept.devices, find?_erase]
      by_cases same : RelayLeaseKey.mk deviceId endpointId = key
      · subst same
        simp
      have different : ¬ (deviceId = key.deviceId ∧ endpointId = key.endpointId) := by
        rintro ⟨rfl, rfl⟩
        exact same rfl
      rw [if_neg same]
      exact and_iff_left different
    · intro tenant deviceId member
      obtain ⟨listed, other⟩ := mem_members_discard.mp member
      obtain ⟨endpointId, held, found, same⟩ := kept.tenants tenant deviceId listed
      refine ⟨endpointId, held, ?_, same⟩
      rw [find?_erase, if_neg]
      · exact found
      · rintro rfl
        cases stored.symm.trans found
        exact other ⟨same.symm, rfl⟩

theorem Kept.unlinkAll (kept : Kept table) (keys : List RelayLeaseKey) :
    Keeps table (keys.foldl RelayLeaseTable.unlink table) := by
  induction keys generalizing table with
  | nil => exact ⟨kept, rfl⟩
  | cons key keys ih => exact (kept.unlink key).trans (ih (kept.unlink key).kept)

theorem find?_unlinkAll : (keys.foldl unlink table).entries.find? other =
      if other ∈ keys then none else table.entries.find? other := by
  induction keys generalizing table with
  | nil => rfl
  | cons key keys ih =>
    rw [List.foldl_cons, ih, find?_unlink]
    by_cases same : other = key
    · simp [same]
    · simp [same]

theorem Kept.mem_tenant_unlinkAll (kept : Kept table) :
    deviceId ∈ (members (keys.foldl RelayLeaseTable.unlink table).devicesByTenant
        tenant).keys ↔
      deviceId ∈ (members table.devicesByTenant tenant).keys ∧
        ∀ key ∈ keys, ∀ record, table.entries.find? key = some record →
          ¬ (key.deviceId = deviceId ∧ record.tenant = tenant) := by
  induction keys generalizing table with
  | nil => simp
  | cons key keys ih =>
    rw [List.foldl_cons, ih (kept.unlink key).kept, kept.mem_tenant_unlink, and_assoc]
    apply and_congr_right
    intro _
    constructor
    · rintro ⟨first, rest⟩ other member record found
      rcases List.mem_cons.mp member with rfl | later
      · exact first record found
      by_cases same : other = key
      · subst same
        exact first record found
      · apply rest other later record
        rw [find?_unlink, if_neg same]
        exact found
    · intro all
      refine ⟨fun record found => all key (.head _) record found, ?_⟩
      intro other later record found
      rw [find?_unlink] at found
      split_ifs at found
      exact all other (List.mem_cons_of_mem _ later) record found

/-! ### Putting a lease in -/

def swept (table : RelayLeaseTable) (now : Int) : RelayLeaseTable :=
  if table.entries.size ≥ table.config.capacity then table.expire now else table

theorem Kept.swept (kept : Kept table) (now : Int) : Keeps table (table.swept now) := by
  unfold RelayLeaseTable.swept expire
  split_ifs
  · exact kept.unlinkAll _
  · exact ⟨kept, rfl⟩

theorem Kept.ready (kept : Kept table) (key : RelayLeaseKey) (now : Int) :
    Keeps table ((table.unlink key).swept now) :=
  (kept.unlink key).trans ((kept.unlink key).kept.swept now)

def leaseOf (table : RelayLeaseTable) (key : RelayLeaseKey) (tenant : Text) (duration now : Int) :
    RelayLeaseRecord :=
  { key := key, tenant := tenant, leaseGeneration := table.nextGeneration
    expiresAt := now + duration * 1000000 }

def withLease (table : RelayLeaseTable) (record : RelayLeaseRecord) : RelayLeaseTable :=
  { table with
    nextGeneration := table.nextGeneration + 1
    entries := table.entries.insert record.key record
    endpointsByDevice :=
      add table.endpointsByDevice record.key.deviceId record.key.endpointId
    devicesByTenant := add table.devicesByTenant record.tenant record.key.deviceId }

/-- A new lease is refused by one of the three limits or finds room in all of them. -/
inductive Inserts (table : RelayLeaseTable) (key : RelayLeaseKey) (tenant : Text)
    (duration now : Int) : Except Error RelayLeaseHeartbeatResult × RelayLeaseTable → Prop
  | full (reached : (table.swept now).config.capacity ≤ (table.swept now).entries.size) :
      Inserts table key tenant duration now
        (.error (leaseError .resourceExhausted "lease_capacity_exhausted"), table.swept now)
  | deviceFull (room : (table.swept now).entries.size < (table.swept now).config.capacity)
      (reached : (table.swept now).config.perDeviceEndpointCapacity ≤
        (members (table.swept now).endpointsByDevice key.deviceId).size) :
      Inserts table key tenant duration now
        (.error (leaseError .resourceExhausted "lease_per_device_capacity_exhausted"),
          table.swept now)
  | tenantFull (room : (table.swept now).entries.size < (table.swept now).config.capacity)
      (absent : key.deviceId ∉ (members (table.swept now).devicesByTenant tenant).keys)
      (reached : (table.swept now).config.perTenantDeviceCapacity ≤
        (members (table.swept now).devicesByTenant tenant).size) :
      Inserts table key tenant duration now
        (.error (leaseError .resourceExhausted "lease_per_tenant_capacity_exhausted"),
          table.swept now)
  | inserted (result : RelayLeaseHeartbeatResult)
      (room : (table.swept now).entries.size < (table.swept now).config.capacity)
      (device : (members (table.swept now).endpointsByDevice key.deviceId).size <
        (table.swept now).config.perDeviceEndpointCapacity)
      (tenantRoom : key.deviceId ∉
          (members (table.swept now).devicesByTenant tenant).keys →
        (members (table.swept now).devicesByTenant tenant).size <
          (table.swept now).config.perTenantDeviceCapacity) :
      Inserts table key tenant duration now
        (.ok result,
          (table.swept now).withLease ((table.swept now).leaseOf key tenant duration now))

theorem insertLease_inserts (kept : Kept table) (key : RelayLeaseKey) (tenant : Text)
    (duration now : Int) :
    Inserts table key tenant duration now (table.insertLease key tenant duration now) := by
  have limits := (kept.swept now).kept.limits
  have first : (if table.entries.size ≥ table.config.capacity then table.expire now else table) =
      table.swept now := rfl
  unfold insertLease
  dsimp only
  rw [first]
  split_ifs with full device tenantFull
  · exact .full full
  · have reached := test_members device
    exact .deviceFull (not_le.mp full) (of_decide_eq_true reached)
  · have reached := test_members tenantFull
    rw [Bool.and_eq_true, Bool.not_eq_true', decide_eq_true_eq] at reached
    refine .tenantFull (not_le.mp full) ?_ reached.2
    intro member
    rw [contains_iff.mpr member] at reached
    cases reached.1
  · apply Inserts.inserted _ (not_le.mp full)
    · have fits := test_members_false device
        (decide_eq_false (Nat.not_le.mpr limits.1))
      exact not_le.mp (of_decide_eq_false fits)
    · intro absent
      have fits := test_members_false tenantFull (by
        have room : ¬ 0 ≥ (table.swept now).config.perTenantDeviceCapacity :=
          Nat.not_le.mpr limits.2
        rw [Bool.and_eq_false_iff]
        exact .inr (decide_eq_false room))
      rw [Bool.and_eq_false_iff, Bool.not_eq_false', decide_eq_false_iff_not] at fits
      rcases fits with present | fits
      · exact absurd (contains_iff.mp present) absent
      · exact not_le.mp fits

theorem find?_withLease (table : RelayLeaseTable) (record : RelayLeaseRecord)
    (key : RelayLeaseKey) :
    (table.withLease record).entries.find? key =
      if key = record.key then some record else table.entries.find? key := by
  refine (find?_insert table.entries record.key key record).trans ?_
  split_ifs
  · rfl
  · rfl

def withRenewal (table : RelayLeaseTable) (key : RelayLeaseKey) (record : RelayLeaseRecord) :
    RelayLeaseTable :=
  { table with
    nextGeneration := table.nextGeneration + 1
    entries := table.entries.insert key record }

theorem find?_withRenewal (record : RelayLeaseRecord) :
    (table.withRenewal key record).entries.find? other =
      if other = key then some record else table.entries.find? other := by
  refine (find?_insert table.entries key other record).trans ?_
  split_ifs
  · rfl
  · rfl

theorem Kept.withRenewal (kept : Kept table) (found : table.entries.find? key = some existing)
    (own : record.key = existing.key) (same : record.tenant = existing.tenant) :
    Kept (table.withRenewal key record) := by
  refine ⟨kept.limits, ?_, ?_, ?_, ?_, kept.perDevice, kept.perTenant⟩
  · intro other stored lookup
    rw [find?_withRenewal] at lookup
    split_ifs at lookup with equal
    · cases lookup
      rw [own, equal]
      exact kept.keyed key existing found
    · exact kept.keyed other stored lookup
  · intro deviceId endpointId
    rw [find?_withRenewal]
    refine (kept.devices deviceId endpointId).trans ?_
    split_ifs with equal
    · rw [equal, found]
      simp
    · exact Iff.rfl
  · intro tenant deviceId listed
    obtain ⟨endpointId, stored, lookup, held⟩ := kept.tenants tenant deviceId listed
    by_cases equal : RelayLeaseKey.mk deviceId endpointId = key
    · rw [equal, found] at lookup
      cases lookup
      refine ⟨endpointId, record, ?_, same.trans held⟩
      rw [find?_withRenewal, if_pos equal]
    · refine ⟨endpointId, stored, ?_, held⟩
      rw [find?_withRenewal, if_neg equal]
      exact lookup
  · exact (size_insert_le found).trans kept.capacity

/-- A heartbeat fails without effect, renews a live lease or puts in a new one.  In the
last case the expired lease of the key, if there is one, is gone before the limits are
looked at. -/
inductive Beats (table : RelayLeaseTable) (key : RelayLeaseKey) (tenant : Text) (lease now : Int) :
    Except Error RelayLeaseHeartbeatResult × RelayLeaseTable → Prop
  | refused (error : Error) (code : error.code ≠ .resourceExhausted) :
      Beats table key tenant lease now (.error error, table)
  | renewed (result : RelayLeaseHeartbeatResult) (existing record : RelayLeaseRecord)
      (found : table.entries.find? key = some existing) (own : record.key = existing.key)
      (same : record.tenant = existing.tenant) :
      Beats table key tenant lease now (.ok result, table.withRenewal key record)
  | entered (duration : Int)
      (ended : ∀ existing, table.entries.find? key = some existing → existing.expiresAt ≤ now)
      {outcome : Except Error RelayLeaseHeartbeatResult × RelayLeaseTable}
      (inserts : Inserts (table.unlink key) key tenant duration now outcome) :
      Beats table key tenant lease now outcome

theorem heartbeat_beats (kept : Kept table) (key : RelayLeaseKey) (tenant : Text)
    (lease now : Int) : Beats table key tenant lease now (table.heartbeat key tenant lease now) := by
  have inserts := insertLease_inserts (kept.unlink key).kept key tenant
    (effectiveLease lease table.config) now
  unfold heartbeat
  split
  · apply Beats.refused
    decide
  split
  · rename_i existing found
    split_ifs with live conflict
    · apply Beats.refused
      decide
    · exact .renewed _ existing _ found rfl rfl
    refine .entered _ ?_ inserts
    intro stored lookup
    rw [found] at lookup
    cases lookup
    exact not_lt.mp live
  · rename_i absent
    rw [unlink_of_absent absent] at inserts
    apply Beats.entered (effectiveLease lease table.config)
    · intro stored lookup
      rw [absent] at lookup
      cases lookup
    · rw [unlink_of_absent absent]
      exact inserts

theorem find?_own_unlink : (table.unlink key).entries.find? key = none := by
  rw [find?_unlink, if_pos rfl]

theorem find?_swept (now : Int) :
    (table.swept now).entries.find? key = none ∨
      (table.swept now).entries.find? key = table.entries.find? key := by
  unfold swept expire
  split_ifs
  · rw [find?_unlinkAll]
    split_ifs
    · exact .inl rfl
    · exact .inr rfl
  · exact .inr rfl

theorem Kept.inserts {duration : Int} (kept : Kept table) (absent : table.entries.find? key = none)
    (inserts : Inserts table key tenant duration now outcome) : Keeps table outcome.2 := by
  have ready := kept.swept now
  cases inserts with
  | full reached | deviceFull room reached | tenantFull room listed reached => exact ready
  | inserted result room device tenantRoom =>
    have gone : (table.swept now).entries.find? key = none :=
      (find?_swept now).elim id (·.trans absent)
    have found := find?_withLease (table.swept now)
      ((table.swept now).leaseOf key tenant duration now)
    refine ⟨⟨ready.kept.limits, ?_, ?_, ?_, ?_, ?_, ?_⟩, ready.config⟩
    · intro other stored lookup
      rw [found] at lookup
      split_ifs at lookup with same
      · cases lookup
        exact same.symm
      · exact ready.kept.keyed other stored lookup
    · intro deviceId endpointId
      rw [found]
      unfold RelayLeaseTable.withLease
      rw [mem_members_add, ready.kept.devices]
      split_ifs with same
      · have parts : deviceId = key.deviceId ∧ endpointId = key.endpointId := by
          rw [← show _ = key from same]
          exact ⟨rfl, rfl⟩
        simp [parts, leaseOf]
      · constructor
        · rintro (⟨rfl, rfl⟩ | stored)
          · exact absurd rfl same
          · exact stored
        · exact .inr
    · intro owner deviceId member
      have listed : owner = tenant ∧ deviceId = key.deviceId ∨
          deviceId ∈ (members (table.swept now).devicesByTenant owner).keys :=
        mem_members_add.mp member
      rcases listed with ⟨rfl, rfl⟩ | listed
      · exact ⟨key.endpointId, _, (found key).trans (if_pos rfl), rfl⟩
      · obtain ⟨endpointId, stored, lookup, same⟩ := ready.kept.tenants owner deviceId listed
        refine ⟨endpointId, stored, ?_, same⟩
        rw [found, if_neg]
        · exact lookup
        · intro equal
          rw [equal] at lookup
          cases gone.symm.trans lookup
    · unfold RelayLeaseTable.withLease
      exact (size_insert_of_absent gone).trans_le room
    · exact size_add_le ready.kept.perDevice fun _ => device
    · exact size_add_le ready.kept.perTenant tenantRoom

theorem Kept.beats (kept : Kept table) (beats : Beats table key tenant lease now outcome) :
    Keeps table outcome.2 := by
  cases beats with
  | refused error code => exact ⟨kept, rfl⟩
  | renewed result existing record found own same => exact ⟨kept.withRenewal found own same, rfl⟩
  | entered duration ended inserts =>
    have unlinked := kept.unlink key
    exact unlinked.trans (unlinked.kept.inserts find?_own_unlink inserts)

/-! ### Every history of calls -/

inductive LeaseOp where
  | heartbeat (key : RelayLeaseKey) (tenant : Text) (lease now : Int)
  | remove (key : RelayLeaseKey)
  | removeDevice (deviceId : DeviceId)
  | expire (now : Int)
  deriving Repr, DecidableEq

def step (table : RelayLeaseTable) : LeaseOp → RelayLeaseTable
  | .heartbeat key tenant lease now => (table.heartbeat key tenant lease now).2
  | .remove key => table.remove key
  | .removeDevice deviceId => (table.removeDevice deviceId).2
  | .expire now => table.expire now

theorem remove_eq_unlink : remove = unlink := by
  funext table key
  unfold remove
  split_ifs with stored
  · rfl
  have absent : table.entries.find? key = none := by
    by_contra found
    exact stored (contains_iff.mpr (mem_keys_iff_ne_none.mpr found))
  exact (unlink_of_absent absent).symm

/-- The leases that a call ends; a heartbeat is not one of them. -/
def endedKeys (table : RelayLeaseTable) : LeaseOp → List RelayLeaseKey
  | .heartbeat .. => []
  | .remove key => [key]
  | .removeDevice deviceId =>
    (members table.endpointsByDevice deviceId).keys.map fun endpointId =>
      RelayLeaseKey.mk deviceId endpointId
  | .expire now => (table.entries.filter fun _ record => decide (record.expiresAt ≤ now)).keys

section

variable (kept : Kept table)

include kept

theorem mem_endpointKeys :
    key ∈ (members table.endpointsByDevice deviceId).keys.map (RelayLeaseKey.mk deviceId) ↔
      key.deviceId = deviceId ∧ table.entries.find? key ≠ none := by
  rw [List.mem_map]
  constructor
  · rintro ⟨endpointId, listed, rfl⟩
    exact ⟨rfl, (kept.devices _ _).mp listed⟩
  · rintro ⟨rfl, stored⟩
    exact ⟨key.endpointId, (kept.devices _ _).mpr stored, rfl⟩

theorem step_cases (op : LeaseOp) :
    table.step op = (table.endedKeys op).foldl unlink table ∨
      ∃ key tenant lease now result, op = .heartbeat key tenant lease now ∧
        Beats table key tenant lease now (result, table.step op) := by
  cases op with
  | heartbeat key tenant lease now =>
    exact .inr ⟨key, tenant, lease, now, _, rfl, heartbeat_beats kept key tenant lease now⟩
  | remove key => exact .inl (congrFun (congrFun remove_eq_unlink table) key)
  | removeDevice deviceId =>
    refine .inl ?_
    rw [← remove_eq_unlink]
    rfl
  | expire now => exact .inl rfl

theorem Kept.step (op : LeaseOp) : Keeps table (table.step op) := by
  rcases step_cases kept op with ended | ⟨key, tenant, lease, now, result, -, beats⟩
  · rw [ended]
    exact kept.unlinkAll _
  · exact kept.beats beats

theorem Kept.run (ops : List LeaseOp) :
    Keeps table (ops.foldl RelayLeaseTable.step table) := by
  induction ops generalizing table with
  | nil => exact ⟨kept, rfl⟩
  | cons op ops ih => exact (kept.step op).trans (ih (kept.step op).kept)

end

/-! ### The index of tenants -/

/-- The list of a tenant misses no device, and no device is on two lists. -/
structure Exact (table : RelayLeaseTable) : Prop where
  complete : ∀ key record, table.entries.find? key = some record →
    key.deviceId ∈ (members table.devicesByTenant record.tenant).keys
  single : ∀ key other record stored, table.entries.find? key = some record →
    table.entries.find? other = some stored → key.deviceId = other.deviceId →
    record.tenant = stored.tenant

theorem exact_of_create (created : create config = .ok table) : Exact table := by
  unfold create at created
  split_ifs at created
  cases created
  constructor
  · intro key record found
    cases found
  · intro key other record stored found
    cases found

/-- The leases of a device are all expired or none of them is. -/
def Together (table : RelayLeaseTable) (now : Int) : Prop :=
  ∀ key other record stored, table.entries.find? key = some record →
    table.entries.find? other = some stored → key.deviceId = other.deviceId →
    record.expiresAt ≤ now → stored.expiresAt ≤ now

/-- Calls for devices whose leases are of one tenant and end together. -/
def Uniform (table : RelayLeaseTable) : LeaseOp → Prop
  | .heartbeat key tenant _ now =>
    (∀ other record, other ≠ key → table.entries.find? other = some record →
      other.deviceId = key.deviceId → record.tenant = tenant) ∧
    (table.config.capacity ≤ table.entries.size → Together table now)
  | .remove key => ∀ other, other ≠ key → other.deviceId = key.deviceId →
      table.entries.find? key ≠ none → table.entries.find? other = none
  | .removeDevice _ => True
  | .expire now => Together table now

theorem Exact.unlinkAll (exact : Exact table) (kept : Kept table) {keys : List RelayLeaseKey}
    (closed : ∀ key ∈ keys, table.entries.find? key ≠ none → ∀ other,
      table.entries.find? other ≠ none → other.deviceId = key.deviceId → other ∈ keys) :
    Exact (keys.foldl RelayLeaseTable.unlink table) := by
  have before : ∀ key record,
      (keys.foldl RelayLeaseTable.unlink table).entries.find? key = some record →
        key ∉ keys ∧ table.entries.find? key = some record := by
    intro key record found
    rw [find?_unlinkAll] at found
    split_ifs at found with gone
    exact ⟨gone, found⟩
  constructor
  · intro key record found
    obtain ⟨stays, stored⟩ := before key record found
    apply (kept.mem_tenant_unlinkAll).mpr
    refine ⟨exact.complete key record stored, ?_⟩
    rintro other member last lookup ⟨device, -⟩
    apply stays
    apply closed other member (by rw [lookup]; simp) key (by rw [stored]; simp)
    exact device.symm
  · intro key other record stored found lookup device
    exact exact.single key other record stored (before key record found).2
      (before other stored lookup).2 device

theorem Uniform.closed (kept : Kept table) (uniform : Uniform table op) :
    ∀ key ∈ table.endedKeys op, table.entries.find? key ≠ none → ∀ other,
      table.entries.find? other ≠ none → other.deviceId = key.deviceId →
      other ∈ table.endedKeys op := by
  intro key member present other stored device
  cases op with
  | heartbeat owner tenant lease now => cases member
  | remove owner =>
    cases List.mem_singleton.mp member
    by_contra different
    apply stored
    exact uniform other (fun same => different (List.mem_singleton.mpr same)) device present
  | removeDevice deviceId =>
    obtain ⟨own, -⟩ := (mem_endpointKeys kept).mp member
    exact (mem_endpointKeys kept).mpr ⟨device.trans own, stored⟩
  | expire now =>
    obtain ⟨record, found⟩ := mem_keys_iff.mp member
    obtain ⟨last, lookup⟩ := Option.ne_none_iff_exists'.mp stored
    rw [find?_filter] at found
    obtain ⟨held, late⟩ := Option.filter_eq_some_iff.mp found
    apply mem_keys_iff.mpr
    refine ⟨last, ?_⟩
    rw [find?_filter]
    apply Option.filter_eq_some_iff.mpr
    refine ⟨lookup, decide_eq_true ?_⟩
    exact uniform key other record last held lookup device.symm (of_decide_eq_true late)

theorem swept_of_room (room : table.entries.size < table.config.capacity) :
    table.swept now = table := by
  unfold swept
  rw [if_neg (Nat.not_le.mpr room)]

theorem Exact.swept (exact : Exact table) (kept : Kept table)
    (together : table.config.capacity ≤ table.entries.size → Together table now) :
    Exact (table.swept now) := by
  unfold RelayLeaseTable.swept
  split_ifs with full
  · have uniform : Uniform table (.expire now) := together full
    exact exact.unlinkAll kept (uniform.closed kept)
  · exact exact

/-- A new lease repairs the entry of its own device. -/
theorem exact_withLease
    (complete : ∀ key stored, table.entries.find? key = some stored →
      key.deviceId ≠ record.key.deviceId →
      key.deviceId ∈ (members table.devicesByTenant stored.tenant).keys)
    (single : ∀ key other stored last, table.entries.find? key = some stored →
      table.entries.find? other = some last → key.deviceId = other.deviceId →
      stored.tenant = last.tenant)
    (others : ∀ key stored, table.entries.find? key = some stored →
      key.deviceId = record.key.deviceId → stored.tenant = record.tenant) :
    Exact (table.withLease record) := by
  have before : ∀ key stored, (table.withLease record).entries.find? key = some stored →
      key = record.key ∧ stored = record ∨ table.entries.find? key = some stored := by
    intro key stored found
    rw [find?_withLease] at found
    split_ifs at found with same
    · cases found
      exact .inl ⟨same, rfl⟩
    · exact .inr found
  constructor
  · intro key stored found
    apply mem_members_add.mpr
    rcases before key stored found with ⟨rfl, rfl⟩ | held
    · exact .inl ⟨rfl, rfl⟩
    · by_cases device : key.deviceId = record.key.deviceId
      · exact .inl ⟨others key stored held device, device⟩
      · exact .inr (complete key stored held device)
  · intro key other stored last found lookup device
    rcases before key stored found with ⟨rfl, rfl⟩ | held
    · rcases before other last lookup with ⟨rfl, rfl⟩ | kept
      · rfl
      · exact (others other last kept device.symm).symm
    · rcases before other last lookup with ⟨rfl, rfl⟩ | kept
      · exact others key stored held device
      · exact single key other stored last held kept device

theorem Exact.withRenewal (exact : Exact table) (found : table.entries.find? key = some existing)
    (same : record.tenant = existing.tenant) : Exact (table.withRenewal key record) := by
  have before : ∀ other stored, (table.withRenewal key record).entries.find? other = some stored →
      ∃ held, table.entries.find? other = some held ∧ stored.tenant = held.tenant := by
    intro other stored lookup
    rw [find?_withRenewal] at lookup
    split_ifs at lookup with equal
    · cases lookup
      exact ⟨existing, equal ▸ found, same⟩
    · exact ⟨stored, lookup, rfl⟩
  constructor
  · intro other stored lookup
    obtain ⟨held, last, tenant⟩ := before other stored lookup
    rw [tenant]
    exact exact.complete other held last
  · intro one two stored last lookup second device
    obtain ⟨held, first, tenant⟩ := before one stored lookup
    obtain ⟨kept, next, other⟩ := before two last second
    rw [tenant, other]
    exact exact.single one two held kept first next device

/-- A lease that is taken out leaves room for another one of its device. -/
theorem Kept.unlink_room (kept : Kept table) (found : table.entries.find? key = some existing) :
    (table.unlink key).entries.size < (table.unlink key).config.capacity ∧
      (members (table.unlink key).endpointsByDevice key.deviceId).size <
        (table.unlink key).config.perDeviceEndpointCapacity ∧
      (key.deviceId ∈ (members table.devicesByTenant existing.tenant).keys →
        (members (table.unlink key).devicesByTenant existing.tenant).size <
          (table.unlink key).config.perTenantDeviceCapacity) := by
  have own := kept.keyed key existing found
  rw [(kept.unlink key).config]
  unfold RelayLeaseTable.unlink
  rw [found]
  dsimp only
  rw [own]
  refine ⟨?_, ?_, ?_⟩
  · have size := size_erase_of_found found
    have bound := kept.capacity
    omega
  · have listed : key.endpointId ∈
        (members table.endpointsByDevice key.deviceId).keys := by
      rw [kept.devices, found]
      simp
    exact (size_discard_lt listed).trans_le (kept.perDevice _)
  · intro listed
    exact (size_discard_lt listed).trans_le (kept.perTenant _)

section

variable (exact : Exact table) (kept : Kept table)

include exact kept

/-- So the renewal of an expired lease of the same tenant is not refused. -/
theorem Exact.renewal_inserted {duration : Int} (found : table.entries.find? key = some existing)
    (inserts : Inserts (table.unlink key) key existing.tenant duration now outcome) :
    outcome.2 = (table.unlink key).withLease
      ((table.unlink key).leaseOf key existing.tenant duration now) := by
  obtain ⟨total, device, tenant⟩ := kept.unlink_room found
  have fits := tenant (exact.complete key existing found)
  have same : (table.unlink key).swept now = table.unlink key := swept_of_room total
  cases inserts with
  | full reached =>
    rw [same] at reached
    exact absurd total (Nat.not_lt.mpr reached)
  | deviceFull room reached =>
    rw [same] at reached
    exact absurd device (Nat.not_lt.mpr reached)
  | tenantFull room absent reached =>
    rw [same] at reached
    exact absurd fits (Nat.not_lt.mpr reached)
  | inserted result room deviceRoom tenantRoom =>
    rw [same]

theorem Exact.others_unlink :
    ∀ other stored, (table.unlink key).entries.find? other = some stored →
      other.deviceId ≠ key.deviceId →
      other.deviceId ∈ (members (table.unlink key).devicesByTenant stored.tenant).keys := by
  intro other stored found device
  rw [find?_unlink] at found
  split_ifs at found
  apply (kept.mem_tenant_unlink).mpr
  refine ⟨exact.complete other stored found, ?_⟩
  rintro record - ⟨equal, -⟩
  exact device equal.symm

theorem Exact.beats (uniform : Uniform table (.heartbeat key tenant lease now))
    (beats : Beats table key tenant lease now outcome) : Exact outcome.2 := by
  cases beats with
  | refused error code => exact exact
  | renewed result existing record found own same => exact exact.withRenewal found same
  | entered duration ended inserts =>
    have single : ∀ one two stored last, (table.unlink key).entries.find? one = some stored →
        (table.unlink key).entries.find? two = some last → one.deviceId = two.deviceId →
        stored.tenant = last.tenant := by
      intro one two stored last first second device
      rw [find?_unlink] at first second
      split_ifs at first second
      exact exact.single one two stored last first second device
    have others : ∀ other stored, (table.unlink key).entries.find? other = some stored →
        other.deviceId = key.deviceId → stored.tenant = tenant := by
      intro other stored lookup device
      rw [find?_unlink] at lookup
      split_ifs at lookup with same
      exact uniform.1 other stored same lookup device
    -- A device with further leases leaves the list of its tenant and comes back.
    by_cases further : ∃ other, other ≠ key ∧ other.deviceId = key.deviceId ∧
      table.entries.find? other ≠ none ∧ table.entries.find? key ≠ none
    · obtain ⟨other, different, device, stored, present⟩ := further
      obtain ⟨existing, found⟩ := Option.ne_none_iff_exists'.mp present
      obtain ⟨last, lookup⟩ := Option.ne_none_iff_exists'.mp stored
      have same : existing.tenant = tenant :=
        (exact.single key other existing last found lookup device.symm).trans
          (uniform.1 other last different lookup device)
      subst same
      rw [exact.renewal_inserted kept found inserts]
      exact exact_withLease (exact.others_unlink kept) single others
    · have base : Exact (table.unlink key) := by
        have alone : Uniform table (.remove key) := by
          intro other different device present
          by_contra stored
          exact further ⟨other, different, device, stored, present⟩
        exact exact.unlinkAll kept (alone.closed kept)
      have ready : Exact ((table.unlink key).swept now) := by
        by_cases present : table.entries.find? key = none
        · rw [unlink_of_absent present] at base ⊢
          exact base.swept kept uniform.2
        · obtain ⟨existing, found⟩ := Option.ne_none_iff_exists'.mp present
          rw [swept_of_room (kept.unlink_room found).1]
          exact base
      cases inserts with
      | full reached | deviceFull room reached | tenantFull room absent reached => exact ready
      | inserted result room device tenantRoom =>
        refine exact_withLease (fun other stored found _ => ready.complete other stored found)
          ready.single ?_
        intro other stored found sameDevice
        rcases find?_swept now with gone | stays
        · rw [gone] at found
          cases found
        · rw [stays] at found
          exact others other stored found sameDevice

theorem Exact.step (uniform : Uniform table op) : Exact (table.step op) := by
  rcases step_cases kept op with ended | ⟨key, tenant, lease, now, result, rfl, beats⟩
  · rw [ended]
    exact exact.unlinkAll kept (uniform.closed kept)
  · have after := exact.beats kept uniform beats
    exact after

theorem Exact.run {ops : List LeaseOp}
    (uniform : Machine.EachAllowed RelayLeaseTable.step Uniform table ops) :
    Exact (ops.foldl RelayLeaseTable.step table) := by
  induction ops generalizing table with
  | nil => exact exact
  | cons op ops ih => exact ih (exact.step kept uniform.1) (kept.step op).kept uniform.2

end

/-! ### What is online -/

theorem get_eq_some_iff :
    table.get key now = some record ↔
      table.entries.find? key = some record ∧ now < record.expiresAt := by
  unfold get
  rw [Option.filter_eq_some_iff, decide_eq_true_eq]

theorem mem_onlineDevice (kept : Kept table) :
    record ∈ table.onlineDevice deviceId now ↔
      table.entries.find? record.key = some record ∧ record.key.deviceId = deviceId ∧
        now < record.expiresAt := by
  unfold onlineDevice
  rw [List.mem_filterMap]
  constructor
  · rintro ⟨endpointId, -, found⟩
    obtain ⟨stored, live⟩ := get_eq_some_iff.mp found
    have own := kept.keyed _ _ stored
    refine ⟨own ▸ stored, ?_, live⟩
    rw [own]
  · rintro ⟨stored, rfl, live⟩
    refine ⟨record.key.endpointId, ?_, get_eq_some_iff.mpr ⟨stored, live⟩⟩
    rw [kept.devices]
    exact fun absent => Option.some_ne_none record (stored.symm.trans absent)

theorem mem_onlineTenant (kept : Kept table) (exact : Exact table) :
    record ∈ table.onlineTenant tenant now ↔
      table.entries.find? record.key = some record ∧ record.tenant = tenant ∧
        now < record.expiresAt := by
  unfold onlineTenant
  rw [List.mem_flatMap]
  constructor
  · rintro ⟨deviceId, listed, member⟩
    obtain ⟨stored, rfl, live⟩ := (mem_onlineDevice kept).mp member
    obtain ⟨endpointId, other, found, same⟩ := kept.tenants tenant _ listed
    refine ⟨stored, ?_, live⟩
    rw [← same]
    exact exact.single record.key _ record other stored found rfl
  · rintro ⟨stored, rfl, live⟩
    exact ⟨record.key.deviceId, exact.complete record.key record stored,
      (mem_onlineDevice kept).mpr ⟨stored, rfl, live⟩⟩

theorem onlineTenant_nodup (kept : Kept table) : (table.onlineTenant tenant now).Nodup := by
  apply List.nodup_flatMap.mpr
  constructor
  · intro deviceId _
    apply (keys_nodup _).filterMap
    intro one two record first second
    have own := kept.keyed _ _ (get_eq_some_iff.mp first).1
    have other := kept.keyed _ _ (get_eq_some_iff.mp second).1
    exact (RelayLeaseKey.mk.inj (own.symm.trans other)).2
  · apply (keys_nodup _).imp
    intro one two different record first second
    have own := ((mem_onlineDevice kept).mp first).2.1
    have other := ((mem_onlineDevice kept).mp second).2.1
    exact different (own.symm.trans other)

/-- After every history of calls for devices whose leases are of one tenant and end
together, both indices are exact, the limits hold, and a query shows a tenant each of its
live leases once and nothing else. -/
theorem lease_table_exact {config : RelayLeaseConfig} {start : RelayLeaseTable}
    (created : create config = .ok start) (ops : List LeaseOp)
    (uniform : Machine.EachAllowed step Uniform start ops) :
    (∀ deviceId endpointId, endpointId ∈
        (members (ops.foldl step start).endpointsByDevice deviceId).keys ↔
      (ops.foldl step start).entries.find? ⟨deviceId, endpointId⟩ ≠ none) ∧
    (∀ tenant deviceId, deviceId ∈
        (members (ops.foldl step start).devicesByTenant tenant).keys ↔
      ∃ endpointId record,
        (ops.foldl step start).entries.find? ⟨deviceId, endpointId⟩ = some record ∧
          record.tenant = tenant) ∧
    (ops.foldl step start).entries.size ≤ config.capacity ∧
    (∀ deviceId, (members (ops.foldl step start).endpointsByDevice deviceId).size ≤
      config.perDeviceEndpointCapacity) ∧
    (∀ tenant, (members (ops.foldl step start).devicesByTenant tenant).size ≤
      config.perTenantDeviceCapacity) ∧
    ∀ tenant now, ((ops.foldl step start).onlineTenant tenant now).Nodup ∧
      ∀ record, record ∈ (ops.foldl step start).onlineTenant tenant now ↔
        (ops.foldl step start).entries.find? record.key = some record ∧
          record.tenant = tenant ∧ now < record.expiresAt := by
  obtain ⟨begin, chosen⟩ := kept_of_create created
  obtain ⟨kept, limits⟩ := begin.run ops
  have exact := (exact_of_create created).run begin uniform
  have same : (ops.foldl step start).config = config := limits.trans chosen
  refine ⟨kept.devices, ?_, ?_, ?_, ?_, ?_⟩
  · intro tenant deviceId
    constructor
    · exact kept.tenants tenant deviceId
    · rintro ⟨endpointId, record, found, rfl⟩
      exact exact.complete _ record found
  · rw [← same]
    exact kept.capacity
  · rw [← same]
    exact kept.perDevice
  · rw [← same]
    exact kept.perTenant
  · intro tenant now
    exact ⟨onlineTenant_nodup kept, fun record => mem_onlineTenant kept exact⟩

def twoEndpoints (first second : Text) : List LeaseOp :=
  [.heartbeat ⟨.filled 1, .filled 1⟩ first 0 0, .heartbeat ⟨.filled 1, .filled 2⟩ second 0 0]

theorem lease_table_exact_twoEndpoints :
    (((twoEndpoints ⟨[97]⟩ ⟨[97]⟩).foldl step { config := {} }).onlineTenant ⟨[97]⟩ 0).length = 2 ∧
    (((twoEndpoints ⟨[97]⟩ ⟨[97]⟩).foldl step { config := {} }).onlineTenant ⟨[97]⟩ 0).Nodup := by
  have created : create {} = .ok { config := {} } := rfl
  have uniform : Machine.EachAllowed step Uniform { config := {} }
      (twoEndpoints ⟨[97]⟩ ⟨[97]⟩) := by
    refine ⟨⟨?_, ?_⟩, ⟨?_, ?_⟩, trivial⟩
    · intro other record _ found
      cases found
    · intro full
      exact absurd full (by decide)
    · intro other record _ found _
      have one : ∀ entry ∈ (step { config := {} } (.heartbeat ⟨.filled 1, .filled 1⟩ ⟨[97]⟩ 0
          0)).entries.entries, entry.2.tenant = ⟨[97]⟩ := by decide +kernel
      exact one (other, record) (mem_entries_iff.mpr found)
    · intro full
      exact absurd full (by decide +kernel)
  have online := (lease_table_exact created _ uniform).2.2.2.2.2
  exact ⟨by decide +kernel, (online ⟨[97]⟩ 0).1⟩

/-- Taking out one endpoint of a device hides the other one, and a device with leases of
two tenants shows both to either of them. -/
theorem remaining_endpoint_hidden :
    (((((twoEndpoints ⟨[97]⟩ ⟨[97]⟩).foldl step { config := {} }).step
        (.remove ⟨.filled 1, .filled 1⟩)).get ⟨.filled 1, .filled 2⟩ 0).map
          RelayLeaseRecord.tenant = some ⟨[97]⟩ ∧
      (((twoEndpoints ⟨[97]⟩ ⟨[97]⟩).foldl step { config := {} }).step
        (.remove ⟨.filled 1, .filled 1⟩)).onlineTenant ⟨[97]⟩ 0 = []) ∧
    (((twoEndpoints ⟨[97]⟩ ⟨[98]⟩).foldl step { config := {} }).onlineTenant ⟨[97]⟩ 0).map
      RelayLeaseRecord.tenant = [⟨[97]⟩, ⟨[98]⟩] := by
  decide +kernel

end RelayLeaseTable

end Heyaki
