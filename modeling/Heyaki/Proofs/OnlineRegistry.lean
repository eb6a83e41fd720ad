/-
Purpose: what the end of a session takes from the other sessions.

The registration of another session stays.  Lease and record are removed by their
endpoint: when a second session of the endpoint has renewed the lease or published the
record, the end of the first one takes them away.

Main exports: `OnlineRegistry.OthersKept`, `OnlineRegistry.sessionCleanup_keeps_others_iff`,
`OnlineRegistry.reconnected_session_loses_lease`
-/
import Heyaki.Proofs.LeaseTable
import Heyaki.Relay.OnlineRegistry

namespace Heyaki.OnlineRegistry

variable {other : RelayLeaseKey}

open Foundation (SortedMap)

variable {ρ : Type} {registry : OnlineRegistry ρ} {id : Nat} {now : Int} {key : RelayLeaseKey}
  {tenant : Text}

/-- What belongs to other sessions is as before: their registrations, the leases that they
were the last to renew and the records that they published. -/
structure OthersKept (id : Nat) (now : Int) (before after : OnlineRegistry ρ) : Prop where
  registrations : ∀ key other, other ≠ id → before.onlineEndpoints.find? key = some other →
    after.onlineEndpoints.find? key = some other
  leases : ∀ key lease, before.leaseBy.find? key ≠ some id →
    before.leaseTable.entries.find? key = some lease →
      after.leaseTable.entries.find? key = some lease
  records : ∀ key record, before.recordBy.find? key ≠ some id →
    before.endpointDirectory.get key now = some record →
      after.endpointDirectory.get key now = some record

/-- The lease and the record of the endpoint that a session is logged in as, if there are
any, come from this session. -/
structure OwnsEndpoint (id : Nat) (now : Int) (registry : OnlineRegistry ρ) : Prop where
  lease : ∀ key tenant, registry.loggedIn? id = some (key, tenant) →
    registry.leaseTable.entries.find? key ≠ none → registry.leaseBy.find? key = some id
  record : ∀ key tenant, registry.loggedIn? id = some (key, tenant) →
    registry.endpointDirectory.get key now ≠ none → registry.recordBy.find? key = some id

/-! ### The three tables after a cleanup -/

theorem find?_leases_sessionCleanup (login : registry.loggedIn? id = some (key, tenant)) :
    (registry.sessionCleanup id now).leaseTable.entries.find? other =
      if other = key then none else registry.leaseTable.entries.find? other := by
  unfold sessionCleanup
  rw [login]
  rw [RelayLeaseTable.remove_eq_unlink, RelayLeaseTable.find?_unlink]

theorem get_removeRecord (directory : RelayTtlTable RelayLeaseKey ρ) :
    (removeRecord directory key now).get other now =
      if other = key then none else directory.get other now := by
  unfold removeRecord
  by_cases stored : directory.contains key now
  · rw [if_pos stored]
    unfold RelayTtlTable.get RelayTtlTable.erase
    rw [SortedMap.find?_erase]
    split_ifs
    · rfl
    · rfl
  · rw [if_neg stored]
    split_ifs with same
    · rw [same]
      exact Option.not_isSome_iff_eq_none.mp stored
    · rfl

theorem get_records_sessionCleanup (login : registry.loggedIn? id = some (key, tenant)) :
    (registry.sessionCleanup id now).endpointDirectory.get other now =
      if other = key then none else registry.endpointDirectory.get other now := by
  unfold sessionCleanup
  rw [login]
  exact get_removeRecord registry.endpointDirectory

/-- The registration of another session stays, whatever its endpoint is. -/
theorem find?_onlineEndpoints_sessionCleanup {other : Nat} (different : other ≠ id)
    (registered : registry.onlineEndpoints.find? key = some other) :
    (registry.sessionCleanup id now).onlineEndpoints.find? key = some other := by
  unfold sessionCleanup
  split
  · exact registered
  · rename_i own _ _
    split_ifs with mine
    · have elsewhere : key ≠ own := by
        rintro rfl
        rw [registered] at mine
        exact different (Option.some.inj mine)
      rw [SortedMap.find?_erase, if_neg elsewhere, registered]
    · exact registered

/-! ### The end of a session -/

/-- The end of a session leaves everything that belongs to the others if and only if lease
and record of its endpoint are its own. -/
theorem sessionCleanup_keeps_others_iff (registry : OnlineRegistry ρ) (id : Nat) (now : Int) :
    OthersKept id now registry (registry.sessionCleanup id now) ↔
      OwnsEndpoint id now registry := by
  constructor
  · intro kept
    constructor
    · intro key tenant login stored
      by_contra foreign
      obtain ⟨lease, found⟩ := Option.ne_none_iff_exists'.mp stored
      have after := kept.leases key lease foreign found
      rw [find?_leases_sessionCleanup login, if_pos rfl] at after
      cases after
    · intro key tenant login stored
      by_contra foreign
      obtain ⟨record, found⟩ := Option.ne_none_iff_exists'.mp stored
      have after := kept.records key record foreign found
      rw [get_records_sessionCleanup login, if_pos rfl] at after
      cases after
  · intro owns
    constructor
    · intro key other different registered
      exact find?_onlineEndpoints_sessionCleanup different registered
    · intro other lease foreign found
      cases login : registry.loggedIn? id with
      | none => simpa only [sessionCleanup, login] using found
      | some account =>
        obtain ⟨key, tenant⟩ := account
        have elsewhere : other ≠ key := by
          rintro rfl
          exact foreign (owns.lease other tenant login (by rw [found]; exact Option.some_ne_none _))
        rw [find?_leases_sessionCleanup login, if_neg elsewhere, found]
    · intro other record foreign found
      cases login : registry.loggedIn? id with
      | none => simpa only [sessionCleanup, login] using found
      | some account =>
        obtain ⟨key, tenant⟩ := account
        have elsewhere : other ≠ key := by
          rintro rfl
          exact foreign (owns.record other tenant login (by rw [found]; exact Option.some_ne_none _))
        rw [get_records_sessionCleanup login, if_neg elsewhere, found]

/-! ### A reconnect -/

def sampleKey : RelayLeaseKey := ⟨.filled 1, .filled 2⟩

/-- The endpoint logs in twice, the second session renews the lease and publishes. -/
def reconnectEvents : List (Event Unit) := [
  .accept, .login 1 sampleKey ⟨asciiBytes "home"⟩, .accept,
  .login 2 sampleKey ⟨asciiBytes "home"⟩, .heartbeat 2 0 0, .publish 2 () 0]

def reconnected : OnlineRegistry Unit :=
  reconnectEvents.foldl (step fun _ _ => .ok 60000)
    { leaseTable := { config := {} }, endpointDirectory := { capacity := 4096 } }

/-- The first session ends, and the endpoint of the second one, which is still registered,
has neither lease nor record. -/
theorem reconnected_session_loses_lease :
    let after := reconnected.sessionCleanup 1 1
    create {} 4096 = .ok ({ leaseTable := { config := {} }
                            endpointDirectory := { capacity := 4096 } } : OnlineRegistry Unit) ∧
      reconnected.onlineEndpoints.find? sampleKey = some 2 ∧
      after.onlineEndpoints.find? sampleKey = some 2 ∧
      reconnected.leaseBy.find? sampleKey = some 2 ∧
      (reconnected.leaseTable.get sampleKey 1).isSome = true ∧
      after.leaseTable.get sampleKey 1 = none ∧
      reconnected.recordBy.find? sampleKey = some 2 ∧
      reconnected.endpointDirectory.get sampleKey 1 = some () ∧
      after.endpointDirectory.get sampleKey 1 = none := by
  refine ⟨rfl, ?_⟩
  decide +kernel

end Heyaki.OnlineRegistry
