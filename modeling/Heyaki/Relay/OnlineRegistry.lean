/-
Purpose: the three tables of a relay that are kept by endpoint (`relay_server.cpp`).

The tables are the session registered for an endpoint, the lease of the endpoint and its
published record.  A login, the requests after it and the end of a session change them.  A
login here is one that was authenticated, and a request one that passed the parsers, the
rate limits and the row of its device.  What the directory asks of a record (signatures,
expiry, generation) is a parameter: the live record that would be replaced and the new one
give an error or the time to live.

`leaseBy` and `recordBy` are not in the source: they note whose request stored an entry.
-/
import Heyaki.Relay.LeaseTable
import Heyaki.Relay.TtlTable

namespace Heyaki

open Foundation (SortedMap)

/-- All that comes before the login is one state here. -/
inductive OnlineState where
  | awaitingLogin | enrolled | loggedIn
  deriving Repr, DecidableEq

structure OnlineSession where
  controlState : OnlineState := .awaitingLogin
  /-- Device and endpoint, which are set together. -/
  loggedInKey : Option RelayLeaseKey := none
  loggedInTenant : Text := ⟨[]⟩

structure OnlineRegistry (ρ : Type) where
  sessions : SortedMap Nat OnlineSession := {}
  nextConnectionId : Nat := 1
  onlineEndpoints : SortedMap RelayLeaseKey Nat := {}
  leaseTable : RelayLeaseTable
  endpointDirectory : RelayTtlTable RelayLeaseKey ρ
  leaseBy : SortedMap RelayLeaseKey Nat := {}
  recordBy : SortedMap RelayLeaseKey Nat := {}

abbrev RecordCheck (ρ : Type) := Option ρ → ρ → Except Error Int

namespace OnlineRegistry

variable {ρ : Type}

def create (lease : RelayLeaseConfig) (directoryCapacity : Nat) :
    Except Error (OnlineRegistry ρ) := do
  let leaseTable ← RelayLeaseTable.create lease
  let endpointDirectory ← RelayTtlTable.create directoryCapacity
  .ok { leaseTable := leaseTable, endpointDirectory := endpointDirectory }

variable (registry : OnlineRegistry ρ)

/-- The endpoint and the tenant of a session that is logged in. -/
def loggedIn? (id : Nat) : Option (RelayLeaseKey × Text) := do
  let session ← registry.sessions.find? id
  let key ← session.loggedInKey
  if session.controlState = .loggedIn then some (key, session.loggedInTenant) else none

def onAccept : OnlineRegistry ρ :=
  { registry with
    sessions := registry.sessions.insert registry.nextConnectionId {}
    nextConnectionId := registry.nextConnectionId + 1 }

/-- The session is registered for its endpoint, whoever was registered before. -/
def login (id : Nat) (key : RelayLeaseKey) (tenant : Text) : OnlineRegistry ρ :=
  match registry.sessions.find? id with
  | none => registry
  | some session =>
    if session.controlState = .awaitingLogin then
      { registry with
        sessions := registry.sessions.insert id
          { controlState := .loggedIn, loggedInKey := some key, loggedInTenant := tenant }
        onlineEndpoints := registry.onlineEndpoints.insert key id }
    else registry

def sessionHandleHeartbeat (id : Nat) (lease now : Int) : OnlineRegistry ρ :=
  match registry.loggedIn? id with
  | none => registry
  | some (key, tenant) =>
    match registry.leaseTable.heartbeat key tenant lease now with
    | (.error _, table) => { registry with leaseTable := table }
    | (.ok _, table) =>
      { registry with leaseTable := table, leaseBy := registry.leaseBy.insert key id }

variable (check : RecordCheck ρ)

/-- `RelayEndpointDirectory::publish` -/
def publish (registry : OnlineRegistry ρ) (id : Nat) (key : RelayLeaseKey) (record : ρ)
    (now : Int) : OnlineRegistry ρ :=
  match check (registry.endpointDirectory.get key now) record with
  | .error _ => registry
  | .ok ttl =>
    match registry.endpointDirectory.upsert key record ttl now with
    | (.error _, directory) => { registry with endpointDirectory := directory }
    | (.ok _, directory) =>
      { registry with
        endpointDirectory := directory
        recordBy := registry.recordBy.insert key id }

/-- A record is published under the endpoint of the session, which must hold a lease. -/
def sessionHandleEndpointPublish (registry : OnlineRegistry ρ) (id : Nat) (record : ρ) (now : Int) :
    OnlineRegistry ρ :=
  match registry.loggedIn? id with
  | none => registry
  | some (key, _) =>
    if (registry.leaseTable.get key now).isSome then registry.publish check id key record now
    else registry

/-- `RelayEndpointDirectory::remove` -/
def removeRecord (directory : RelayTtlTable RelayLeaseKey ρ) (key : RelayLeaseKey) (now : Int) :
    RelayTtlTable RelayLeaseKey ρ :=
  if directory.contains key now then directory.erase key else directory

/-- Only the registration is compared with the session; lease and record go by their key. -/
def sessionCleanup (id : Nat) (now : Int) : OnlineRegistry ρ :=
  match registry.loggedIn? id with
  | none => registry
  | some (key, tenant) =>
    { registry with
      onlineEndpoints :=
        if registry.onlineEndpoints.find? key = some id then registry.onlineEndpoints.erase key
        else registry.onlineEndpoints
      leaseTable := registry.leaseTable.remove key
      endpointDirectory := removeRecord registry.endpointDirectory key now
      sessions := registry.sessions.insert id
        { controlState := .enrolled, loggedInKey := some key, loggedInTenant := tenant } }

def onSessionFinished (id : Nat) (now : Int) : OnlineRegistry ρ :=
  let registry := registry.sessionCleanup id now
  { registry with sessions := registry.sessions.erase id }

inductive Event (ρ : Type) where
  | accept
  | login (id : Nat) (key : RelayLeaseKey) (tenant : Text)
  | heartbeat (id : Nat) (lease now : Int)
  | publish (id : Nat) (record : ρ) (now : Int)
  /-- An answer is made of the tables, which stay as they are. -/
  | query (id : Nat)
  | finished (id : Nat) (now : Int)
  | sweep (now : Int)

def step (registry : OnlineRegistry ρ) : Event ρ → OnlineRegistry ρ
  | .accept => registry.onAccept
  | .login id key tenant => registry.login id key tenant
  | .heartbeat id lease now => registry.sessionHandleHeartbeat id lease now
  | .publish id record now => registry.sessionHandleEndpointPublish check id record now
  | .query _ => registry
  | .finished id now => registry.onSessionFinished id now
  | .sweep now =>
    { registry with
      leaseTable := registry.leaseTable.expire now
      endpointDirectory := registry.endpointDirectory.expire now }

end OnlineRegistry

end Heyaki
