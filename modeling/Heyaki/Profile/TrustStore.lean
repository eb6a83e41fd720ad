/-
Purpose: the trust grants of a profile (`profile_store.cpp`): the tables
`trust_grants` and `trust_grant_scopes` with the statements that write and query
them, and the password and policy rows that pairing reads.

A row is what both tables hold under one grant id.  Every write is one statement
or one transaction, so a database fault leaves the tables as they were; `fault`
is the error such a write reports.  Times and generations are unsigned and
written as the signed 64 bit integers of the database, whose comparisons are
signed.  A query without an order of its own answers in the order of grant ids.
The column `revoked_unix_milliseconds` is read by no query and left out.
-/
import Heyaki.Core.TrustGrant
import Heyaki.Foundation.SortedMap

namespace Heyaki

open Foundation (SortedMap)

inductive TrustGrantDirection where
  | issued | received
  deriving Repr, Inhabited, DecidableEq

structure TrustGrantRow where
  direction : TrustGrantDirection := .issued
  issuer : DeviceId
  subject : DeviceId
  scopes : List (List UInt8) := []
  passwordGeneration : UInt64 := 1
  issuedUnixMilliseconds : UInt64 := 0
  expiresUnixMilliseconds : Option UInt64 := none
  signature : List UInt8 := []
  revoked : Bool := false
  deriving Repr, DecidableEq

structure TrustGrantRecord extends TrustGrantRow where
  grantId : GrantId
  deriving Repr, DecidableEq

structure PairingPolicy where
  passwordPairingEnabled : Bool := true
  defaultScopes : List (List UInt8) := []
  deriving Repr, Inhabited, DecidableEq

structure PasswordVerifier where
  encoded : List UInt8 := []
  deriving Repr, Inhabited, DecidableEq

structure ProfileStore where
  deviceId : DeviceId
  pairingPolicy : PairingPolicy := {}
  /-- The row of the password verifier with its generation. -/
  verifierRow : Option (PasswordVerifier × UInt64) := none
  grants : SortedMap GrantId TrustGrantRow := {}

def profileError (code : ErrorCode) (detail : String) : Error :=
  { code := code, component := "profile", safeDetail := detail }

namespace ProfileStore

/-! ### Writing grants -/

def grantInvalid (grant : TrustGrantRecord) : Bool :=
  grant.grantId.isZero || grant.issuer.isZero || grant.subject.isZero ||
    grant.passwordGeneration == 0 || grant.issuedUnixMilliseconds == 0 ||
    grant.signature.isEmpty || grant.signature.length > 4096 || grant.scopes.isEmpty ||
    grant.scopes.length > 256

variable (store : ProfileStore) (fault : Option Error)

/-- An insert that on a known grant id overwrites every column and the scopes. -/
def putTrustGrant (grant : TrustGrantRecord) : Except Error Unit × ProfileStore :=
  if grantInvalid grant then (.error (profileError .configuration "invalid_trust_grant"), store)
  else
    let scopes := sortScopes grant.scopes
    if !scopes.all isValidTrustScope then
      (.error (profileError .configuration "invalid_trust_scope"), store)
    else
      match fault with
      | some error => (.error error, store)
      | none =>
        (.ok (), { store with
          grants := store.grants.insert grant.grantId
            { grant.toTrustGrantRow with scopes := scopes } })

def revokeTrustGrant (grantId : GrantId) : Except Error Unit × ProfileStore :=
  match fault with
  | some error => (.error error, store)
  | none =>
    match store.grants.find? grantId with
    | none => (.error (profileError .configuration "trust_grant_not_found"), store)
    | some row =>
      (.ok (), { store with grants := store.grants.insert grantId { row with revoked := true } })

/-- Rows that the statement of `revoke_issued_trust_grants_below_generation` selects. -/
def belowGeneration (minimum : UInt64) (row : TrustGrantRow) : Bool :=
  row.direction == .issued && row.issuer == store.deviceId && !row.revoked &&
    decide (row.passwordGeneration.toInt64 < minimum.toInt64)

def revokeIssuedTrustGrantsBelowGeneration (minimum : UInt64) : Except Error Nat × ProfileStore :=
  match fault with
  | some error => (.error error, store)
  | none =>
    (.ok ((store.grants.entries.filter fun entry => store.belowGeneration minimum entry.2).length),
      { store with
        grants := store.grants.mapValues fun _ row =>
          if store.belowGeneration minimum row then { row with revoked := true } else row })

/-! ### Queries -/

/-- Not revoked and not expired. -/
def live (now : UInt64) (row : TrustGrantRow) : Bool :=
  !row.revoked && row.expiresUnixMilliseconds.all fun expires =>
    decide (expires.toInt64 > now.toInt64)

variable (peer : DeviceId)

def issuedTo (row : TrustGrantRow) : Bool :=
  row.direction == .issued && row.issuer == store.deviceId && row.subject == peer

def receivedFrom (row : TrustGrantRow) : Bool :=
  row.direction == .received && row.issuer == peer && row.subject == store.deviceId

/-- A row as it is read back: what the tables may not hold is reported. -/
def readRow (grantId : GrantId) (row : TrustGrantRow) : Except Error TrustGrantRecord :=
  if row.signature.isEmpty then .error (profileError .profileCorrupt "trust_signature_invalid")
  else if row.scopes.all isValidTrustScope then .ok { row with grantId := grantId }
  else .error (profileError .profileCorrupt "trust_scope_invalid")

def readRows : List (GrantId × TrustGrantRow) → Except Error (List TrustGrantRecord)
  | [] => .ok []
  | (grantId, row) :: rows => do
    let grant ← readRow grantId row
    let grants ← readRows rows
    return grant :: grants

def trustGrant (grantId : GrantId) : Except Error (Option TrustGrantRecord) :=
  match store.grants.find? grantId with
  | none => .ok none
  | some row => (readRow grantId row).map some

/-- The live grants between this device and a peer, of both directions. -/
def trustGrantsForPeer (now : UInt64) : Except Error (List TrustGrantRecord) :=
  if peer.isZero || peer == store.deviceId then
    .error (profileError .configuration "invalid_trust_peer")
  else
    readRows (store.grants.entries.filter fun entry =>
      live now entry.2 && (store.issuedTo peer entry.2 || store.receivedFrom peer entry.2))

def isScopeAuthorized (scope : List UInt8) (now : UInt64) : Except Error Bool :=
  if !isValidTrustScope scope then .error (profileError .configuration "invalid_trust_scope")
  else
    .ok (store.grants.entries.any fun entry =>
      store.issuedTo peer entry.2 && live now entry.2 && entry.2.scopes.contains scope)

def isDeviceTrusted (now : UInt64) : Except Error Bool :=
  if peer.isZero then .error (profileError .configuration "invalid_trusted_peer")
  else .ok (store.grants.entries.any fun entry => store.issuedTo peer entry.2 && live now entry.2)

def trustedDevices (now : UInt64) : List DeviceId :=
  sortUnique id ((store.grants.entries.filter fun entry =>
    entry.2.direction == .issued && entry.2.issuer == store.deviceId && live now entry.2).map
      fun entry => entry.2.subject)

/-! ### The password -/

def passwordGeneration : Except Error UInt64 :=
  match store.verifierRow with
  | none => .ok 0
  | some (_, generation) =>
    if generation.toInt64 < 0 then
      .error (profileError .profileCorrupt "password_generation_invalid")
    else .ok generation

def passwordVerifier : Option PasswordVerifier :=
  store.verifierRow.map Prod.fst

def setPasswordVerifier (verifier : PasswordVerifier) (generation : UInt64) :
    Except Error Unit × ProfileStore :=
  if generation = 0 ∨ verifier.encoded.isEmpty then
    (.error (profileError .configuration "invalid_password_verifier"), store)
  else
    match fault with
    | some error => (.error error, store)
    | none => (.ok (), { store with verifierRow := some (verifier, generation) })

end ProfileStore

end Heyaki
