/-
Purpose: what becomes of a stored grant over the calls of the pairing service.

`put_trust_grant` overwrites the row of a known grant id.  A row keeps its parties
and its revocation through a step that stores nothing under its id, or only a
grant of the same parties that is revoked if the row is; all else that the service
does to the profile keeps every row.

Main exports: `ProfileStore.Keeps`, `PairingService.revocation_permanent`
-/
import Heyaki.Client.PairingService
import Heyaki.Foundation.Machine
import Heyaki.Foundation.Transaction

namespace Heyaki

open Foundation
open Foundation.Transaction (bind_eq_ok guard_eq_ok)
open SortedMap

namespace ProfileStore

variable {store : ProfileStore} {grantId : GrantId} {row : TrustGrantRow}
  {select : GrantId × TrustGrantRow → Bool}

/-! ### Rows over one step -/

/-- The columns that say between whom a grant is. -/
def SameParties (one two : TrustGrantRow) : Prop :=
  one.direction = two.direction ∧ one.issuer = two.issuer ∧ one.subject = two.subject

theorem SameParties.refl (row : TrustGrantRow) : SameParties row row := ⟨rfl, rfl, rfl⟩

theorem SameParties.trans {one two three : TrustGrantRow} (first : SameParties one two)
    (second : SameParties two three) : SameParties one three :=
  ⟨first.1.trans second.1, first.2.1.trans second.2.1, first.2.2.trans second.2.2⟩

/-- Every row is still there, between the same parties, and revoked if it was. -/
structure Keeps (before after : ProfileStore) : Prop where
  device : after.deviceId = before.deviceId
  row : ∀ {grantId : GrantId} {old : TrustGrantRow}, before.grants.find? grantId = some old →
    ∃ new, after.grants.find? grantId = some new ∧ SameParties old new ∧
      (old.revoked = true → new.revoked = true)

theorem Keeps.refl (store : ProfileStore) : Keeps store store :=
  ⟨rfl, fun {_ old} found => ⟨old, found, .refl old, id⟩⟩

theorem Keeps.trans {first second third : ProfileStore} (one : Keeps first second)
    (two : Keeps second third) : Keeps first third := by
  refine ⟨two.device.trans one.device, fun found => ?_⟩
  obtain ⟨middle, foundMiddle, sameMiddle, stillRevoked⟩ := one.row found
  obtain ⟨last, foundLast, sameLast, lastRevoked⟩ := two.row foundMiddle
  exact ⟨last, foundLast, sameMiddle.trans sameLast, lastRevoked ∘ stillRevoked⟩

/-- Storing the grant would overwrite no row, or one between the same parties
without taking back its revocation. -/
def Agrees (store : ProfileStore) (grant : TrustGrantRecord) : Prop :=
  ∀ stored, store.grants.find? grant.grantId = some stored →
    SameParties stored grant.toTrustGrantRow ∧ (stored.revoked = true → grant.revoked = true)

theorem keeps_insert (agrees : ∀ stored, store.grants.find? grantId = some stored →
      SameParties stored row ∧ (stored.revoked = true → row.revoked = true)) :
    Keeps store { store with grants := store.grants.insert grantId row } := by
  refine ⟨rfl, fun {other old} found => ?_⟩
  by_cases same : other = grantId
  · subst same
    exact ⟨row, find?_insert_self .., agrees old found⟩
  · refine ⟨old, ?_, .refl old, id⟩
    rw [find?_insert, if_neg same]
    exact found

theorem keeps_putTrustGrant {grant : TrustGrantRecord} (agrees : Agrees store grant)
    (fault : Option Error) :
    Keeps store (store.putTrustGrant fault grant).2 := by
  unfold putTrustGrant
  dsimp only
  split_ifs
  · exact .refl store
  · exact .refl store
  cases fault with
  | some error => exact .refl store
  | none => exact keeps_insert agrees

theorem keeps_revokeTrustGrant (store : ProfileStore) (fault : Option Error) (grantId : GrantId) :
    Keeps store (store.revokeTrustGrant fault grantId).2 := by
  unfold revokeTrustGrant
  cases fault with
  | some error => exact .refl store
  | none =>
    cases found : store.grants.find? grantId with
    | none => exact .refl store
    | some row =>
      apply keeps_insert
      intro stored foundStored
      cases found.symm.trans foundStored
      exact ⟨.refl row, fun _ => rfl⟩

theorem keeps_revokeIssued (store : ProfileStore) (fault : Option Error) (minimum : UInt64) :
    Keeps store (store.revokeIssuedTrustGrantsBelowGeneration fault minimum).2 := by
  unfold revokeIssuedTrustGrantsBelowGeneration
  cases fault with
  | some error => exact .refl store
  | none =>
    refine ⟨rfl, fun {_ old} found => ?_⟩
    refine ⟨_, by rw [find?_mapValues, found]; rfl, ?_⟩
    dsimp only
    split_ifs
    · exact ⟨.refl old, fun _ => rfl⟩
    · exact ⟨.refl old, id⟩

theorem keeps_setPasswordVerifier (store : ProfileStore) (fault : Option Error)
    (verifier : PasswordVerifier) (generation : UInt64) :
    Keeps store (store.setPasswordVerifier fault verifier generation).2 := by
  unfold setPasswordVerifier
  split_ifs
  · exact .refl store
  · cases fault with
    | some error => exact .refl store
    | none => exact ⟨rfl, fun {_ old} found => ⟨old, found, .refl old, id⟩⟩

/-! ### Revoked grants and the queries -/

def forget (store : ProfileStore) (grantId : GrantId) : ProfileStore :=
  { store with grants := store.grants.erase grantId }

/-- No query of the profile depends on the grant. -/
structure Ignores (store : ProfileStore) (grantId : GrantId) : Prop where
  trustGrantsForPeer : ∀ peer now,
    store.trustGrantsForPeer peer now = (store.forget grantId).trustGrantsForPeer peer now
  isScopeAuthorized : ∀ peer scope now,
    store.isScopeAuthorized peer scope now = (store.forget grantId).isScopeAuthorized peer scope now
  isDeviceTrusted : ∀ peer now,
    store.isDeviceTrusted peer now = (store.forget grantId).isDeviceTrusted peer now
  trustedDevices : ∀ now, store.trustedDevices now = (store.forget grantId).trustedDevices now

def Revoked (store : ProfileStore) (grantId : GrantId) : Prop :=
  ∃ row, store.grants.find? grantId = some row ∧ row.revoked = true

theorem Keeps.revoked {before after : ProfileStore} (keeps : Keeps before after)
    (revoked : Revoked before grantId) : Revoked after grantId := by
  obtain ⟨row, found, isRevoked⟩ := revoked
  obtain ⟨new, foundNew, -, stillRevoked⟩ := keeps.row found
  exact ⟨new, foundNew, stillRevoked isRevoked⟩

section

variable (revoked : Revoked store grantId) (onlyLive : ∀ entry, select entry = true → entry.2.revoked = false)

include revoked onlyLive

/-- A selection of live rows never has the row of a revoked grant. -/
theorem filter_forget :
    (store.forget grantId).grants.entries.filter select = store.grants.entries.filter select := by
  obtain ⟨row, found, isRevoked⟩ := revoked
  apply filter_entries_erase
  intro entry member selected same
  have foundEntry : store.grants.find? grantId = some entry.2 := mem_entries_iff.mp (same ▸ member)
  cases found.symm.trans foundEntry
  rw [onlyLive entry selected] at isRevoked
  cases isRevoked

theorem any_forget :
    (store.forget grantId).grants.entries.any select = store.grants.entries.any select := by
  have same := filter_forget revoked onlyLive
  rw [Bool.eq_iff_iff, List.any_eq_true, List.any_eq_true]
  simp only [← List.mem_filter (p := select), same]

end

theorem not_revoked_of_live {now : UInt64} (isLive : live now row = true) :
    row.revoked = false := by
  simpa using (Bool.and_eq_true_iff.mp isLive).1

theorem ignores_of_revoked (revoked : Revoked store grantId) : Ignores store grantId where
  trustGrantsForPeer peer now := by
    unfold trustGrantsForPeer
    rw [← filter_forget revoked]
    · rfl
    · intro entry selected
      exact not_revoked_of_live (Bool.and_eq_true_iff.mp selected).1
  isScopeAuthorized peer scope now := by
    unfold isScopeAuthorized
    rw [← any_forget revoked]
    · rfl
    · intro entry selected
      have front := (Bool.and_eq_true_iff.mp selected).1
      exact not_revoked_of_live (Bool.and_eq_true_iff.mp front).2
  isDeviceTrusted peer now := by
    unfold isDeviceTrusted
    rw [← any_forget revoked]
    · rfl
    · intro entry selected
      exact not_revoked_of_live (Bool.and_eq_true_iff.mp selected).2
  trustedDevices now := by
    unfold trustedDevices
    rw [← filter_forget revoked]
    · rfl
    · intro entry selected
      exact not_revoked_of_live (Bool.and_eq_true_iff.mp selected).2

end ProfileStore

namespace PairingService

variable {env : PairingEnv}

open ProfileStore

variable (crypto : GrantCrypto) {grant : SignedTrustGrant} {service : PairingService}
  {result : PairingResultBody}

/-! ### The profile after a call -/

/-- Nothing was stored, or a grant of these parties that is not revoked, under
the id. -/
def StoresOnly (before after : ProfileStore) (grantId : GrantId)
    (direction : TrustGrantDirection) (issuer subject : DeviceId) : Prop :=
  after = before ∨ ∃ fault grant, grant.grantId = grantId ∧
    after = (before.putTrustGrant fault (toRecord grant direction)).2 ∧
    grant.issuer = issuer ∧ grant.subject = subject

/-- The row of the id, if there is one, is of these parties and not revoked. -/
def FreeFor (store : ProfileStore) (grantId : GrantId) (direction : TrustGrantDirection)
    (issuer subject : DeviceId) : Prop :=
  ∀ stored, store.grants.find? grantId = some stored →
    stored.direction = direction ∧ stored.issuer = issuer ∧ stored.subject = subject ∧
      stored.revoked = false

theorem keeps_of_storesOnly {before after : ProfileStore} {grantId : GrantId}
    {direction : TrustGrantDirection} {issuer subject : DeviceId}
    (stores : StoresOnly before after grantId direction issuer subject)
    (free : FreeFor before grantId direction issuer subject) : Keeps before after := by
  rcases stores with rfl | ⟨fault, grant, rfl, rfl, rfl, rfl⟩
  · exact .refl after
  · apply keeps_putTrustGrant
    intro stored found
    obtain ⟨sameDirection, sameIssuer, sameSubject, notRevoked⟩ := free stored found
    refine ⟨⟨sameDirection, sameIssuer, sameSubject⟩, fun revoked => ?_⟩
    rw [notRevoked] at revoked
    cases revoked

theorem signSignedTrustGrant_ok {identity : DeviceId} {draft : SignedTrustGrant}
    (signed : signSignedTrustGrant crypto identity draft = .ok grant) :
    validateSignedTrustGrant draft = .ok () ∧
      ∃ signature, grant = { draft with signature := signature } := by
  unfold signSignedTrustGrant at signed
  obtain ⟨-, checks⟩ := guard_eq_ok.mp signed
  obtain ⟨_, valid, signs⟩ := bind_eq_ok.mp checks
  obtain ⟨signature, -, made⟩ := bind_eq_ok.mp signs
  cases made
  exact ⟨valid, signature, rfl⟩

theorem storesOnly_put (service : PairingService) (fault : Option Error)
    (grant : SignedTrustGrant) (direction : TrustGrantDirection) :
    StoresOnly service.profile (service.put fault (toRecord grant direction)).2.profile
      grant.grantId direction grant.issuer grant.subject :=
  .inr ⟨fault, grant, rfl, rfl, rfl, rfl⟩

theorem storesOnly_issueGrant (peer : DeviceId) (peerPublicKey : List UInt8)
    (request : PairingApprovalRequestBody) (emptyDetail issuedDetail : String) :
    StoresOnly service.profile
      (issueGrant crypto service env peer peerPublicKey request emptyDetail issuedDetail).2.profile
      env.grantId .issued service.profile.deviceId peer := by
  unfold issueGrant
  split
  · exact .inl rfl
  dsimp only
  split
  · exact .inl rfl
  split
  · exact .inl rfl
  split
  · exact .inl rfl
  rename_i grant signed
  have stores := storesOnly_put service env.fault grant .issued
  obtain ⟨-, signature, rfl⟩ := signSignedTrustGrant_ok crypto signed
  split
  · exact .inl rfl
  split
  all_goals
    rename_i left
    rwa [left] at stores

theorem storesOnly_evaluate (request : PairingRequestBody) (peer : DeviceId)
    (peerPublicKey : List UInt8) :
    StoresOnly service.profile (evaluate crypto service env request peer peerPublicKey).2.profile
      env.grantId .issued service.profile.deviceId peer := by
  unfold evaluate
  split_ifs
  · exact .inl rfl
  · exact .inl rfl
  dsimp only
  split
  · exact .inl rfl
  split
  · exact .inl rfl
  · exact .inl rfl
  · exact storesOnly_issueGrant ..

/-- An accepted grant is from the device it was requested of. -/
theorem checkGrant_ok {env : PairingEnv} {requestId : RequestId}
    {nonce : PairingNonce} {issuerDevice : DeviceId} {key : IdentityPublicKey}
    {scopes : List (List UInt8)}
    (accepted : checkGrant crypto service env result grant requestId nonce issuerDevice key scopes =
      .ok ()) :
    grant.issuer = issuerDevice ∧ grant.subject = service.profile.deviceId := by
  unfold checkGrant at accepted
  split at accepted
  · cases accepted
  split at accepted
  · cases accepted
  · rename_i _ parties
    obtain ⟨sameIssuer, sameSubject⟩ := not_or.mp parties
    exact ⟨not_not.mp sameIssuer, not_not.mp sameSubject⟩

theorem storesOnly_acceptGrant (service : PairingService) (env : PairingEnv)
    (given : result.grant = some grant) (requestId : RequestId)
    (nonce : PairingNonce) (issuerDevice : DeviceId) (key : IdentityPublicKey)
    (scopes : List (List UInt8)) :
    StoresOnly service.profile
      (acceptGrant crypto service env result requestId nonce issuerDevice key scopes).2.profile
      grant.grantId .received issuerDevice service.profile.deviceId := by
  unfold acceptGrant
  rw [given]
  dsimp only
  cases checked : checkGrant crypto service env result grant requestId nonce issuerDevice key
      scopes with
  | error reason => exact .inl rfl
  | ok _ =>
    obtain ⟨sameIssuer, sameSubject⟩ := checkGrant_ok crypto checked
    have stores := storesOnly_put service env.fault grant .received
    rw [sameIssuer, sameSubject] at stores
    dsimp only
    split
    all_goals
      rename_i left
      rwa [left] at stores

theorem keeps_rotatePassword (service : PairingService) (env : PairingEnv)
    (verifier : PasswordVerifier) :
    Keeps service.profile (service.rotatePassword env verifier).2.profile := by
  unfold rotatePassword
  cases service.profile.passwordGeneration with
  | error error => exact .refl _
  | ok current =>
    have keeps := keeps_setPasswordVerifier service.profile env.fault verifier (current + 1)
    dsimp only
    split
    all_goals
      rename_i left
      rwa [left] at keeps

theorem keeps_revokeGrant (grantId : GrantId) :
    Keeps service.profile (service.revokeGrant env grantId).2.profile := by
  have keeps := keeps_revokeTrustGrant service.profile env.fault grantId
  unfold revokeGrant
  split
  all_goals
    rename_i left
    rwa [left] at keeps

theorem keeps_rotatePasswordAndRevokeGrants (fault : Option Error) (verifier : PasswordVerifier) :
    Keeps service.profile (service.rotatePasswordAndRevokeGrants env fault verifier).2.profile := by
  have rotated := keeps_rotatePassword service env verifier
  unfold rotatePasswordAndRevokeGrants
  split
  · rename_i left
    rwa [left] at rotated
  rename_i generation middle left
  rw [left] at rotated
  have keeps := keeps_revokeIssued middle.profile fault generation
  split
  all_goals
    rename_i left
    rw [left] at keeps
    exact rotated.trans keeps

/-! ### Runs -/

/-- The calls that write grants: those of the service, and the two of the profile
that anyone may make. -/
inductive TrustEvent where
  | evaluate (env : PairingEnv) (request : PairingRequestBody) (peer : DeviceId)
      (peerPublicKey : List UInt8)
  | approve (env : PairingEnv) (request : PairingApprovalRequestBody) (peer : DeviceId)
      (peerPublicKey : List UInt8)
  /-- A pairing result of the peer, with a grant id of the peer's choice. -/
  | accept (env : PairingEnv) (result : PairingResultBody) (pendingRequestId : RequestId)
      (pendingNonce : PairingNonce) (issuerDevice : DeviceId) (issuerPublicKey : IdentityPublicKey)
      (requestedScopes : List (List UInt8))
  | revoke (env : PairingEnv) (grantId : GrantId)
  | rotate (env : PairingEnv) (verifier : PasswordVerifier)
  | rotateAndRevoke (env : PairingEnv) (fault : Option Error) (verifier : PasswordVerifier)
  | put (fault : Option Error) (grant : TrustGrantRecord)
  | revokeBelow (fault : Option Error) (minimum : UInt64)

def step (service : PairingService) : TrustEvent → PairingService
  | .evaluate env request peer key => (evaluate crypto service env request peer key).2
  | .approve env request peer key => (approve crypto service env request peer key).2
  | .accept env result requestId nonce issuer key scopes =>
    (acceptGrant crypto service env result requestId nonce issuer key scopes).2
  | .revoke env grantId => (service.revokeGrant env grantId).2
  | .rotate env verifier => (service.rotatePassword env verifier).2
  | .rotateAndRevoke env fault verifier =>
    (service.rotatePasswordAndRevokeGrants env fault verifier).2
  | .put fault grant => (service.put fault grant).2
  | .revokeBelow fault minimum =>
    { service with
      profile := (service.profile.revokeIssuedTrustGrantsBelowGeneration fault minimum).2 }

/-- A grant that the event may store under a known id is between the parties of the
row and takes back no revocation: for a drawn id, for the id a peer chose and for a
record that is put directly. -/
def Respects (service : PairingService) : TrustEvent → Prop
  | .evaluate env _ peer _ | .approve env _ peer _ =>
    FreeFor service.profile env.grantId .issued service.profile.deviceId peer
  | .accept _ result _ _ issuer _ _ => ∀ grant, result.grant = some grant →
      FreeFor service.profile grant.grantId .received issuer service.profile.deviceId
  | .put _ grant => Agrees service.profile grant
  | .revoke .. | .rotate .. | .rotateAndRevoke .. | .revokeBelow .. => True

theorem keeps_step {event : TrustEvent} (respects : Respects service event) :
    Keeps service.profile (step crypto service event).profile := by
  cases event with
  | evaluate env request peer key =>
    exact keeps_of_storesOnly (storesOnly_evaluate crypto request peer key) respects
  | approve env request peer key =>
    have stores : StoresOnly service.profile
        (approve crypto service env request peer key).2.profile env.grantId .issued
        service.profile.deviceId peer := storesOnly_issueGrant ..
    exact keeps_of_storesOnly stores respects
  | accept env result requestId nonce issuer key scopes =>
    cases given : result.grant with
    | none =>
      show Keeps service.profile
        (acceptGrant crypto service env result requestId nonce issuer key scopes).2.profile
      unfold acceptGrant
      rw [given]
      exact .refl _
    | some grant =>
      exact keeps_of_storesOnly (storesOnly_acceptGrant crypto service env given requestId nonce
        issuer key scopes) (respects grant given)
  | revoke env grantId => exact keeps_revokeGrant grantId
  | rotate env verifier => exact keeps_rotatePassword service env verifier
  | rotateAndRevoke env fault verifier =>
    exact keeps_rotatePasswordAndRevokeGrants fault verifier
  | put fault grant => exact keeps_putTrustGrant respects fault
  | revokeBelow fault minimum => exact keeps_revokeIssued service.profile fault minimum

/-- If no call stores a grant under a known id between other parties, or under a
revoked one, then from any profile on a revoked grant answers no query again, and
every stored grant keeps its direction, issuer and subject. -/
theorem revocation_permanent {service after : PairingService}
    (run : Machine.Reaches (step crypto) (· = service) Respects after) (grantId : GrantId) :
    (Revoked service.profile grantId → ProfileStore.Ignores after.profile grantId ∧
      ∀ peer now, after.authorize peer now =
        { after with profile := after.profile.forget grantId }.authorize peer now) ∧
    ∀ row, service.profile.grants.find? grantId = some row →
      ∃ later, after.profile.grants.find? grantId = some later ∧ SameParties row later := by
  have keeps : Keeps service.profile after.profile := by
    apply run.invariant
    · rintro state rfl
      exact .refl _
    · intro state event keeps respects
      exact keeps.trans (keeps_step crypto respects)
  constructor
  · intro revoked
    have ignores := ignores_of_revoked (keeps.revoked revoked)
    refine ⟨ignores, fun peer now => ?_⟩
    unfold authorize
    rw [ignores.trustGrantsForPeer]
    rfl
  · intro row found
    obtain ⟨later, foundLater, same, -⟩ := keeps.row found
    exact ⟨later, foundLater, same⟩

/-! ### Samples -/

def localDevice : DeviceId := .filled 1
def peerDevice : DeviceId := .filled 2
def sampleKey : IdentityPublicKey := filledBytes 32 3
def sampleNonce : PairingNonce := filledBytes 32 4
def sampleSignature : IdentitySignature := filledBytes 64 5
def sampleRequestId : RequestId := .filled 6
def sampleGrantId : GrantId := .filled 7
def otherGrantId : GrantId := .filled 8

/-- The bytes of "a:b". -/
def sampleScope : List UInt8 := [0x61, 0x3a, 0x62]

/-- Every signature verifies, and the sample key is the peer's. -/
def sampleCrypto : GrantCrypto where
  signatureValid _ _ := true
  deriveDeviceId _ := some peerDevice
  sign _ := .ok sampleSignature

def sampleEnv : PairingEnv where
  now := 1000
  grantId := sampleGrantId
  verifyPassword _ _ := .ok true

def sampleService : PairingService where
  config := { identity := localDevice }
  profile := {
    deviceId := localDevice
    pairingPolicy := { defaultScopes := [sampleScope] }
    verifierRow := some ({ encoded := [1] }, 1) }

def samplePairing : PairingRequestBody where
  requestId := sampleRequestId
  nonce := sampleNonce
  requestedScopes := [sampleScope]
  passwordUtf8 := [1]

/-- What the peer answers to a request of this device, under a grant id it chose. -/
def peerGrant (grantId : GrantId) : SignedTrustGrant where
  grantId := grantId
  issuer := peerDevice
  subject := localDevice
  grantedScopes := [sampleScope]
  issuedUnixMilliseconds := 1000
  nonce := sampleNonce
  signature := sampleSignature

def acceptEvent (grantId : GrantId) : TrustEvent :=
  .accept sampleEnv { requestId := sampleRequestId, status := .ok, grant := some (peerGrant grantId) }
    sampleRequestId sampleNonce peerDevice sampleKey [sampleScope]

/-- The peer paired with the password, and its grant was revoked. -/
def revokedService : PairingService :=
  [.evaluate sampleEnv samplePairing peerDevice sampleKey.val,
    .revoke sampleEnv sampleGrantId].foldl (step sampleCrypto) sampleService

theorem revokedService_revoked : Revoked revokedService.profile sampleGrantId := by
  cases found : revokedService.profile.grants.find? sampleGrantId with
  | none =>
    have known : (revokedService.profile.grants.find? sampleGrantId).isSome = true := by decide +kernel
    rw [found] at known
    cases known
  | some row =>
    have revoked : (revokedService.profile.grants.find? sampleGrantId).all (·.revoked) = true := by
      decide +kernel
    rw [found] at revoked
    exact ⟨row, found, revoked⟩

/-- A grant of the peer under another id leaves the revoked one without effect. -/
theorem revocation_permanent_other_grant :
    Revoked revokedService.profile sampleGrantId ∧
      ProfileStore.Ignores (step sampleCrypto revokedService (acceptEvent otherGrantId)).profile sampleGrantId := by
  have unknown : revokedService.profile.grants.find? otherGrantId = none := by decide +kernel
  have respects : Respects revokedService (acceptEvent otherGrantId) := by
    rintro grant given stored found
    cases given
    cases unknown.symm.trans found
  have run : Machine.Reaches (step sampleCrypto) (· = revokedService) Respects
      (step sampleCrypto revokedService (acceptEvent otherGrantId)) :=
    .next _ (.start rfl) respects
  exact ⟨revokedService_revoked,
    ((revocation_permanent sampleCrypto run sampleGrantId).1 revokedService_revoked).1⟩

/-- The peer reuses the id of its revoked grant for one of its own: the row is
overwritten, and the session with the peer is authorized again. -/
theorem revoked_grant_restored :
    (revokedService.profile.grants.find? sampleGrantId).map
        (fun row => (row.direction, row.issuer, row.revoked)) =
      some (.issued, localDevice, true) ∧
    revokedService.authorize peerDevice 1000 = .ok { pairingAllowed := true } ∧
    let after := step sampleCrypto revokedService (acceptEvent sampleGrantId)
    (after.profile.grants.find? sampleGrantId).map
        (fun row => (row.direction, row.issuer, row.revoked)) =
      some (.received, peerDevice, false) ∧
    after.authorize peerDevice 1000 =
      .ok { trusted := true, scopes := [sampleScope], pairingAllowed := true } := by
  decide +kernel

end PairingService

end Heyaki
