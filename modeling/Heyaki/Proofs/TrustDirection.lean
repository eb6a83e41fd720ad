/-
Purpose: whose grants the scopes of a session come from.

`authorize` merges the live grants of both directions, and a pairing that this
device started ends with the scopes of the grant it received.  The scopes of a
session are covered by grants that this device issued only where the received ones
add nothing to them.

Main exports: `ProfileStore.Issues`, `TrustedSession.trust_directional`
-/
import Heyaki.Client.TrustedSession
import Heyaki.Proofs.PeerSessionGate
import Heyaki.Proofs.TrustScopes
import Heyaki.Proofs.TrustStore

namespace Heyaki

open Foundation
open Foundation.Transaction (bind_eq_ok)
open PeerSession SortedMap List

/-! ### Grants that are stored -/

namespace ProfileStore

variable {store : ProfileStore} {grant : TrustGrantRecord} {grants : List TrustGrantRecord}

/-- A live grant that this device issued to the peer covers the scope. -/
def Issues (store : ProfileStore) (peer : DeviceId) (now : UInt64) (scope : List UInt8) : Prop :=
  ∃ grantId row, store.grants.find? grantId = some row ∧ store.issuedTo peer row = true ∧
    live now row = true ∧ ∃ granted ∈ row.scopes, trustScopeCovers granted scope = true

variable {now : UInt64}

theorem Issues.covers {peer : DeviceId} {scope requested : List UInt8}
    (issues : Issues store peer now scope) (covers : trustScopeCovers scope requested = true) :
    Issues store peer now requested := by
  obtain ⟨grantId, row, found, issued, isLive, granted, member, stronger⟩ := issues
  exact ⟨grantId, row, found, issued, isLive, granted, member,
    trustScopeCovers_trans stronger covers⟩

theorem readRows_mem {entries : List (GrantId × TrustGrantRow)}
    (read : readRows entries = .ok grants) (member : grant ∈ grants) :
    ∃ entry ∈ entries, grant.toTrustGrantRow = entry.2 := by
  induction entries generalizing grants with
  | nil =>
    cases read
    cases member
  | cons entry entries ih =>
    obtain ⟨grantId, row⟩ := entry
    unfold readRows at read
    obtain ⟨record, first, others⟩ := bind_eq_ok.mp read
    obtain ⟨records, rest, made⟩ := bind_eq_ok.mp others
    cases made
    cases member with
    | head =>
      unfold readRow at first
      split_ifs at first
      cases first
      exact ⟨_, mem_cons_self, rfl⟩
    | tail _ later =>
      obtain ⟨entry, known, same⟩ := ih rest later
      exact ⟨entry, mem_cons_of_mem _ known, same⟩

end ProfileStore

namespace PairingService

open ProfileStore

variable (crypto : GrantCrypto) {service after : PairingService} {peer : DeviceId}
  {scope peerPublicKey : List UInt8} {env : PairingEnv} {grant : SignedTrustGrant}
  {result : PairingResultBody} {nonce : PairingNonce} {generation : UInt64}

/-- Where the scopes of a trusted verdict come from. -/
theorem authorize_scopes {trust : SessionAuthorization}
    (verdict : service.authorize peer now = .ok trust) (member : scope ∈ trust.scopes) :
    ∃ grantId row, service.profile.grants.find? grantId = some row ∧ live now row = true ∧
      (service.profile.issuedTo peer row = true ∨ service.profile.receivedFrom peer row = true) ∧
      scope ∈ row.scopes := by
  unfold authorize at verdict
  obtain ⟨grants, read, merges⟩ := bind_eq_ok.mp verdict
  dsimp only at merges
  split at merges
  · cases merges
    cases member
  obtain ⟨normalized, merged, made⟩ := bind_eq_ok.mp merges
  cases made
  unfold normalizeTrustScopes at merged
  split_ifs at merged
  cases merged
  obtain ⟨scopes, listed, inside⟩ := mem_flatten.mp (mem_sortUnique.mp member)
  obtain ⟨grant, known, rfl⟩ := mem_map.mp listed
  unfold trustGrantsForPeer at read
  split_ifs at read
  obtain ⟨⟨grantId, row⟩, listed, same⟩ := readRows_mem read known
  obtain ⟨stored, selected⟩ := mem_filter.mp listed
  rw [Bool.and_eq_true, Bool.or_eq_true] at selected
  exact ⟨grantId, row, mem_entries_iff.mp stored, selected.1, selected.2,
    congrArg TrustGrantRow.scopes same ▸ inside⟩

theorem toInt64_lt {one two : UInt64} (lt : one < two) (small : two.toNat < 2 ^ 63) :
    one.toInt64 < two.toInt64 := by
  have signed (value : UInt64) (small : value.toNat < 2 ^ 63) :
      value.toInt64.toInt = value.toNat := by
    rw [Int64.toInt]
    apply BitVec.toInt_eq_toNat_of_lt
    have same : value.toBitVec.toNat = value.toNat := rfl
    have bits : value.toInt64.toBitVec.toNat = value.toNat := same
    omega
  have less : one.toNat < two.toNat := lt
  rw [Int64.lt_iff_toInt_lt, signed one (by omega), signed two small]
  omega

/-- The end of the life of a grant that is issued now can be compared. -/
def LastingGrants (service : PairingService) (now : UInt64) : Prop :=
  (now + service.config.grantTtlMilliseconds).toNat < 2 ^ 63

variable {scopes : List (List UInt8)}

theorem put_ok {fault : Option Error} {record : TrustGrantRecord}
    (stored : service.put fault record = (.ok (), after)) :
    after.profile = { service.profile with
      grants := service.profile.grants.insert record.grantId
        { record.toTrustGrantRow with scopes := sortScopes record.scopes } } := by
  have outcome : (service.profile.putTrustGrant fault record).1 = .ok () := congrArg Prod.fst stored
  rw [← show _ = after from congrArg Prod.snd stored]
  unfold put putTrustGrant at *
  dsimp only at outcome ⊢
  split_ifs at outcome ⊢
  cases fault with
  | some error => cases outcome
  | none => rfl

/-- A new grant is live when it is issued, and issued to the peer. -/
theorem issues_draft {signature : IdentitySignature} (lasting : LastingGrants service env.now)
    (valid : validateSignedTrustGrant (service.draftGrant env peer nonce generation scopes) = .ok ())
    (member : scope ∈ scopes) :
    Issues { service.profile with
      grants := service.profile.grants.insert env.grantId
        { (toRecord { service.draftGrant env peer nonce generation scopes with
            signature := signature } .issued).toTrustGrantRow with scopes := sortScopes scopes } }
      peer env.now scope := by
  refine ⟨env.grantId, _, find?_insert_self .., ?_, ?_, scope, mem_sortUnique.mpr member,
    trustScopeCovers_self scope⟩
  · simp [issuedTo, toRecord, draftGrant]
  unfold validateSignedTrustGrant at valid
  split_ifs at valid
  rename_i later
  change (service.draftGrant env peer nonce generation scopes).expiresUnixMilliseconds.all
    (fun expires => decide (expires.toInt64 > env.now.toInt64)) = true
  by_cases positive : service.config.grantTtlMilliseconds > 0
  · have expires : (service.draftGrant env peer nonce generation scopes).expiresUnixMilliseconds =
        some (env.now + service.config.grantTtlMilliseconds) := if_pos positive
    rw [expires] at later ⊢
    apply decide_eq_true
    apply toInt64_lt _ lasting
    simpa [draftGrant] using later
  · have expires : (service.draftGrant env peer nonce generation scopes).expiresUnixMilliseconds =
        none := if_neg positive
    rw [expires]
    rfl

/-- A grant that a pairing ends with is stored as one issued to the peer. -/
theorem issueGrant_granted {request : PairingApprovalRequestBody}
    {emptyDetail issuedDetail : String} (lasting : LastingGrants service env.now)
    (answered : issueGrant crypto service env peer peerPublicKey request emptyDetail issuedDetail =
      (.ok result, after))
    (granted : result.grant = some grant) (member : scope ∈ grant.grantedScopes) :
    Issues after.profile peer env.now scope := by
  unfold issueGrant at answered
  split at answered
  · cases answered
  dsimp only at answered
  split at answered
  · cases answered
    cases granted
  split at answered
  · cases answered
  split at answered
  · cases answered
  rename_i made signed
  obtain ⟨valid, signature, rfl⟩ := signSignedTrustGrant_ok crypto signed
  split at answered
  · cases answered
  split at answered
  · cases answered
  rename_i stored
  cases answered
  cases granted
  dsimp only [audit]
  rw [put_ok stored]
  exact issues_draft lasting valid member

theorem evaluate_granted {request : PairingRequestBody} (lasting : LastingGrants service env.now)
    (answered : evaluate crypto service env request peer peerPublicKey = (.ok result, after))
    (granted : result.grant = some grant) (member : scope ∈ grant.grantedScopes) :
    Issues after.profile peer env.now scope := by
  unfold evaluate at answered
  dsimp only at answered
  split at answered
  · cases answered
    cases granted
  split at answered
  · cases answered
    cases granted
  split at answered
  · cases answered
    cases granted
  split at answered
  · cases answered
  · cases answered
    cases granted
  · apply issueGrant_granted crypto _ answered granted member
    exact lasting

/-- A grant that is stored under one id takes nothing from those under others. -/
theorem StoresOnly.issues {before after : ProfileStore} {grantId : GrantId}
    {direction : TrustGrantDirection} {issuer subject : DeviceId}
    (stores : StoresOnly before after grantId direction issuer subject)
    (issues : Issues (before.forget grantId) peer now scope) : Issues after peer now scope := by
  obtain ⟨other, row, found, issued, isLive, covers⟩ := issues
  rw [forget, find?_erase] at found
  split at found
  · cases found
  rename_i different
  rcases stores with rfl | ⟨fault, grant, rfl, rfl, -, -⟩
  · exact ⟨other, row, found, issued, isLive, covers⟩
  unfold putTrustGrant
  dsimp only
  split_ifs
  · exact ⟨other, row, found, issued, isLive, covers⟩
  · exact ⟨other, row, found, issued, isLive, covers⟩
  cases fault with
  | some error => exact ⟨other, row, found, issued, isLive, covers⟩
  | none =>
    refine ⟨other, row, ?_, issued, isLive, covers⟩
    rw [find?_insert, if_neg (show other ≠ (toRecord grant direction).grantId from different)]
    exact found

end PairingService

open PairingService
open ProfileStore (Issues)

/-! ### What an event does to the service -/

namespace TrustedSession

variable (crypto : GrantCrypto) {state : PeerSessionState}

theorem foldl_serve_of_calm (node : TrustedSession) (pairing : PairingEnv)
    {records : List SessionRecord} (service : PairingService)
    (each : ∀ entry ∈ records, CalmRecord state entry) :
    records.foldl (node.serve crypto pairing) service = service := by
  induction records with
  | nil => rfl
  | cons entry records ih =>
    have first := each entry mem_cons_self
    have same : node.serve crypto pairing service entry = service := by
      cases entry with
      | evaluated | presented => exact first.elim
      | _ => rfl
    rw [foldl_cons, same]
    exact ih fun later member => each later (mem_cons_of_mem entry member)

def Unauthorizing (entry : SessionRecord) : Prop := entry ≠ .state .authenticated

theorem unauthorizing_of_calm {entry : SessionRecord}
    (calm : CalmRecord state entry) : Unauthorizing entry := by
  rintro rfl
  rcases calm with closed | ⟨active, -⟩
  · cases closed
  · cases active

/-- An event that does not authorize the session leaves its scopes or drops them. -/
theorem Move.unauthorizing {session after : PeerSession} {event : SessionEnv × PeerSession.SessionEvent}
    (move : Move session event after) :
    (Appends Unauthorizing session after ∧
      (after.authorizedScopes = session.authorizedScopes ∨ after.authorizedScopes = [])) ∨
    ∃ frame start middle scopes, session.controlFrame event.2 = some frame ∧
      Authority session event.1 frame start scopes ∧ Calm start middle ∧
      after = middle.upgradeToAuthorized scopes := by
  have calmly {before middle : PeerSession} (calm : Calm before middle) :
      Appends Unauthorizing before middle := calm.appends fun _ => unauthorizing_of_calm
  cases move with
  | calm calm => exact .inl ⟨calmly calm, .inl calm.authorizedScopes⟩
  | start _ calm =>
    refine .inl ⟨?_, .inl calm.authorizedScopes⟩
    apply Appends.trans _ (calmly calm)
    exact appends_record (.state .authenticating) nofun rfl
  | hello _ _ calm =>
    refine .inl ⟨?_, .inl calm.authorizedScopes⟩
    apply Appends.trans _ (calmly calm)
    exact appends_of_log rfl
  | asked entry call calm =>
    refine .inl ⟨?_, .inl calm.authorizedScopes⟩
    apply Appends.trans _ (calmly calm)
    apply appends_record entry _ rfl
    rintro rfl
    exact call
  | authorized received authority calm _ => exact .inr ⟨_, _, _, _, received, authority, calm, rfl⟩
  | @restricted frame _ basic received hello calm _ =>
    refine .inl ⟨?_, .inr rfl⟩
    have greeted : Appends Unauthorizing session (session.greet frame) := appends_of_log rfl
    apply (greeted.trans (calmly calm)).trans
    exact appends_record (.state .pairingRestricted) nofun rfl
  | delivered received admits known found =>
    have active := walk_calm.activate session
    refine .inl ⟨?_, .inl active.authorizedScopes⟩
    apply (calmly active).trans
    exact appends_record (.delivered _ _) nofun rfl
  | admitted token received admits typed calm =>
    refine .inl ⟨?_, .inl calm.authorizedScopes⟩
    apply Appends.trans _ (calmly calm)
    exact appends_record (.admitted _ token _) nofun rfl

/-! ### Runs -/

/-- A session with its service, and the profile and the time at which the session was
last authorized. -/
structure Watched extends TrustedSession where
  authorizedAt : Option (ProfileStore × UInt64) := none

/-- A new session, with whatever the profile holds. -/
def Initial (node : Watched) : Prop := PeerSession.Created node.session ∧ node.authorizedAt = none

inductive TrustedEvent where
  /-- A call of the service from elsewhere, for any peer. -/
  | trust (event : PairingService.TrustEvent)
  | session (outside : SessionEnv) (pairing : PairingEnv) (event : PeerSession.SessionEvent)

def watch (node : Watched) : TrustedEvent → Watched
  | .trust event => { node with service := step crypto node.service event }
  | .session outside pairing event =>
    let next := node.toTrustedSession.handle crypto outside pairing event
    { toTrustedSession := next
      authorizedAt :=
        if .state .authenticated ∈ next.session.log.drop node.session.log.length then
          some (next.service.profile, pairing.now)
        else node.authorizedAt }

/-- What this device received from the peer adds nothing to what it issued: at a
hello, for the grants of the profile; in a pairing result, for the grant it names.
A grant that is issued has an end that can be compared. -/
structure Directed (node : Watched) (now : UInt64) (event : PeerSession.SessionEvent) : Prop where
  hello : ∀ {frame : Frame}, node.session.controlFrame event = some frame →
    PeerSession.HelloAccepted node.session frame → ∀ {grantId : GrantId} {row : TrustGrantRow},
      node.service.profile.grants.find? grantId = some row →
      node.service.profile.receivedFrom node.peer row = true → ProfileStore.live now row = true →
      ∀ scope ∈ row.scopes, Issues node.service.profile node.peer now scope
  result : ∀ {frame : Frame} {result : PairingResultBody} {grant : SignedTrustGrant},
    node.session.controlFrame event = some frame → node.session.state = .pairingRestricted →
    parsePairingResult frame.payload = .ok result → result.grant = some grant →
      ∀ scope ∈ grant.grantedScopes,
        Issues (node.service.profile.forget grant.grantId) node.peer now scope
  request : ∀ {frame : Frame}, node.session.controlFrame event = some frame →
    frameType? frame.type = some .pairingRequest → PairingService.LastingGrants node.service now

def Allowed (node : Watched) : TrustedEvent → Prop
  | .trust _ => True
  | .session _ pairing event => Directed node pairing.now event

/-- The scopes of the session, each covered when the session was authorized. -/
def Directional (node : Watched) : Prop :=
  ∀ scope ∈ node.session.authorizedScopes, ∃ profile now,
    node.authorizedAt = some (profile, now) ∧ Issues profile node.peer now scope

variable {node : Watched} {event : PeerSession.SessionEvent}

theorem issues_of_authority {outside : SessionEnv} {pairing : PairingEnv}
    {frame : Frame} {start : PeerSession} (directed : Directed node pairing.now event)
    (received : node.session.controlFrame event = some frame)
    (authority : Authority node.session (node.wire crypto outside pairing) frame start scopes) :
    ∃ records, start.log = node.session.log ++ records ∧ ∀ scope ∈ scopes,
      Issues (records.foldl (node.serve crypto pairing) node.service).profile node.peer
        pairing.now scope := by
  cases authority with
  | noAuthorizer => exact ⟨[], (append_nil _).symm, nofun⟩
  | trusted hello _ verdict _ =>
    refine ⟨[], (append_nil _).symm, fun scope member => ?_⟩
    obtain ⟨grantId, row, found, isLive, parties, inside⟩ := authorize_scopes verdict member
    rcases parties with issued | fromPeer
    · exact ⟨grantId, row, found, issued, isLive, scope, inside, trustScopeCovers_self scope⟩
    · exact directed.hello received hello found fromPeer isLive scope inside
  | evaluated type _ _ _ verdict _ granted =>
    refine ⟨[.evaluated _], rfl, fun scope member => ?_⟩
    exact evaluate_granted crypto (directed.request received type)
      (Prod.ext verdict rfl) granted member
  | accepted _ restricted _ parsed _ _ _ granted =>
    refine ⟨[.presented ..], rfl, fun scope member => ?_⟩
    have stores := storesOnly_acceptGrant crypto node.service pairing granted
    exact (stores ..).issues (directed.result received restricted parsed granted scope member)

theorem directional_watch (directional : Directional node) (event : TrustedEvent)
    (allowed : Allowed node event) : Directional (watch crypto node event) := by
  cases event with
  | trust event => exact directional
  | session outside pairing event =>
    intro scope member
    have move := move_step node.session (node.wire crypto outside pairing, event)
    change scope ∈ (node.session.step (node.wire crypto outside pairing, event)).authorizedScopes
      at member
    unfold watch handle
    dsimp only
    revert move member
    generalize node.session.step (node.wire crypto outside pairing, event) = after
    intro move member
    rcases Move.unauthorizing move with ⟨⟨records, log, each⟩, kept | dropped⟩ |
      ⟨frame, start, middle, scopes, received, authority, calm, rfl⟩
    · rw [log, drop_left, if_neg fun listed => each _ listed rfl]
      exact directional scope (kept ▸ member)
    · rw [dropped] at member
      cases member
    obtain ⟨asked, startLog, issues⟩ := issues_of_authority crypto allowed received authority
    obtain ⟨quiet, middleLog, -, each⟩ := calm.records
    have log : (middle.upgradeToAuthorized scopes).log =
        node.session.log ++ (asked ++ quiet ++ [.state .authenticated]) := by
      change middle.log ++ [_] = _
      rw [middleLog, startLog]
      simp only [append_assoc]
    rw [log, drop_left, if_pos (by simp), foldl_append, foldl_append,
      foldl_serve_of_calm crypto _ _ _ each]
    exact ⟨_, _, rfl, issues scope member⟩

/-- In every run in which received grants add nothing to issued ones, every scope of
the session, and every scope that it passes for its peer, is covered by a grant that
this device had issued to the peer and that was live when the session was
authorized, or by the policy of basic communication. -/
theorem trust_directional {node : Watched}
    (run : Machine.Reaches (watch crypto) Initial Allowed node) :
    (∀ scope ∈ node.session.authorizedScopes, ∃ profile now,
      node.authorizedAt = some (profile, now) ∧ Issues profile node.peer now scope) ∧
    ∀ scope, node.session.sessionScopeCovers scope = true →
      node.session.policyScopeCovers scope = true ∨ ∃ profile now,
        node.authorizedAt = some (profile, now) ∧ Issues profile node.peer now scope := by
  have directional : Directional node := by
    apply run.invariant
    · rintro start ⟨⟨config, admission, budgets, -, created⟩, -⟩
      intro scope member
      rw [created] at member
      cases member
    · intro node event directional allowed
      exact directional_watch crypto directional event allowed
  refine ⟨directional, fun scope covers => ?_⟩
  rcases (Bool.or_eq_true _ _).mp covers with granted | policy
  · right
    obtain ⟨held, member, stronger⟩ := any_eq_true.mp granted
    obtain ⟨profile, now, at_, issues⟩ := directional held member
    exact ⟨profile, now, at_, issues.covers stronger⟩
  · exact .inl policy

/-! ### Samples -/

/-- A session of the initiator that asks the pairing service. -/
def sampleNode : Watched where
  service := sampleService
  session := { sampleSession with
    config := { sampleSession.config with
      hasTrustAuthorizer := true, hasPairingEvaluator := true, hasPairingResultSink := true } }
  peer := peerDevice
  peerPublicKey := PairingService.sampleKey

def sessionEvent (sends : List (Except Error Unit)) (event : PeerSession.SessionEvent) :
    TrustedEvent :=
  .session (sampleEnv sends) sampleEnv event

def helloEvents : List TrustedEvent :=
  [sessionEvent [] .start,
    sessionEvent [.ok ()] (.controlOpened (.ok controlChannel)),
    sessionEvent [] (.message controlChannel
      (frameBytes (sampleFrame .sessionHello 0 PeerSession.sampleHello)))]

theorem sampleNode_initial : Initial sampleNode := ⟨⟨_, _, {}, rfl, rfl⟩, rfl⟩

theorem directed_of_none
    (none : node.session.controlFrame event = none) : Directed node now event := by
  constructor
  · intro frame received
    cases none.symm.trans received
  · intro frame result grant received
    cases none.symm.trans received
  · intro frame received
    cases none.symm.trans received

/-- The peer paired with the password before. -/
def pairedNode : Watched :=
  watch sampleCrypto sampleNode (.trust (.evaluate sampleEnv
    samplePairing peerDevice PairingService.sampleKey.val))

/-- The grant of a peer that paired lets it pass its scope. -/
theorem trust_directional_paired :
    (helloEvents.foldl (watch sampleCrypto) pairedNode).session.sessionScopeCovers
        sampleScope = true ∧
      ∃ profile now,
        (helloEvents.foldl (watch sampleCrypto) pairedNode).authorizedAt = some (profile, now) ∧
        Issues profile peerDevice now sampleScope := by
  have covers : (helloEvents.foldl (watch sampleCrypto)
      pairedNode).session.sessionScopeCovers sampleScope = true := by decide +kernel
  refine ⟨covers, ?_⟩
  have greeted : ((helloEvents.take 2).foldl (watch sampleCrypto)
      pairedNode).session.controlFrame (.message controlChannel
        (frameBytes (sampleFrame .sessionHello 0 PeerSession.sampleHello))) =
      some (sampleFrame .sessionHello 0 PeerSession.sampleHello) := by decide +kernel
  have allowed : Machine.EachAllowed (watch sampleCrypto) Allowed pairedNode helloEvents := by
    refine ⟨directed_of_none rfl, directed_of_none rfl, ⟨?_, ?_, ?_⟩, trivial⟩
    · intro frame _ _ grantId row found fromPeer
      have issuedOnly : (pairedNode.service.profile.grants.entries.all fun entry =>
          !pairedNode.service.profile.receivedFrom pairedNode.peer entry.2) = true := by
        decide +kernel
      have other := all_eq_true.mp issuedOnly _ (mem_entries_iff.mpr found)
      rw [Bool.not_eq_true'] at other
      cases other.symm.trans fromPeer
    · intro frame result grant _ restricted
      have state : ((helloEvents.take 2).foldl (watch sampleCrypto)
          pairedNode).session.state = .authenticating := by decide +kernel
      cases state.symm.trans restricted
    · intro frame received type
      cases greeted.symm.trans received
      cases type
  have paired : Machine.Reaches (watch sampleCrypto) Initial Allowed pairedNode :=
    .next _ (.start sampleNode_initial) trivial
  have run := paired.foldl allowed
  rcases (trust_directional sampleCrypto run).2 _ covers with policy | issues
  · have none : (helloEvents.foldl (watch sampleCrypto)
        pairedNode).session.policyScopeCovers sampleScope = false := by
      decide +kernel
    cases none.symm.trans policy
  · exact issues

/-- This device once asked the peer for a grant and has issued none to it.  The
peer's hello is trusted, and the peer passes the scope it had granted. -/
theorem received_grant_passes :
    ∃ node, Machine.Reaches (watch sampleCrypto) Initial (fun _ _ => True) node ∧
      node.service.profile.grants.entries.map (fun entry => (entry.2.direction, entry.2.revoked)) =
        [(.received, false)] ∧
      node.session.state = .authenticated ∧
      node.session.policyScopeCovers sampleScope = false ∧
      node.session.sessionScopeCovers sampleScope = true := by
  refine ⟨(.trust (acceptEvent otherGrantId) :: helloEvents).foldl
    (watch sampleCrypto) sampleNode, ?_, ?_, ?_, ?_, ?_⟩
  · exact (Machine.Reaches.start sampleNode_initial).foldl (Machine.eachAllowed_true _ _)
  · decide +kernel
  · decide +kernel
  · decide +kernel
  · decide +kernel

end TrustedSession

end Heyaki
