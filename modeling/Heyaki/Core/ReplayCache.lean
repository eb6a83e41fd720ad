/-
Purpose: the replay guard of signed signaling objects (`signaling_replay_cache.cpp`)
with the policy it is created from (`security.cpp`).

The steady clock counts nanoseconds.  Keys are ordered as the source orders them:
an absent responder nonce or sequence comes before every present one.
-/
import Heyaki.Core.SignalingProtocol
import Heyaki.Foundation.SortedMap

namespace Heyaki

open Foundation

/-! ### The policy -/

def replayCacheTtlMilliseconds : Nat := 10 * 60 * 1000

structure ReplayCachePolicy where
  ttlMilliseconds : Nat := replayCacheTtlMilliseconds
  capacity : Nat := 4096
  perPeerCapacity : Nat := 256
  deriving Repr, Inhabited, DecidableEq

structure PasswordSecurityPolicy where
  verifierFormatVersion : Nat := 1
  minimumUnicodeScalars : Nat := 8
  maximumUtf8Bytes : Nat := 256
  generatedEntropyBits : Nat := 128
  argon2TargetMilliseconds : Nat := 500
  argon2MinimumMemoryKib : Nat := 64 * 1024
  argon2MaximumMemoryKib : Nat := 512 * 1024
  argon2MinimumOperations : Nat := 2
  argon2MaximumOperations : Nat := 6
  deriving Repr, Inhabited, DecidableEq

def securityPolicyError (detail : String) : Error :=
  { code := .configuration, component := "security", safeDetail := detail }

def PasswordSecurityPolicy.invalid (password : PasswordSecurityPolicy) : Bool :=
  password.verifierFormatVersion != 1 || password.minimumUnicodeScalars < 8 ||
    password.maximumUtf8Bytes < password.minimumUnicodeScalars ||
    password.maximumUtf8Bytes > 256 || password.generatedEntropyBits < 128 ||
    password.argon2TargetMilliseconds < 250 || password.argon2TargetMilliseconds > 750 ||
    password.argon2MinimumMemoryKib < 64 * 1024 ||
    password.argon2MaximumMemoryKib < password.argon2MinimumMemoryKib ||
    password.argon2MaximumMemoryKib > 512 * 1024 || password.argon2MinimumOperations < 2 ||
    password.argon2MaximumOperations < password.argon2MinimumOperations ||
    password.argon2MaximumOperations > 6

def validateSecurityPolicy (replay : ReplayCachePolicy) (password : PasswordSecurityPolicy) :
    Except Error Unit :=
  if replay.ttlMilliseconds ≠ replayCacheTtlMilliseconds then
    .error (securityPolicyError "replay_ttl")
  else if replay.capacity < 64 ∨ replay.capacity > 1024 * 1024 then
    .error (securityPolicyError "replay_capacity")
  else if replay.perPeerCapacity < 16 ∨ replay.perPeerCapacity > replay.capacity then
    .error (securityPolicyError "replay_per_peer_capacity")
  else if password.invalid then .error (securityPolicyError "password_policy")
  else .ok ()

/-! ### Keys -/

structure ReplayKey where
  domain : UInt8
  signer : DeviceId
  requestId : RequestId
  sessionId : SessionId
  initiatorNonce : SignalingNonce
  responderNonce : Option SignalingNonce := none
  sequence : Option UInt32 := none
  deriving DecidableEq

/-- The parts in the order they are compared in; an absent part is empty. -/
def ReplayKey.rank (key : ReplayKey) : List (List Nat) :=
  [[key.domain.toNat], byteRank key.signer.bytes, byteRank key.requestId.bytes,
    byteRank key.sessionId.bytes, byteRank key.initiatorNonce.val,
    (match key.responderNonce with
    | none => []
    | some nonce => 1 :: byteRank nonce.val),
    match key.sequence with
    | none => []
    | some sequence => [sequence.toNat]]

theorem Identifier.eq_of_byteRank {kind : IdentifierKind} {one two : Identifier kind}
    (same : byteRank one.bytes = byteRank two.bytes) : one = two := by
  cases one
  cases two
  congr
  exact byteRank_injective same

theorem ReplayKey.rank_injective : Function.Injective ReplayKey.rank := by
  intro one two same
  obtain ⟨domain, signer, requestId, sessionId, initiatorNonce, responderNonce, sequence⟩ := one
  obtain ⟨domain', signer', requestId', sessionId', initiatorNonce', responderNonce', sequence'⟩ := two
  simp only [rank, List.cons.injEq, and_true] at same
  obtain ⟨domains, signers, requests, sessions, initiators, responders, sequences⟩ := same
  congr
  · exact UInt8.toNat_inj.mp domains
  · exact Identifier.eq_of_byteRank signers
  · exact Identifier.eq_of_byteRank requests
  · exact Identifier.eq_of_byteRank sessions
  · exact Subtype.ext (byteRank_injective initiators)
  · cases responderNonce with
    | none =>
      cases responderNonce' with
      | none => rfl
      | some nonce' => cases responders
    | some nonce =>
      cases responderNonce' with
      | none => cases responders
      | some nonce' =>
        exact congrArg some (Subtype.ext (byteRank_injective (List.cons.inj responders).2))
  · cases sequence with
    | none =>
      cases sequence' with
      | none => rfl
      | some number' => cases sequences
    | some number =>
      cases sequence' with
      | none => cases sequences
      | some number' =>
        exact congrArg some (UInt32.toNat_inj.mp (List.cons.inj sequences).1)

instance : LinearOrder ReplayKey :=
  LinearOrder.lift' ReplayKey.rank ReplayKey.rank_injective

/-! ### The cache -/

inductive SignalingReplayDecision where
  | admitted | duplicate | capacityRejected
  deriving Repr, Inhabited, DecidableEq

structure SignalingReplayDiagnostics where
  admitted : Nat := 0
  duplicatesRejected : Nat := 0
  capacityRejected : Nat := 0
  perPeerRejected : Nat := 0
  expiredEvicted : Nat := 0
  currentEntries : Nat := 0
  peakEntries : Nat := 0
  peakPerPeerEntries : Nat := 0
  deriving Repr, Inhabited, DecidableEq

structure SignalingReplayCache where
  policy : ReplayCachePolicy := {}
  /-- Each key with the instant from which on it may be admitted again. -/
  entries : SortedMap ReplayKey Nat := {}
  perPeer : SortedMap DeviceId Nat := {}
  nextSweep : Nat := 0
  diagnostics : SignalingReplayDiagnostics := {}

def replayError (detail : String) : Error :=
  { code := .resourceExhausted, component := "signaling_replay", safeDetail := detail }

/-- Nanoseconds in a millisecond. -/
def nanoseconds : Nat := 1000000

def connectRequestReplayDomain : UInt8 := 0xff

namespace SignalingReplayCache

def create (policy : ReplayCachePolicy) : Except Error SignalingReplayCache := do
  validateSecurityPolicy policy {}
  if policy.capacity < policy.perPeerCapacity then
    .error (replayError "replay_capacity_below_per_peer")
  else .ok { policy := policy }

/-- The count of a signer is lowered, and dropped when it reaches zero. -/
def lowerCount (perPeer : SortedMap DeviceId Nat) (signer : DeviceId) : SortedMap DeviceId Nat :=
  match perPeer.find? signer with
  | none => perPeer
  | some count =>
    if count > 0 then
      if count - 1 = 0 then perPeer.erase signer else perPeer.insert signer (count - 1)
    else perPeer

variable (cache : SignalingReplayCache)

def evictEntry (key : ReplayKey) : SignalingReplayCache :=
  { cache with
    entries := cache.entries.erase key
    perPeer := lowerCount cache.perPeer key.signer
    diagnostics := { cache.diagnostics with
      expiredEvicted := cache.diagnostics.expiredEvicted + 1 } }

/-- The loop of `expire` over the entries that it found. -/
def expireEntries (now : Nat) :
    List (ReplayKey × Nat) → SignalingReplayCache → SignalingReplayCache
  | [], cache => cache
  | (key, deadline) :: rest, cache =>
    expireEntries now rest (if now ≥ deadline then cache.evictEntry key else cache)

def expire (now : Nat) : SignalingReplayCache :=
  let swept := expireEntries now cache.entries.entries cache
  { swept with diagnostics := { swept.diagnostics with currentEntries := swept.entries.size } }

/-- Sweeps run at most once a second. -/
def sweep (now : Nat) : SignalingReplayCache :=
  if now ≥ cache.nextSweep then
    { cache.expire now with nextSweep := now + 1000 * nanoseconds }
  else cache

def rejectDuplicate : SignalingReplayCache :=
  { cache with diagnostics := { cache.diagnostics with
      duplicatesRejected := cache.diagnostics.duplicatesRejected + 1 } }

/-- `byPeer` tells which of the two limits was hit. -/
def rejectCapacity (byPeer : Bool) : SignalingReplayCache :=
  { cache with diagnostics := { cache.diagnostics with
      perPeerRejected := cache.diagnostics.perPeerRejected + if byPeer then 1 else 0
      capacityRejected := cache.diagnostics.capacityRejected + 1 } }

/-- Reading the count of a signer creates it. -/
def touchCount (signer : DeviceId) : SignalingReplayCache :=
  if cache.perPeer.contains signer then cache
  else { cache with perPeer := cache.perPeer.insert signer 0 }

def peerCount (signer : DeviceId) : Nat :=
  (cache.perPeer.find? signer).getD 0

def store (key : ReplayKey) (now : Nat) : SignalingReplayCache :=
  let entries := cache.entries.insert key (now + cache.policy.ttlMilliseconds * nanoseconds)
  let count := cache.peerCount key.signer + 1
  { cache with
    entries := entries
    perPeer := cache.perPeer.insert key.signer count
    diagnostics := { cache.diagnostics with
      admitted := cache.diagnostics.admitted + 1
      currentEntries := entries.size
      peakEntries := max cache.diagnostics.peakEntries entries.size
      peakPerPeerEntries := max cache.diagnostics.peakPerPeerEntries count } }

/-- A key without a live entry is stored unless a limit is reached. -/
def admitFresh (key : ReplayKey) (now : Nat) : SignalingReplayDecision × SignalingReplayCache :=
  let cache := cache.touchCount key.signer
  if cache.peerCount key.signer ≥ cache.policy.perPeerCapacity then
    (.capacityRejected, cache.rejectCapacity true)
  else if cache.entries.size ≥ cache.policy.capacity then
    (.capacityRejected, cache.rejectCapacity false)
  else (.admitted, cache.store key now)

def admitKey (key : ReplayKey) (now : Nat) : SignalingReplayDecision × SignalingReplayCache :=
  let cache := cache.sweep now
  match cache.entries.find? key with
  | some deadline =>
    if now < deadline then (.duplicate, cache.rejectDuplicate)
    else (cache.evictEntry key).admitFresh key now
  | none => cache.admitFresh key now

def admitObject (domain : SigningDomain) (signer : DeviceId) (requestId : RequestId)
    (sessionId : SessionId) (initiatorNonce : SignalingNonce)
    (responderNonce : Option SignalingNonce) (sequence : Option UInt32) (now : Nat) :
    Except Error SignalingReplayDecision × SignalingReplayCache :=
  if signer.isZero then (.error (replayError "replay_signer_zero"), cache)
  else
    let (decision, cache) := cache.admitKey
      { domain := domain.code, signer := signer, requestId := requestId, sessionId := sessionId,
        initiatorNonce := initiatorNonce, responderNonce := responderNonce, sequence := sequence }
      now
    (.ok decision, cache)

/-- The key of a connect request: the parts it does not have are zero. -/
def connectRequestKey (sender : DeviceId) (requestId : RequestId) : ReplayKey where
  domain := connectRequestReplayDomain
  signer := sender
  requestId := requestId
  sessionId := .filled 0
  initiatorNonce := filledBytes 32 0

def admitConnectRequest (sender : DeviceId) (requestId : RequestId) (now : Nat) :
    Except Error SignalingReplayDecision × SignalingReplayCache :=
  if sender.isZero || requestId.isZero then
    (.error (replayError "connect_request_replay_key_zero"), cache)
  else
    let (decision, cache) := cache.admitKey (connectRequestKey sender requestId) now
    (.ok decision, cache)

end SignalingReplayCache

end Heyaki
