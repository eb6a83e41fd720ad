/-
Purpose: which file manifests of a peer are admitted, and when their bytes are charged
(`handle_inbound_manifest`, `finish_verify` and what ends a receive in `file_service.cpp`).

Sizes are the values of 64-bit integers: sums of them are taken modulo 2^64.
`peer_received_bytes_` is only ever summed over all roots, and the model keeps the sum.

Trusted boundary: the verdicts of `ManifestEnv` and of the verification come from the senders,
the scopes, the codec, the disk and the session.
-/
import Heyaki.Core.Ids
import Heyaki.Foundation.Window

namespace Heyaki

open Foundation

structure FileRootConfig where
  name : Text
  maxFileBytes : Nat := gib
  maxTotalBytes : Nat := 8 * gib
  maxConcurrentReceives : Nat := 2

structure FileReceive where
  root : Text
  size : Nat

structure FileManifest (Id : Type) extends FileReceive where
  transferId : Id

structure ManifestEnv where
  sending : Bool := false
  scopeAllowed : Bool := true
  compressed : Bool := false
  stagingFails : Bool := false
  resumeMismatch : Bool := false
  acceptFails : Bool := false

structure FileQuota (Id : Type) [LinearOrder Id] where
  receiveRoots : List FileRootConfig
  maxPeerReceiveBytes : Nat := 0
  receivers : SortedMap Id FileReceive := {}
  peerReceivedBytes : Nat := 0
  /-- History: all bytes that were committed. -/
  committed : Nat := 0

namespace FileQuota

inductive Event (Id : Type)
  | manifest (manifest : FileManifest Id) (env : ManifestEnv)
  | verified (id : Id) (ok : Bool)
  /-- The receive failed, was cancelled or aborted, or its session closed; a verification that
  is under way may still commit. -/
  | ended (id : Id) (commits : Bool)

variable {Id : Type} [LinearOrder Id] (service : FileQuota Id)

def rootConfig (root : Text) : Option FileRootConfig :=
  service.receiveRoots.find? (·.name == root)

/-- The sum over the receives of a root. -/
def perRoot (amount : FileReceive → Nat) (root : Text) : Nat :=
  Window.weight (fun receive => if receive.root = root then amount receive else 0) service.receivers

def inRoot (root : Text) : Nat := service.perRoot FileReceive.size root

def rootActive (root : Text) : Nat := service.perRoot (fun _ => 1) root

/-- The status and detail a manifest is rejected with. -/
def refusal? (manifest : FileManifest Id) (env : ManifestEnv) : Option (StableStatus × String) :=
  if service.receivers.contains manifest.transferId || env.sending then
    some (.alreadyExists, "transfer_in_use")
  else
    match service.rootConfig manifest.root with
    | none => some (.notFound, "root_unknown")
    | some root =>
      if !env.scopeAllowed then some (.permissionDenied, "scope_denied")
      else if env.compressed then some (.unimplemented, "compression_unsupported")
      else if manifest.size > root.maxFileBytes then some (.resourceExhausted, "file_too_large")
      else if (service.inRoot manifest.root + manifest.size) % 2 ^ 64 > root.maxTotalBytes then
        some (.resourceExhausted, "root_quota")
      else if service.rootActive manifest.root ≥ root.maxConcurrentReceives then
        some (.resourceExhausted, "root_concurrency")
      else if service.maxPeerReceiveBytes > 0 ∧
          (service.peerReceivedBytes + manifest.size) % 2 ^ 64 > service.maxPeerReceiveBytes then
        some (.resourceExhausted, "peer_quota")
      else if env.stagingFails then some (.permissionDenied, "staging_denied")
      else if env.resumeMismatch then some (.alreadyExists, "resume_state_mismatch")
      else none

def handleInboundManifest (manifest : FileManifest Id) (env : ManifestEnv) : FileQuota Id :=
  if service.refusal? manifest env ≠ none ∨ env.acceptFails = true then service
  else { service with
    receivers := service.receivers.insert manifest.transferId manifest.toFileReceive }

/-- The receive is over; its file may be committed. -/
def retire (id : Id) (commits : Bool) : FileQuota Id :=
  match service.receivers.find? id with
  | none => service
  | some receive => { service with
    receivers := service.receivers.erase id
    committed := service.committed + if commits then receive.size else 0 }

def finishVerify (id : Id) (ok : Bool) : FileQuota Id :=
  match service.receivers.find? id with
  | none => service
  | some receive => { service.retire id ok with
    peerReceivedBytes := if ok then (service.peerReceivedBytes + receive.size) % 2 ^ 64
      else service.peerReceivedBytes }

def step : Event Id → FileQuota Id
  | .manifest manifest env => service.handleInboundManifest manifest env
  | .verified id ok => service.finishVerify id ok
  | .ended id commits => service.retire id commits

end FileQuota

end Heyaki
