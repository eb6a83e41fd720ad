/-
Purpose: the gateway dials exactly the addresses its policy allows; when its timers are early.

Ranges are stated over the numbers that addresses spell: two addresses agree on
their leading bits if dividing by the weight of the other bits gives the same.

Main exports: `AddressRange`, `gateway_admission_exact`, `gateway_timer_run_out_iff`
-/
import Heyaki.Client.GatewayService
import Heyaki.Foundation.BigEndian

namespace Heyaki

open Foundation List

variable {profiles : List GatewayProfileConfig} {connect : GatewayConnect}

/-! ### Addresses as numbers -/

variable (address : GatewayIp)

def GatewayIp.octets : Nat :=
  if address.v4 then 4 else 16

def GatewayIp.number : Nat :=
  BigEndian.number (address.bytes.toList.take address.octets)

/-- The addresses of a family that share their leading bits with a network. -/
structure AddressRange where
  v4 : Bool
  network : Nat
  bits : Nat
  deriving Repr, DecidableEq

def AddressRange.width (range : AddressRange) : Nat :=
  if range.v4 then 32 else 128

def AddressRange.Holds (range : AddressRange) (address : GatewayIp) : Prop :=
  range.v4 = address.v4 ∧
    range.network / 2 ^ (range.width - range.bits) = address.number / 2 ^ (range.width - range.bits)

instance (range : AddressRange) (address : GatewayIp) : Decidable (range.Holds address) :=
  inferInstanceAs (Decidable (_ ∧ _))

/-- No bit is compared for a negative length. -/
def GatewayCidr.range (cidr : GatewayCidr) : AddressRange where
  v4 := cidr.address.v4
  network := cidr.address.number
  bits := cidr.prefixBits.toNat

namespace GatewayIp

theorem length_octets : (address.bytes.toList.take address.octets).length = address.octets := by
  rw [length_take, Vector.length_toList]
  unfold octets
  split_ifs <;> rfl

theorem number_lt : address.number < 2 ^ (8 * address.octets) := by
  have small := BigEndian.number_lt (address.bytes.toList.take address.octets)
  rwa [length_octets] at small

theorem byte_bit_eq_iff (one two : UInt8) {shift : Nat} (small : shift < 8) :
    (one >>> UInt8.ofNat shift &&& 1 = two >>> UInt8.ofNat shift &&& 1) ↔
      one.toNat.testBit shift = two.toNat.testBit shift := by
  have bit : ∀ byte : UInt8,
      (byte >>> UInt8.ofNat shift &&& 1).toNat = (byte.toNat.testBit shift).toNat := by
    intro byte
    have amount : (UInt8.ofNat shift).toNat = shift :=
      UInt8.toNat_ofNat_of_lt' (lt_trans small (by decide))
    rw [UInt8.toNat_and, UInt8.toNat_shiftRight, amount, Nat.mod_eq_of_lt small,
      Nat.shiftRight_eq_div_pow, Nat.toNat_testBit]
    exact Nat.and_one_is_mod _
  rw [← UInt8.toNat_inj, bit, bit]
  cases one.toNat.testBit shift <;> cases two.toNat.testBit shift <;> decide

theorem octets_eq {one two : GatewayIp} (family : one.v4 = two.v4) : two.octets = one.octets := by
  unfold octets
  rw [family]

theorem bitAt_eq_iff (one two : GatewayIp) (family : one.v4 = two.v4) (bit : Nat) :
    one.bitAt one.octets bit = two.bitAt one.octets bit ↔
      (bit < 8 * one.octets → one.number.testBit (8 * one.octets - 1 - bit) =
        two.number.testBit (8 * one.octets - 1 - bit)) := by
  unfold bitAt
  by_cases outside : bit ≥ one.octets * 8
  · rw [if_pos outside, if_pos outside]
    exact iff_of_true rfl fun inside => absurd inside (by omega)
  have inside : bit < 8 * one.octets := by omega
  rw [if_neg outside, if_neg outside, byte_bit_eq_iff _ _ (by omega : 7 - bit % 8 < 8)]
  have bitOf : ∀ address : GatewayIp, address.octets = one.octets →
      address.number.testBit (8 * one.octets - 1 - bit) =
        (address.bytes.toList.getD (bit / 8) 0).toNat.testBit (7 - bit % 8) := by
    intro address same
    have short : bit < 8 * (address.bytes.toList.take address.octets).length := by
      rw [length_octets, same]
      exact inside
    have bits := BigEndian.testBit_number short
    rw [length_octets, same] at bits
    unfold number
    rw [same, bits, getD_eq_getElem?_getD, getElem?_take_of_lt (by omega),
      ← getD_eq_getElem?_getD]
  rw [bitOf one rfl, bitOf two (octets_eq family)]
  exact ⟨fun same _ => same, fun same => same inside⟩

end GatewayIp

open GatewayIp

theorem gatewayCidrContains_iff (cidr : GatewayCidr) (address : GatewayIp) :
    gatewayCidrContains cidr address = true ↔ cidr.range.Holds address := by
  unfold gatewayCidrContains AddressRange.Holds
  by_cases family : cidr.address.v4 = address.v4
  · have width : cidr.range.width = 8 * cidr.address.octets := by
      unfold AddressRange.width GatewayIp.octets GatewayCidr.range
      cases cidr.address.v4 <;> rfl
    have ownFits := cidr.address.number_lt
    have otherFits := address.number_lt
    rw [octets_eq family] at otherFits
    rw [if_neg (by simp [family]), width]
    show (range cidr.prefixBits.toNat).all _ = true ↔ cidr.address.v4 = address.v4 ∧ _
    rw [and_iff_right family, all_eq_true]
    apply Iff.trans _ (BigEndian.leading_eq_iff ownFits otherFits cidr.prefixBits.toNat)
    constructor
    · intro same bit before
      have equal := same bit (mem_range.mpr before)
      exact (bitAt_eq_iff _ _ family bit).mp (beq_iff_eq.mp equal)
    · intro same bit member
      apply beq_iff_eq.mpr
      exact (bitAt_eq_iff _ _ family bit).mpr (same bit (mem_range.mp member))
  · rw [if_pos (by simp [family])]
    exact iff_of_false Bool.false_ne_true fun holds => family holds.1

/-! ### The built-in ranges -/

namespace AddressRange

def quad (one two three four : Nat) : Nat := ((one * 256 + two) * 256 + three) * 256 + four

def groups (values : List Nat) : Nat := values.foldl (fun number value => number * 65536 + value) 0

end AddressRange

open AddressRange in
/-- The ranges that the built-in texts spell, in their order. -/
def builtinRanges : List AddressRange :=
  [⟨true, quad 0 0 0 0, 8⟩, ⟨true, quad 127 0 0 0, 8⟩, ⟨true, quad 169 254 0 0, 16⟩,
    ⟨true, quad 224 0 0 0, 4⟩, ⟨true, quad 255 255 255 255, 32⟩, ⟨true, quad 100 64 0 0, 10⟩,
    ⟨false, groups [0, 0, 0, 0, 0, 0, 0, 0], 128⟩, ⟨false, groups [0, 0, 0, 0, 0, 0, 0, 1], 128⟩,
    ⟨false, groups [0xfe80, 0, 0, 0, 0, 0, 0, 0], 10⟩,
    ⟨false, groups [0xff00, 0, 0, 0, 0, 0, 0, 0], 8⟩,
    ⟨false, groups [0, 0, 0, 0, 0, 0xffff, 0, 0], 96⟩]

theorem builtin_ranges :
    builtinGatewayDenyRanges.map (fun text => (parseGatewayCidr text).map GatewayCidr.range) =
      builtinRanges.map some := by
  decide +kernel

theorem builtinDenies_iff :
    builtinDenies address = true ↔ ∃ range ∈ builtinRanges, range.Holds address := by
  have spelled : ∀ range, range ∈ builtinRanges ↔
      ∃ text ∈ builtinGatewayDenyRanges, (parseGatewayCidr text).map GatewayCidr.range = some range := by
    intro range
    have mapped : some range ∈ builtinRanges.map some ↔ range ∈ builtinRanges := by simp
    rw [← mapped, ← builtin_ranges, mem_map]
  unfold builtinDenies
  simp only [any_eq_true, spelled]
  constructor
  · rintro ⟨text, member, holds⟩
    split at holds
    · rename_i cidr parsed
      refine ⟨cidr.range, ⟨text, member, ?_⟩, (gatewayCidrContains_iff _ _).mp holds⟩
      rw [parsed]
      rfl
    · cases holds
  · rintro ⟨range, ⟨text, member, spells⟩, holds⟩
    obtain ⟨cidr, parsed, rfl⟩ := Option.map_eq_some_iff.mp spells
    refine ⟨text, member, ?_⟩
    rw [parsed]
    exact (gatewayCidrContains_iff _ _).mpr holds

/-! ### The policy -/

namespace GatewayProfileConfig

variable (profile : GatewayProfileConfig)

/-- What a profile lets the gateway dial. -/
def Dialable (address : GatewayIp) : Prop :=
  (∃ cidr ∈ profile.allowedCidrs, cidr.range.Holds address) ∧
    (¬ ∃ range ∈ builtinRanges, range.Holds address) ∧
      ¬ ∃ cidr ∈ profile.deniedCidrs, cidr.range.Holds address

instance (profile : GatewayProfileConfig) (address : GatewayIp) :
    Decidable (profile.Dialable address) :=
  inferInstanceAs (Decidable (_ ∧ _))

def PortAllowed (port : UInt16) : Prop :=
  ∃ range ∈ profile.allowedPorts, range.low ≤ port ∧ port ≤ range.high

def HasQuota (context : GatewayAdmissionContext) : Prop :=
  context.streamsActiveSession < profile.maxConcurrentStreamsPerSession ∧
    context.streamsActiveProfile < profile.maxConcurrentStreamsPerProfile ∧
      context.profileBytesUsed < profile.maxProfileBytes

end GatewayProfileConfig

/-- The profile of a request: the only one if it names none, and the one it names. -/
def Selected (profiles : List GatewayProfileConfig) (name : List UInt8)
    (profile : GatewayProfileConfig) : Prop :=
  (name = [] ∧ profiles = [profile]) ∨ (name ≠ [] ∧ profile ∈ profiles ∧ profile.name = name)

theorem dialableAddresses_eq (profile : GatewayProfileConfig) (resolved : List GatewayIp) :
    dialableAddresses profile resolved =
      resolved.filter fun address => decide (profile.Dialable address) := by
  induction resolved with
  | nil => rfl
  | cons address rest ih =>
    rw [dialableAddresses, filter_cons, ih]
    simp only [Bool.or_eq_true, builtinDenies_iff, cidrListContains, any_eq_true,
      gatewayCidrContains_iff, decide_eq_true_eq]
    split_ifs with denied dialable allowed dialable dialable
    · exact absurd denied (not_or.mpr dialable.2)
    · rfl
    · rfl
    · exact absurd ⟨allowed, not_or.mp denied⟩ dialable
    · exact absurd dialable.1 allowed
    · rfl

/-! ### Selection -/

theorem names_distinct (validated : validateGatewayProfiles profiles = .ok ()) :
    profiles.Pairwise fun one two => one.name ≠ two.name := by
  have unique : hasDuplicateName profiles = false := by
    cases duplicate : hasDuplicateName profiles with
    | false => rfl
    | true =>
      unfold validateGatewayProfiles at validated
      rw [duplicate] at validated
      cases each : validateEachGatewayProfile profiles <;>
        (rw [each] at validated; split at validated <;> cases validated)
  clear validated
  induction profiles with
  | nil => exact .nil
  | cons profile rest ih =>
    rw [hasDuplicateName, Bool.or_eq_false_iff, any_eq_false] at unique
    refine .cons ?_ (ih unique.2)
    intro other member same
    exact unique.1 other member (beq_iff_eq.mpr same)

theorem resolveGatewayProfile_iff (validated : validateGatewayProfiles profiles = .ok ())
    (name : List UInt8) (profile : GatewayProfileConfig) :
    resolveGatewayProfile profiles name = some profile ↔ Selected profiles name profile := by
  unfold resolveGatewayProfile Selected
  by_cases unnamed : name = []
  · rw [if_pos (isEmpty_iff.mpr unnamed)]
    simp only [unnamed, true_and, ne_eq, not_true_eq_false, false_and, or_false]
    cases profiles with
    | nil => simp
    | cons first rest => cases rest <;> simp
  · rw [if_neg (fun empty => unnamed (isEmpty_iff.mp empty))]
    simp only [unnamed, false_and, false_or, ne_eq, not_false_eq_true, true_and]
    constructor
    · intro found
      have named := find?_some found
      exact ⟨mem_of_find?_eq_some found, beq_iff_eq.mp named⟩
    · rintro ⟨member, named⟩
      have distinct := names_distinct validated
      clear validated
      induction distinct with
      | nil => cases member
      | @cons first rest different _ ih =>
        rw [find?_cons]
        rcases mem_cons.mp member with rfl | later
        · rw [beq_iff_eq.mpr named]
        have other : (first.name == name) = false := by
          apply beq_eq_false_iff_ne.mpr
          rw [← named]
          exact different profile later
        rw [other]
        exact ih later

/-! ### Admission -/

section Outcome

variable (profiles connect) (resolved : List GatewayIp) (context : GatewayAdmissionContext)

inductive Outcome : GatewayAdmission → Prop where
  | allowed {profile : GatewayProfileConfig}
      (resolves : resolveGatewayProfile profiles connect.profile = some profile)
      (port : profile.PortAllowed connect.port) (quota : profile.HasQuota context)
      (dials : dialableAddresses profile resolved ≠ []) :
      Outcome { allowed := true, profile := some profile,
                dialAddresses := dialableAddresses profile resolved }
  | refused {refusal : GatewayRefusal}
      (lacks : ∀ profile, resolveGatewayProfile profiles connect.profile = some profile →
        profile.PortAllowed connect.port → profile.HasQuota context →
          dialableAddresses profile resolved = []) :
      Outcome { refusal }

theorem admitGatewayConnection_outcome : Outcome profiles connect resolved context
    (admitGatewayConnection profiles connect resolved context) := by
  unfold admitGatewayConnection
  split
  · rename_i unknown
    exact .refused fun profile resolves => nomatch unknown.symm.trans resolves
  rename_i profile resolves
  have ports : (profile.allowedPorts.any fun range =>
      decide (connect.port ≥ range.low) && decide (connect.port ≤ range.high)) = true ↔
        profile.PortAllowed connect.port := by
    simp [GatewayProfileConfig.PortAllowed]
  have refused {refusal : GatewayRefusal} (lacks : profile.PortAllowed connect.port →
      profile.HasQuota context → dialableAddresses profile resolved = []) :
      Outcome profiles connect resolved context { refusal } := by
    refine .refused fun other same => ?_
    cases resolves.symm.trans same
    exact lacks
  dsimp only
  split_ifs with port empty streams bytes
  · rw [Bool.not_eq_true', ← Bool.not_eq_true, ports] at port
    exact refused fun allows => absurd allows port
  · rw [List.isEmpty_iff] at empty
    exact refused fun _ _ => empty
  · refine refused fun _ ⟨sessions, others, _⟩ => ?_
    omega
  · exact refused fun _ quota => absurd bytes (UInt64.not_le.mpr quota.2.2)
  · rw [Bool.not_eq_true', Bool.not_eq_false, ports] at port
    rw [List.isEmpty_iff] at empty
    obtain ⟨sessions, others⟩ := not_or.mp streams
    exact .allowed resolves port ⟨Nat.not_le.mp sessions, Nat.not_le.mp others,
      UInt64.not_le.mp bytes⟩ empty

end Outcome

/-- For every validated set of profiles, a request is allowed with a list of
addresses exactly if its profile allows the port, has quota left, and the list,
which is not empty, is what is left of the resolved addresses when only those in an
allowed range and in no denied one are kept; a refused request has no addresses.
The built-in texts denote the ranges they spell. -/
theorem gateway_admission_exact {profiles : List GatewayProfileConfig}
    (validated : validateGatewayProfiles profiles = .ok ()) (connect : GatewayConnect)
    (resolved : List GatewayIp) (context : GatewayAdmissionContext) :
    (∀ profile dial,
      ((admitGatewayConnection profiles connect resolved context).allowed = true ∧
        (admitGatewayConnection profiles connect resolved context).profile = some profile ∧
        (admitGatewayConnection profiles connect resolved context).dialAddresses = dial) ↔
      (Selected profiles connect.profile profile ∧ profile.PortAllowed connect.port ∧
        profile.HasQuota context ∧ dial ≠ [] ∧
        dial = resolved.filter fun address => decide (profile.Dialable address))) ∧
    ((admitGatewayConnection profiles connect resolved context).allowed = false →
      (admitGatewayConnection profiles connect resolved context).dialAddresses = []) ∧
    builtinGatewayDenyRanges.map (fun text => (parseGatewayCidr text).map GatewayCidr.range) =
      builtinRanges.map some := by
  have outcome := admitGatewayConnection_outcome profiles connect resolved context
  generalize admitGatewayConnection profiles connect resolved context = admission at outcome ⊢
  simp only [← resolveGatewayProfile_iff validated, ← dialableAddresses_eq]
  cases outcome with
  | allowed resolves port quota dials =>
    refine ⟨fun profile dial => ⟨?_, ?_⟩, nofun, builtin_ranges⟩
    · rintro ⟨-, same, rfl⟩
      cases same
      exact ⟨resolves, port, quota, dials, rfl⟩
    · rintro ⟨same, -, -, -, rfl⟩
      cases resolves.symm.trans same
      exact ⟨rfl, rfl, rfl⟩
  | refused lacks =>
    refine ⟨fun profile dial => ⟨nofun, ?_⟩, fun _ => rfl, builtin_ranges⟩
    rintro ⟨resolves, port, quota, dials, rfl⟩
    exact absurd (lacks profile resolves port quota) dials

namespace GatewaySample

def ip (one two three four : UInt8) : GatewayIp :=
  { bytes := .ofFn fun index => [one, two, three, four].getD index.val 0 }

/-- A profile for a network without one of its segments. -/
def profile : GatewayProfileConfig where
  name := asciiBytes "lan"
  allowedCidrs := [⟨ip 192 168 0 0, 16⟩, ⟨ip 127 0 0 0, 8⟩]
  deniedCidrs := [⟨ip 192 168 9 0, 24⟩]
  allowedPorts := [⟨80, 80⟩, ⟨8000, 8999⟩]

def resolved : List GatewayIp :=
  [ip 192 168 1 2, ip 127 0 0 1, ip 192 168 9 1, ip 10 0 0 1, ip 192 168 3 4]

def admission : GatewayAdmission :=
  admitGatewayConnection [profile] { host := asciiBytes "printer", port := 8080 } resolved {}

end GatewaySample

open GatewaySample in
/-- Loopback stays denied although the profile allows it. -/
theorem gateway_admission_exact_sample :
    admission.dialAddresses = [ip 192 168 1 2, ip 192 168 3 4] ∧
      admission.dialAddresses = resolved.filter fun address => decide (profile.Dialable address) :=
  ⟨by decide +kernel,
    (((gateway_admission_exact (rfl : validateGatewayProfiles [profile] = .ok ())
      { host := asciiBytes "printer", port := 8080 } resolved {}).1 profile _).mp
        ⟨by decide +kernel, by decide +kernel, rfl⟩).2.2.2.2⟩

/-! ### Timers -/

section Timers

variable {current recorded : UInt64} {limit : Int} {tunnel : GatewayTunnel} {reason : TunnelEnd}

/-- The reading a timer counts from, and its limit. -/
def GatewayTunnel.timer? (tunnel : GatewayTunnel) : TunnelEnd → Option (UInt64 × Int)
  | .confirmDeadline => some (tunnel.openedUnixMs, gatewayConfirmDeadline)
  | .duration => some (tunnel.openedUnixMs, tunnel.profile.streamMaxDuration)
  | .idle => some (tunnel.lastActivityUnixMs, tunnel.profile.streamIdleTimeout)
  | .byteQuota | .closed _ => none

theorem timerFires_exact (positive : 0 ≤ limit) (small : limit < 2 ^ 64)
    (fires : timerFires current recorded limit) :
    limit < (current.toNat : Int) - recorded.toNat ↔ recorded ≤ current := by
  have above : (UInt64.ofInt limit).toNat < (current - recorded).toNat := by
    simpa [timerFires, UInt64.lt_iff_toNat_lt] using fires
  have same : ((UInt64.ofInt limit).toNat : Int) = limit := by
    simp [UInt64.ofInt]; omega
  rw [UInt64.le_iff_toNat_le]
  constructor
  · intro exceeds
    omega
  · intro later
    rw [UInt64.toNat_sub_of_le _ _ (UInt64.le_iff_toNat_le.mpr later)] at above
    omega

theorem GatewayTunnel.timer_fired {used : UInt64} (due : tunnel.due? used current = some reason)
    (timed : tunnel.timer? reason = some (recorded, limit)) :
    timerFires current recorded limit ∧ 0 ≤ limit ∧ limit < 2 ^ 64 := by
  have bounds := tunnel.profile.inBounds
  simp [GatewayProfileConfig.timeoutInvalid, maxGatewayStreamIdleTimeout,
    maxGatewayStreamDuration] at bounds
  unfold GatewayTunnel.due? at due
  split_ifs at due with confirm duration idle quota <;> cases due <;> cases timed
  · exact ⟨confirm.2, by decide, by decide⟩
  · exact ⟨duration.2, by omega, by omega⟩
  · exact ⟨idle.2, by omega, by omega⟩

/-- Closing a tunnel leaves the bytes of the profiles alone, so that the rounds of a sweep do not
depend on each other. -/
theorem GatewayService.foldl_pruneOne {Id : Type} [LinearOrder Id] (current : UInt64)
    (entries : List (Id × GatewayTunnel)) (service : GatewayService Id) :
    (entries.foldl (·.pruneOne current ·) service).ended =
      service.ended ++ entries.filterMap fun entry =>
        (entry.2.due? (service.usage entry.2.profile.name) current).map (entry.1, entry.2, ·) := by
  induction entries generalizing service with
  | nil => simp
  | cons entry rest ih =>
    rw [foldl_cons, ih]
    cases due : entry.2.due? (service.usage entry.2.profile.name) current <;>
      simp [GatewayService.pruneOne, GatewayService.closeTunnel, due]

/-- A timer that ends a tunnel has run out exactly if the clock does not stand before the reading
the timer counts from. -/
theorem gateway_timer_run_out_iff {Id : Type} [LinearOrder Id] (service : GatewayService Id)
    (current : UInt64) :
    ∃ ended, (service.prune current).ended = service.ended ++ ended ∧
      ∀ id tunnel reason recorded limit, (id, tunnel, reason) ∈ ended →
        tunnel.timer? reason = some (recorded, limit) →
          service.tunnels.find? id = some tunnel ∧
            (limit < (current.toNat : Int) - recorded.toNat ↔ recorded ≤ current) := by
  refine ⟨_, GatewayService.foldl_pruneOne current service.tunnels.entries service, ?_⟩
  intro id tunnel reason recorded limit ends timed
  obtain ⟨⟨_, _⟩, member, ends⟩ := mem_filterMap.mp ends
  obtain ⟨_, due, same⟩ := Option.map_eq_some_iff.mp ends
  cases same
  obtain ⟨fires, positive, small⟩ := GatewayTunnel.timer_fired due timed
  exact ⟨SortedMap.mem_entries_iff.mp member, timerFires_exact positive small fires⟩

/-- A tunnel is opened, and the clock is set back by a millisecond: the confirmation that was just
asked for is denied. -/
theorem gateway_confirmation_denied_early :
    let profile : GatewayProfile :=
      { GatewaySample.profile with confirm := .always, inBounds := by decide }
    let tunnel : GatewayTunnel :=
      { profile, openedUnixMs := 1000, lastActivityUnixMs := 1000, awaitingConfirm := true }
    (([.beginTunnel 0 profile true 1000, .prune 999] : List (GatewayCall Nat)).foldl
      GatewayService.step {}).ended = [(0, tunnel, .confirmDeadline)] ∧
        ¬gatewayConfirmDeadline < (999 : Int) - 1000 := by
  decide +kernel

end Timers

end Heyaki
