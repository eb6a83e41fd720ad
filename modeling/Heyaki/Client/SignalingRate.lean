/-
Purpose: the rate check of the signaling coordinator (`admit_rate` of
`signaling_coordinator.cpp`).

Times are those of the steady clock, in nanoseconds.
-/
import Heyaki.Foundation.SortedMap

namespace Heyaki

open Foundation (SortedMap)

structure RateEntry where
  windowStart : Int
  count : Nat
  deriving Repr, DecidableEq

structure SignalingRate (Peer : Type) [LinearOrder Peer] where
  inboundRateWindowMs : Nat := 1000
  inboundRateLimit : Nat := 32
  rateKeyCapacity : Nat := 256
  rateEntries : SortedMap Peer RateEntry := {}
  /-- History: every message that came to the check, the last one first. -/
  messages : List (Peer × Int) := []

namespace SignalingRate

variable {Peer : Type} [LinearOrder Peer] (rate : SignalingRate Peer)

def window : Int := rate.inboundRateWindowMs * 1000000

def charge (peer : Peer) (now : Int) (entry : RateEntry) : Bool × SignalingRate Peer :=
  let entry := if now - entry.windowStart ≥ rate.window then ⟨now, 0⟩ else entry
  let entry := { entry with count := entry.count + 1 }
  (entry.count ≤ rate.inboundRateLimit,
    { rate with rateEntries := rate.rateEntries.insert peer entry })

def admitRate (peer : Peer) (now : Int) : Bool × SignalingRate Peer :=
  let rate := { rate with messages := (peer, now) :: rate.messages }
  match rate.rateEntries.find? peer with
  | some entry => rate.charge peer now entry
  | none =>
    if rate.rateEntries.size ≥ rate.rateKeyCapacity then (false, rate)
    else rate.charge peer now ⟨now, 0⟩

def step (message : Peer × Int) : SignalingRate Peer :=
  (rate.admitRate message.1 message.2).2

end SignalingRate

end Heyaki
