/-
Purpose: whom the rate check of the signaling coordinator refuses.

A peer keeps its place in the table for good, so that a full table locks out every peer
without one, however long the others have been silent.

Main exports: `SignalingRate.newcomers_admitted_iff`, `SignalingRate.silent_peers_block`
-/
import Heyaki.Client.SignalingRate
import Heyaki.Foundation.Machine

namespace Heyaki

open Foundation (SortedMap)
open Foundation.Machine (Reaches)

namespace SignalingRate

variable {Peer : Type} [LinearOrder Peer]

section Definitions

variable (rate : SignalingRate Peer)

/-- The messages of the last window. -/
def recent (now : Int) : List (Peer × Int) :=
  rate.messages.filter fun message => now - message.2 < rate.window

/-- As many other peers as the table holds sent messages within the last window. -/
def Busy (peer : Peer) (now : Int) : Prop :=
  rate.rateKeyCapacity ≤ (((rate.recent now).map Prod.fst).toFinset.erase peer).card

/-- The peer has a place in the table, or may get one. -/
def Room (peer : Peer) : Prop :=
  rate.rateEntries.find? peer ≠ none ∨ rate.rateEntries.size < rate.rateKeyCapacity

/-- The steady clock has not gone back. -/
def Steady (message : Peer × Int) : Prop := ∀ earlier ∈ rate.messages, earlier.2 ≤ message.2

def Starts : Prop := rate.rateEntries = {} ∧ rate.messages = []

/-- The window of an entry starts with a message of its peer, and what it counts are messages
since then. -/
def Covers (messages : List (Peer × Int)) (peer : Peer) (entry : RateEntry) : Prop :=
  (peer, entry.windowStart) ∈ messages ∧
  entry.count ≤ messages.countP fun message =>
    decide (message.1 = peer ∧ entry.windowStart ≤ message.2)

structure Counts : Prop where
  bounded : rate.rateEntries.size ≤ rate.rateKeyCapacity
  covered : ∀ peer entry, rate.rateEntries.find? peer = some entry → Covers rate.messages peer entry

end Definitions

variable {rate : SignalingRate Peer} {peer : Peer} {now : Int}

theorem Counts.insert {entry : RateEntry} (counts : rate.Counts)
    (bounded : (rate.rateEntries.insert peer entry).size ≤ rate.rateKeyCapacity)
    (covers : Covers rate.messages peer entry) :
    Counts { rate with rateEntries := rate.rateEntries.insert peer entry } := by
  refine ⟨bounded, fun other value found => ?_⟩
  rcases SortedMap.find?_of_insert found with ⟨rfl, rfl⟩ | ⟨-, old⟩
  · exact covers
  · exact counts.covered other value old

theorem Counts.step (counts : rate.Counts) (steady : rate.Steady (peer, now)) :
    (rate.step (peer, now)).Counts := by
  have heard : Counts { rate with messages := (peer, now) :: rate.messages } := by
    refine ⟨counts.bounded, fun other entry found => ?_⟩
    obtain ⟨started, counted⟩ := counts.covered other entry found
    exact ⟨.tail _ started, counted.trans (List.sublist_cons_self ..).countP_le⟩
  have opens : Covers ((peer, now) :: rate.messages) peer ⟨now, 1⟩ := ⟨.head _, by simp⟩
  unfold SignalingRate.step admitRate charge
  dsimp only
  cases found : rate.rateEntries.find? peer with
  | some entry =>
    have bounded : ∀ entry, (rate.rateEntries.insert peer entry).size ≤ rate.rateKeyCapacity :=
      fun _ => (SortedMap.size_insert_le found).trans counts.bounded
    obtain ⟨started, counted⟩ := counts.covered peer entry found
    dsimp only
    split
    · exact heard.insert (bounded _) opens
    · refine heard.insert (bounded _) ⟨.tail _ started, ?_⟩
      rw [List.countP_cons_of_pos (by simpa using steady _ started)]
      exact Nat.succ_le_succ counted
  | none =>
    dsimp only
    split
    · exact heard
    · rename_i room
      rw [ite_self]
      refine heard.insert ?_ opens
      rw [SortedMap.size_insert_of_absent found]
      exact Nat.lt_of_not_le room

/-- Below its limit a peer is admitted wherever it has room. -/
theorem Counts.admits_iff (counts : rate.Counts)
    (slow : (rate.recent now).countP (fun message => message.1 = peer) < rate.inboundRateLimit) :
    (rate.admitRate peer now).1 = true ↔ rate.Room peer := by
  unfold admitRate charge Room
  dsimp only
  cases found : rate.rateEntries.find? peer with
  | some entry =>
    simp only [decide_eq_true_eq, ne_eq, reduceCtorEq, not_false_eq_true, true_or, iff_true]
    split
    · exact Nat.zero_lt_of_lt slow
    · -- what an open window has counted came within the last window
      rename_i isOpen
      change ¬ now - entry.windowStart ≥ rate.window at isOpen
      refine Nat.lt_of_le_of_lt ((counts.covered peer entry found).2.trans ?_) slow
      rw [recent, List.countP_filter]
      refine List.countP_mono_left fun message _ covered => ?_
      simp only [decide_eq_true_eq, Bool.and_eq_true] at covered ⊢
      exact ⟨covered.1, by omega⟩
  | none =>
    dsimp only
    split
    · rename_i full
      simp [Nat.not_lt.mpr full]
    · rename_i room
      rw [ite_self]
      exact iff_of_true (decide_eq_true (Nat.zero_lt_of_lt slow)) (.inr (Nat.lt_of_not_le room))

/-- The table stays bounded, and a message of a peer below the limit is refused only in busy
times, if and only if there is room for the peer or the times are busy. -/
theorem newcomers_admitted_iff (reached : Reaches step Starts Steady rate)
    (slow : (rate.recent now).countP (fun message => message.1 = peer) < rate.inboundRateLimit) :
    rate.rateEntries.size ≤ rate.rateKeyCapacity ∧
      (((rate.admitRate peer now).1 = false → rate.Busy peer now) ↔
        rate.Room peer ∨ rate.Busy peer now) := by
  have counts : rate.Counts := by
    apply reached.invariant
    · rintro rate ⟨entries, -⟩
      refine ⟨?_, ?_⟩ <;> rw [entries]
      · exact Nat.zero_le _
      · exact nofun
    · intro rate message counts steady
      exact counts.step steady
  have admits := counts.admits_iff slow
  refine ⟨counts.bounded, fun allowed => ?_, ?_⟩
  · by_cases room : rate.Room peer
    · exact .inl room
    · exact .inr (allowed (Bool.eq_false_iff.mpr (mt admits.mp room)))
  · rintro (room | busy) refused
    · cases (admits.mpr room).symm.trans refused
    · exact busy

/-- One peer has sent a message. -/
def heard (capacity : Nat) : SignalingRate Nat := step { rateKeyCapacity := capacity } (1, 0)

theorem heard_reached (capacity : Nat) : Reaches step Starts Steady (heard capacity) :=
  .next _ (.start ⟨rfl, rfl⟩) nofun

theorem newcomers_admitted_two : (heard 2).rateEntries.size ≤ 2 ∧
    ((((heard 2).admitRate 2 5).1 = false → (heard 2).Busy 2 5) ↔
      (heard 2).Room 2 ∨ (heard 2).Busy 2 5) :=
  newcomers_admitted_iff (heard_reached 2) (by decide)

/-- A table of one place is full for good after one message, however long ago it was. -/
theorem silent_peers_block : Reaches step Starts Steady (heard 1) ∧
    ∀ now, 1000000000 ≤ now → (heard 1).recent now = [] ∧ ((heard 1).admitRate 2 now).1 = false := by
  refine ⟨heard_reached 1, fun now later => ⟨List.filter_eq_nil_iff.mpr ?_, rfl⟩⟩
  intro message member
  cases List.mem_singleton.mp member
  show ¬ decide (now - 0 < 1000000000) = true
  simpa using later

end SignalingRate

end Heyaki
