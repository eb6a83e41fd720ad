/-
Purpose: a signed object is admitted once while it is valid, and the replay cache
stays within its limits.

Sweeps and evictions only remove entries whose time is over, and an entry outlives
the object it was stored for: ten minutes against the five minutes of validity and
the half minute of skew.

Main exports: `SignalingReplayCache.Trims`, `signed_objects_admitted_once`
-/
import Heyaki.Core.ReplayCache
import Heyaki.Foundation.Machine
import Heyaki.Foundation.Transaction
import Heyaki.Proofs.TrustGrant

namespace Heyaki

open Foundation SortedMap List Transaction

namespace SignalingReplayCache

variable {now : Nat} {cache before after : SignalingReplayCache} {key : ReplayKey}

def signerEntries (cache : SignalingReplayCache) (signer : DeviceId) : Nat :=
  cache.entries.countKeys fun key => key.signer = signer

def Counted (cache : SignalingReplayCache) : Prop :=
  ∀ signer, cache.peerCount signer = cache.signerEntries signer

/-- Some entries whose time is over are gone, and nothing else has changed about
the entries. -/
structure Trims (now : Nat) (before after : SignalingReplayCache) : Prop where
  policy : after.policy = before.policy
  kept : ∀ key deadline, before.entries.find? key = some deadline → now < deadline →
    after.entries.find? key = some deadline
  old : ∀ key deadline, after.entries.find? key = some deadline →
    before.entries.find? key = some deadline
  size : after.entries.size ≤ before.entries.size
  signers : ∀ signer, after.signerEntries signer ≤ before.signerEntries signer
  counted : before.Counted → after.Counted

theorem Trims.refl (now : Nat) : Trims now cache cache :=
  ⟨rfl, fun _ _ found _ => found, fun _ _ found => found, le_refl _, fun _ => le_refl _, id⟩

theorem Trims.trans {one two three : SignalingReplayCache} (first : Trims now one two)
    (second : Trims now two three) : Trims now one three where
  policy := second.policy.trans first.policy
  kept key deadline found early := second.kept key deadline (first.kept key deadline found early) early
  old key deadline found := first.old key deadline (second.old key deadline found)
  size := le_trans second.size first.size
  signers signer := le_trans (second.signers signer) (first.signers signer)
  counted counted := second.counted (first.counted counted)

theorem Trims.of_same (policy : after.policy = before.policy)
    (entries : after.entries = before.entries)
    (counts : ∀ signer, after.peerCount signer = before.peerCount signer) :
    Trims now before after where
  policy := policy
  kept key deadline found _ := entries ▸ found
  old key deadline found := entries ▸ found
  size := by rw [entries]
  signers signer := by rw [signerEntries, signerEntries, entries]
  counted counted signer := by rw [counts, counted, signerEntries, signerEntries, entries]

theorem peerCount_lowerCount (cache : SignalingReplayCache) (signer other : DeviceId) :
    ((lowerCount cache.perPeer signer).find? other).getD 0 =
      cache.peerCount other - if other = signer then 1 else 0 := by
  unfold lowerCount peerCount
  cases found : cache.perPeer.find? signer with
  | none =>
    by_cases same : other = signer
    · simp [same, found]
    · simp [same]
  | some count =>
    dsimp only
    split_ifs with positive last same same same
    · simp only [find?_erase, same, if_true, found, Option.getD_none, Option.getD_some]
      omega
    · simp [find?_erase, same]
    · simp [same, found]
    · simp [find?_insert, same]
    · simp only [same, found, Option.getD_some]
      omega
    · rfl

theorem trims_evictEntry {deadline : Nat} (found : cache.entries.find? key = some deadline)
    (ended : deadline ≤ now) :
    Trims now cache (cache.evictEntry key) where
  policy := rfl
  kept other time present early := by
    show (cache.entries.erase key).find? other = some time
    rw [find?_erase, if_neg]
    · exact present
    · intro same
      rw [same, found] at present
      cases present
      omega
  old other time present := (find?_of_erase present).2
  size := by
    have sizes := size_erase_of_found found
    show (cache.entries.erase key).size ≤ cache.entries.size
    omega
  signers signer := by
    have counts := countKeys_erase (fun key => decide (key.signer = signer)) found
    show (cache.entries.erase key).countKeys _ ≤ cache.entries.countKeys _
    omega
  counted counted signer := by
    have counts := countKeys_erase (fun key => decide (key.signer = signer)) found
    have lowered := peerCount_lowerCount cache key.signer signer
    have before := counted signer
    show ((lowerCount cache.perPeer key.signer).find? signer).getD 0 =
      (cache.entries.erase key).countKeys fun key => decide (key.signer = signer)
    rw [lowered]
    unfold signerEntries at before
    by_cases same : signer = key.signer
    · simp only [same, decide_true, if_true] at counts before ⊢
      omega
    · simp only [same, Ne.symm same, decide_false, Bool.false_eq_true, if_false] at counts before ⊢
      omega

/-- The loop of `expire` over entries that the cache still holds. -/
theorem trims_expireEntries {rest : List (ReplayKey × Nat)} (distinct : (rest.map Prod.fst).Nodup)
    (present : ∀ entry ∈ rest, cache.entries.find? entry.1 = some entry.2) :
    Trims now cache (expireEntries now rest cache) := by
  induction rest generalizing cache with
  | nil => exact .refl now
  | cons entry rest ih =>
    obtain ⟨key, deadline⟩ := entry
    rw [map_cons, nodup_cons] at distinct
    have later := fun entry member => present entry (mem_cons_of_mem _ member)
    unfold expireEntries
    split_ifs with ended
    · apply Trims.trans (trims_evictEntry (present _ (mem_cons_self ..)) ended)
      apply ih distinct.2
      intro entry member
      show (cache.entries.erase key).find? entry.1 = some entry.2
      rw [find?_erase, if_neg]
      · exact later entry member
      · intro same
        exact distinct.1 (mem_map.mpr ⟨entry, member, same⟩)
    · exact ih distinct.2 later

theorem trims_expire : Trims now cache (cache.expire now) := by
  have swept : Trims now cache (expireEntries now cache.entries.entries cache) :=
    trims_expireEntries cache.entries.keys_nodup fun entry member =>
      mem_entries_iff.mp member
  exact swept.trans (.of_same rfl rfl fun _ => rfl)

theorem trims_sweep (cache : SignalingReplayCache) (now : Nat) :
    Trims now cache (cache.sweep now) := by
  unfold sweep
  split_ifs
  · exact (trims_expire).trans (.of_same rfl rfl fun _ => rfl)
  · exact .refl now

theorem trims_touchCount (signer : DeviceId) : Trims now cache (cache.touchCount signer) := by
  unfold touchCount
  split_ifs with known
  · exact .refl now
  refine .of_same rfl rfl fun other => ?_
  show ((cache.perPeer.insert signer 0).find? other).getD 0 = (cache.perPeer.find? other).getD 0
  rw [find?_insert]
  split_ifs with same
  · rw [same, Option.not_isSome_iff_eq_none.mp known]
    rfl
  · rfl

/-- The cache stays within its limits and counts its entries. -/
structure Bounded (cache : SignalingReplayCache) : Prop where
  counted : cache.Counted
  size : cache.entries.size ≤ cache.policy.capacity
  signers : ∀ signer, cache.signerEntries signer ≤ cache.policy.perPeerCapacity

theorem Bounded.trims (bounded : before.Bounded)
    (trims : Trims now before after) : after.Bounded where
  counted := trims.counted bounded.counted
  size := by
    rw [trims.policy]
    exact le_trans trims.size bounded.size
  signers signer := by
    rw [trims.policy]
    exact le_trans (trims.signers signer) (bounded.signers signer)

/-- What an admission does: entries whose time is over may go; a key that is still
there is a duplicate, and one that is admitted was not there and gets an entry. -/
inductive Admits (cache : SignalingReplayCache) (key : ReplayKey) (now : Nat) :
    SignalingReplayDecision × SignalingReplayCache → Prop
  | refused {decision : SignalingReplayDecision} {after : SignalingReplayCache}
      (trims : Trims now cache after) (refused : decision ≠ .admitted) :
      Admits cache key now (decision, after)
  | admitted {trimmed : SignalingReplayCache} (trims : Trims now cache trimmed)
      (absent : trimmed.entries.find? key = none)
      (room : trimmed.entries.size < trimmed.policy.capacity)
      (peerRoom : trimmed.peerCount key.signer < trimmed.policy.perPeerCapacity) :
      Admits cache key now (.admitted, trimmed.store key now)

theorem admitFresh_spec {trimmed : SignalingReplayCache} (trims : Trims now cache trimmed)
    (absent : trimmed.entries.find? key = none) :
    Admits cache key now (trimmed.admitFresh key now) := by
  have touched := trims.trans (trims_touchCount key.signer)
  have sameEntries : (trimmed.touchCount key.signer).entries = trimmed.entries := by
    unfold touchCount
    split_ifs <;> rfl
  unfold admitFresh
  dsimp only
  split_ifs with peerFull full
  · exact .refused (touched.trans (.of_same rfl rfl fun _ => rfl)) nofun
  · exact .refused (touched.trans (.of_same rfl rfl fun _ => rfl)) nofun
  · exact .admitted touched (sameEntries ▸ absent) (Nat.not_le.mp full) (Nat.not_le.mp peerFull)

theorem admitKey_spec (cache : SignalingReplayCache) (key : ReplayKey) :
    Admits cache key now (cache.admitKey key now) := by
  have swept := trims_sweep cache now
  unfold admitKey
  dsimp only
  cases found : (cache.sweep now).entries.find? key with
  | none => exact admitFresh_spec swept found
  | some deadline =>
    dsimp only
    split_ifs with live
    · exact .refused (swept.trans (.of_same rfl rfl fun _ => rfl)) nofun
    · apply admitFresh_spec (swept.trans (trims_evictEntry found (Nat.not_lt.mp live)))
      exact find?_erase_self

theorem Bounded.store (bounded : cache.Bounded) (absent : cache.entries.find? key = none)
    (room : cache.entries.size < cache.policy.capacity)
    (peerRoom : cache.peerCount key.signer < cache.policy.perPeerCapacity) :
    (cache.store key now).Bounded := by
  have entries : ∀ signer, (cache.store key now).signerEntries signer =
      cache.signerEntries signer + if decide (key.signer = signer) then 1 else 0 := fun signer =>
    countKeys_insert (fun key : ReplayKey => decide (key.signer = signer)) absent
  have counts : ∀ signer, (cache.store key now).peerCount signer =
      if signer = key.signer then cache.peerCount key.signer + 1 else cache.peerCount signer := by
    intro signer
    show ((cache.perPeer.insert key.signer _).find? signer).getD 0 = _
    rw [find?_insert]
    split_ifs <;> rfl
  refine ⟨?_, ?_, ?_⟩
  · intro signer
    rw [entries, counts]
    by_cases same : signer = key.signer
    · simp [same, bounded.counted key.signer]
    · simp [same, Ne.symm same, bounded.counted signer]
  · show (cache.entries.insert key _).size ≤ cache.policy.capacity
    rw [size_insert_of_absent absent]
    exact room
  · intro signer
    show _ ≤ cache.policy.perPeerCapacity
    rw [entries]
    by_cases same : key.signer = signer
    · subst same
      rw [bounded.counted] at peerRoom
      simpa [Nat.succ_le_iff] using peerRoom
    · simpa [same] using bounded.signers signer

end SignalingReplayCache

open SignalingReplayCache

/-! ### Histories -/

/-- Both clocks at one instant: nanoseconds, and milliseconds since the epoch. -/
structure Clocks where
  steady : Nat
  wall : UInt64
  deriving DecidableEq

/-- The wall clock is the steady one, shifted and in milliseconds. -/
def Clocks.InStep (offset : Int) (clocks : Clocks) : Prop :=
  (clocks.wall.toNat : Int) = (offset + clocks.steady) / 1000000

instance (offset : Int) (clocks : Clocks) : Decidable (clocks.InStep offset) :=
  inferInstanceAs (Decidable (_ = _))

/-- A request to the cache.  The expiry of an object that has one is checked first. -/
inductive ReplayEvent where
  | signed (domain : SigningDomain) (signer : DeviceId) (requestId : RequestId)
      (sessionId : SessionId) (initiatorNonce : SignalingNonce)
      (responderNonce : Option SignalingNonce) (sequence : Option UInt32)
      (expires : Option UInt64)
  | connectRequest (sender : DeviceId) (requestId : RequestId)
  | expire

/-- A key that was admitted, with the expiry its object had, and when. -/
structure ReplayAdmission where
  key : ReplayKey
  expires : Option UInt64
  clocks : Clocks

structure ReplayHistory where
  cache : SignalingReplayCache
  /-- The latest instant. -/
  steady : Nat := 0
  admissions : List ReplayAdmission := []

namespace ReplayHistory

variable {offset : Int} {history : ReplayHistory} {admission : ReplayAdmission} {clocks : Clocks}

def checkExpiry (expires : Option UInt64) (clocks : Clocks) : Except Error Unit :=
  match expires with
  | some expires => validateSignedExpiry expires clocks.wall
  | none => .ok ()

/-- The cache after a request for a key, which is recorded if it was admitted. -/
def settle (history : ReplayHistory) (key : ReplayKey) (expires : Option UInt64) (clocks : Clocks)
    (result : Except Error SignalingReplayDecision × SignalingReplayCache) : ReplayHistory where
  cache := result.2
  steady := clocks.steady
  admissions :=
    match result.1 with
    | .ok .admitted => history.admissions ++ [⟨key, expires, clocks⟩]
    | _ => history.admissions

def step (history : ReplayHistory) (event : ReplayEvent × Clocks) : ReplayHistory :=
  let clocks := event.2
  match event.1 with
  | .signed domain signer requestId sessionId initiatorNonce responderNonce sequence expires =>
    match checkExpiry expires clocks with
    | .error _ => { history with steady := clocks.steady }
    | .ok () =>
      history.settle
        { domain := domain.code, signer := signer, requestId := requestId
          sessionId := sessionId, initiatorNonce := initiatorNonce
          responderNonce := responderNonce, sequence := sequence }
        expires clocks
        (history.cache.admitObject domain signer requestId sessionId initiatorNonce responderNonce
          sequence clocks.steady)
  | .connectRequest sender requestId =>
    history.settle (connectRequestKey sender requestId) none clocks
      (history.cache.admitConnectRequest sender requestId clocks.steady)
  | .expire => { history with cache := history.cache.expire clocks.steady, steady := clocks.steady }

def Starts (history : ReplayHistory) : Prop :=
  ∃ policy, create policy = .ok history.cache ∧ history.steady = 0 ∧ history.admissions = []

/-- The steady clock does not go back, and both clocks advance in step. -/
def Ticks (offset : Int) (history : ReplayHistory) (event : ReplayEvent × Clocks) : Prop :=
  history.steady ≤ event.2.steady ∧ event.2.InStep offset

/-- The entry of an admitted key is there until its ten minutes are over. -/
structure Guards (offset : Int) (history : ReplayHistory) (admission : ReplayAdmission) : Prop where
  past : admission.clocks.steady ≤ history.steady
  inStep : admission.clocks.InStep offset
  valid : ∀ expires ∈ admission.expires, validateSignedExpiry expires admission.clocks.wall = .ok ()
  entry : history.steady < admission.clocks.steady + 600000 * nanoseconds →
    ∃ deadline, history.cache.entries.find? admission.key = some deadline ∧
      admission.clocks.steady + 600000 * nanoseconds ≤ deadline

/-- No key is admitted while an object with an earlier admission of it is valid. -/
def Once (earlier later : ReplayAdmission) : Prop :=
  earlier.key = later.key →
    ∀ expires ∈ earlier.expires, validateSignedExpiry expires later.clocks.wall ≠ .ok ()

structure Sound (offset : Int) (history : ReplayHistory) : Prop where
  ttl : history.cache.policy.ttlMilliseconds = 600000
  bounded : history.cache.Bounded
  guards : ∀ admission ∈ history.admissions, Guards offset history admission
  once : history.admissions.Pairwise Once

/-- Ten minutes after an admission its object is no longer valid. -/
theorem Guards.ended (guards : Guards offset history admission) (inStep : clocks.InStep offset)
    (late : admission.clocks.steady + 600000 * nanoseconds ≤ clocks.steady) :
    ∀ expires ∈ admission.expires, validateSignedExpiry expires clocks.wall ≠ .ok () := by
  intro expires member again
  have first := (validateSignedExpiry_ok_iff _ _).mp (guards.valid expires member)
  have second := (validateSignedExpiry_ok_iff _ _).mp again
  have atFirst := guards.inStep
  unfold Clocks.InStep at atFirst inStep
  unfold nanoseconds at late
  omega

theorem Guards.trims {after : ReplayHistory}
    (guards : Guards offset history admission) (later : history.steady ≤ after.steady)
    (trims : SignalingReplayCache.Trims after.steady history.cache after.cache) :
    Guards offset after admission where
  past := le_trans guards.past later
  inStep := guards.inStep
  valid := guards.valid
  entry early := by
    obtain ⟨deadline, found, above⟩ := guards.entry (lt_of_le_of_lt later early)
    exact ⟨deadline, trims.kept _ _ found (lt_of_lt_of_le early above), above⟩

section

variable (sound : Sound offset history)

include sound

theorem Sound.trims {after : ReplayHistory}
    (later : history.steady ≤ after.steady) (admissions : after.admissions = history.admissions)
    (trims : SignalingReplayCache.Trims after.steady history.cache after.cache) :
    Sound offset after where
  ttl := by rw [trims.policy, sound.ttl]
  bounded := sound.bounded.trims trims
  guards admission member := (sound.guards admission (admissions ▸ member)).trims later trims
  once := admissions ▸ sound.once

/-- A request for a key: the admission that may come of it is the first while the
objects admitted before under that key are valid. -/
theorem Sound.settle {key : ReplayKey} {expires : Option UInt64}
    (later : history.steady ≤ clocks.steady) (inStep : clocks.InStep offset)
    (valid : ∀ time ∈ expires, validateSignedExpiry time clocks.wall = .ok ())
    {result : SignalingReplayDecision × SignalingReplayCache}
    (admits : SignalingReplayCache.Admits history.cache key clocks.steady result) :
    Sound offset (history.settle key expires clocks (.ok result.1, result.2)) := by
  cases admits with
  | @refused decision after trims refused =>
    apply sound.trims later _ trims
    cases decision with
    | admitted => exact absurd rfl refused
    | duplicate => rfl
    | capacityRejected => rfl
  | @admitted trimmed trims absent room peerRoom =>
    have kept : Sound offset { history with cache := trimmed, steady := clocks.steady } :=
      sound.trims later rfl trims
    -- an older admission of the key is ten minutes past, or its entry would still be there
    have past : ∀ admission ∈ history.admissions, admission.key = key →
        admission.clocks.steady + 600000 * nanoseconds ≤ clocks.steady := by
      intro admission member same
      by_contra early
      obtain ⟨deadline, found, -⟩ := (kept.guards admission member).entry (Nat.not_le.mp early)
      rw [same, absent] at found
      cases found
    refine ⟨kept.ttl, kept.bounded.store absent room peerRoom, ?_, ?_⟩
    · intro admission member
      rcases mem_append.mp member with before | new
      · have guards := kept.guards admission before
        refine { guards with entry := fun early => ?_ }
        obtain ⟨deadline, found, above⟩ := guards.entry early
        refine ⟨deadline, ?_, above⟩
        show (trimmed.entries.insert key _).find? admission.key = some deadline
        rw [find?_insert, if_neg, found]
        intro same
        exact absurd early (Nat.not_lt.mpr (past admission before same))
      · cases mem_singleton.mp new
        refine ⟨le_refl _, inStep, valid, fun _ => ⟨_, find?_insert_self _ _ _, ?_⟩⟩
        rw [kept.ttl]
    · apply pairwise_append.mpr
      refine ⟨sound.once, pairwise_singleton _ _, ?_⟩
      intro earlier before later new same
      cases mem_singleton.mp new
      exact (sound.guards earlier before).ended inStep (past earlier before same)

theorem Sound.step {event : ReplayEvent × Clocks} (ticks : Ticks offset history event) :
    Sound offset (history.step event) := by
  obtain ⟨event, clocks⟩ := event
  obtain ⟨later, inStep⟩ := ticks
  cases event with
  | signed domain signer requestId sessionId initiatorNonce responderNonce sequence expires =>
    simp only [ReplayHistory.step]
    cases checked : checkExpiry expires clocks with
    | error error => exact sound.trims later rfl (.refl _)
    | ok _ =>
      unfold admitObject
      split_ifs
      · exact sound.trims later rfl (.refl _)
      apply sound.settle later inStep
      · intro time member
        cases Option.mem_def.mp member
        exact checked
      · exact admitKey_spec _ _
  | connectRequest sender requestId =>
    simp only [ReplayHistory.step]
    unfold admitConnectRequest
    split_ifs
    · exact sound.trims later rfl (.refl _)
    apply sound.settle later inStep
    · intro time member
      cases member
    · exact admitKey_spec _ _
  | expire => exact sound.trims later rfl trims_expire

end

theorem Starts.sound (starts : history.Starts) : Sound offset history := by
  obtain ⟨policy, created, steady, admissions⟩ := starts
  obtain ⟨_, validated, rest⟩ := bind_eq_ok.mp created
  obtain ⟨-, made⟩ := guard_eq_ok.mp rest
  injection made with made
  refine ⟨?_, ?_, ?_, ?_⟩
  · rw [← made]
    exact not_not.mp (guard_eq_ok.mp validated).1
  · rw [← made]
    exact ⟨fun _ => rfl, Nat.zero_le _, fun _ => Nat.zero_le _⟩
  · rw [admissions]
    exact fun _ member => absurd member not_mem_nil
  · rw [admissions]
    exact .nil

end ReplayHistory

open ReplayHistory

/-- In every history a key is admitted at most once while an object admitted under
it passes its expiry check, and the cache holds no more entries than its capacity,
in all and of one signer. -/
theorem signed_objects_admitted_once {offset : Int} {history : ReplayHistory}
    (run : Machine.Reaches ReplayHistory.step Starts (Ticks offset) history) :
    history.admissions.Pairwise Once ∧
      history.cache.entries.size ≤ history.cache.policy.capacity ∧
      ∀ signer, history.cache.signerEntries signer ≤ history.cache.policy.perPeerCapacity := by
  have sound : ReplayHistory.Sound offset history :=
    run.invariant (fun _ starts => starts.sound) fun _ _ sound ticks => sound.step ticks
  exact ⟨sound.once, sound.bounded.size, sound.bounded.signers⟩

namespace ReplaySample

/-- An offer that expires a minute after the first instant, at a given second. -/
def offerAt (second : Nat) : ReplayEvent × Clocks :=
  (.signed .offer (.filled 1) (.filled 2)
    (.filled 3) (filledBytes 32 4) none none (some 1060000),
    ⟨second * 1000000000, UInt64.ofNat (1000000 + second * 1000)⟩)

/-- The offer comes, comes again a second later, and once more after its time. -/
def events : List (ReplayEvent × Clocks) :=
  [offerAt 1, offerAt 2, (.expire, ⟨3000000000, 1003000⟩), offerAt 91]

def initial : ReplayHistory := { cache := { policy := {} } }

theorem initial_starts : initial.Starts := ⟨{}, rfl, rfl, rfl⟩

theorem events_tick :
    Machine.EachAllowed ReplayHistory.step (Ticks 1000000000000) initial events := by
  refine ⟨⟨?_, ?_⟩, ⟨?_, ?_⟩, ⟨?_, ?_⟩, ⟨?_, ?_⟩, trivial⟩ <;>
    decide +kernel

end ReplaySample

open ReplaySample

/-- Of the three copies of an offer one is admitted. -/
theorem signed_objects_admitted_once_sample :
    (events.foldl ReplayHistory.step initial).admissions.length = 1 ∧
      (events.foldl ReplayHistory.step initial).admissions.Pairwise Once :=
  ⟨by decide +kernel,
    (signed_objects_admitted_once ((Machine.Reaches.start initial_starts).foldl events_tick)).1⟩

/-- The counts per signer, which the eviction keeps up to date, are those of the entries. -/
theorem signer_counts_exact {offset : Int} {history : ReplayHistory}
    (run : Machine.Reaches ReplayHistory.step Starts (Ticks offset) history) (signer : DeviceId) :
    history.cache.peerCount signer = history.cache.signerEntries signer := by
  have sound : ReplayHistory.Sound offset history :=
    run.invariant (fun _ starts => starts.sound) fun _ _ sound ticks => sound.step ticks
  exact sound.bounded.counted signer

theorem signer_counts_exact_sample :
    (events.foldl ReplayHistory.step initial).cache.peerCount (.filled 1) =
      (events.foldl ReplayHistory.step initial).cache.signerEntries (.filled 1) :=
  signer_counts_exact ((Machine.Reaches.start initial_starts).foldl events_tick) _

end Heyaki
