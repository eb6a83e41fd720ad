/-
Purpose: what a key has after it was left alone for a whole window.

The refill per millisecond is a quotient, rounded down.  A whole window gives back a full
bucket but for the remainder, so an exhausted key gets back all of its checks only if the
window divides the tokens of a full bucket.

Main exports: `RelayRateLimiter.admitsAll`, `RateRun.idle_key_recovers_iff`,
`RateRun.exhausted_key_not_refilled`
-/
import Heyaki.Proofs.RateLimiter

namespace Heyaki

open Foundation
open Foundation.Machine (Reaches)

namespace RelayRateLimitRule

variable {rule : RelayRateLimitRule} {bucket : Bucket} {now : Int}

/-- A second refill at the same moment credits nothing, also after a draw. -/
theorem refill_drawn (bucket : Bucket) (now : Int) :
    rule.refill (rule.refill bucket now).drawn now = (rule.refill bucket now).drawn := by
  refine if_pos ?_
  by_cases none : min (elapsedMilliseconds bucket.lastRefill now) rule.window ≤ 0
  · rw [show rule.refill bucket now = bucket from if_pos none]
    exact none
  · have last : (rule.refill bucket now).drawn.lastRefill = now :=
      congrArg Bucket.lastRefill (if_neg none)
    rw [last, elapsedMilliseconds_of_le (Int.le_refl now), Int.sub_self]
    exact Int.min_le_left 0 _

end RelayRateLimitRule

open RelayRateLimitRule

namespace RelayRateLimiter

/-- Some checks of one key at one moment, up to the first that is refused. -/
def admitsAll (scope : RelayRateLimitScope) (key : Text) (now : Int) :
    Nat → RelayRateLimiter → Bool
  | 0, _ => true
  | count + 1, limiter =>
    match limiter.admitCheck scope key now with
    | (.ok (), limiter) => admitsAll scope key now count limiter
    | (.error _, _) => false

variable {limiter : RelayRateLimiter} {scope : RelayRateLimitScope} {key : Text} {now : Int}
  {count : Nat}

/-- A check that reaches a bucket with a token takes it, and the others go on from there. -/
theorem admitsAll_succ (limiter : RelayRateLimiter) (scope : RelayRateLimitScope) (key : Text)
    (now : Int) (count : Nat) :
    ∃ after : RelayRateLimiter, after.policy = limiter.policy ∧
      (after.buckets scope).find? (lookupKey scope key) = some ((limiter.policy.rule scope).opened
        ((limiter.buckets scope).find? (lookupKey scope key)) now).drawn ∧
      (limiter.admitsAll scope key now (count + 1) = true ↔
        limiter.Pays scope key now ∧ after.admitsAll scope key now count = true) := by
  obtain ⟨answer, kept, after, result, -, outcome⟩ := limiter.admitCheck_cases scope key now
  extract_lets bucket at outcome
  refine ⟨limiter.keep scope (kept.insert (lookupKey scope key) bucket.drawn), rfl, ?_, ?_⟩
  · unfold keep
    dsimp only
    rw [Function.update_self, SortedMap.find?_insert_self]
  rw [admitsAll, result]
  rcases outcome with ⟨⟨error, rfl⟩, -, refused⟩ | ⟨rfl, rfl, pays⟩
  · exact iff_of_false Bool.false_ne_true fun both => refused both.1
  · exact (and_iff_right pays).symm

theorem admitsAll_iff (named : ¬ (scope ≠ .request ∧ !validKey key 128)) {bucket : Bucket}
    (found : (limiter.buckets scope).find? (lookupKey scope key) = some bucket) :
    limiter.admitsAll scope key now count = true ↔ count * microUnitsPerToken ≤
      ((limiter.policy.rule scope).refill bucket now).availableMicroTokens.toNat := by
  induction count generalizing limiter bucket with
  | zero => simp [admitsAll]
  | succ count ih =>
    obtain ⟨after, same, slot, step⟩ := limiter.admitsAll_succ scope key now count
    rw [step, ih slot, same]
    unfold Pays opened
    rw [found, Option.getD_some, refill_drawn, Nat.add_one_mul]
    by_cases covers : UInt64.ofNat microUnitsPerToken ≤
        ((limiter.policy.rule scope).refill bucket now).availableMicroTokens
    · have left := toNat_drawn covers
      have enough : microUnitsPerToken ≤ _ := UInt64.le_iff_toNat_le.mp covers
      rw [left, and_iff_right ⟨named, nofun, covers⟩]
      omega
    · have short : _ < microUnitsPerToken := UInt64.lt_iff_toNat_lt.mp (UInt64.not_le.mp covers)
      exact iff_of_false (fun both => covers both.1.2.2) (by omega)

/-- A key without a bucket has all of its checks if there is room for a bucket. -/
theorem admitsAll_iff_of_none (named : ¬ (scope ≠ .request ∧ !validKey key 128))
    (none : (limiter.buckets scope).find? (lookupKey scope key) = none)
    (valid : (limiter.policy.rule scope).Valid) (now : Int) :
    limiter.admitsAll scope key now (limiter.policy.rule scope).capacity = true ↔
      (limiter.makeRoom scope now).size < (limiter.policy.rule scope).maxKeys := by
  have sound : (limiter.policy.rule scope).SlotSound Option.none now :=
    ⟨Nat.le_refl _, Int.le_refl _⟩
  have full := (valid.opened_now sound rfl).1
  obtain ⟨count, capacity⟩ := Nat.exists_eq_succ_of_ne_zero valid.capacity_pos.ne'
  have level : (limiter.policy.rule scope).level Option.none =
      count * microUnitsPerToken + microUnitsPerToken := by
    rw [← Nat.succ_mul, ← capacity]
    rfl
  have covers : UInt64.ofNat microUnitsPerToken ≤
      ((limiter.policy.rule scope).opened Option.none now).availableMicroTokens := by
    apply UInt64.le_iff_toNat_le.mpr
    rw [full, level]
    exact Nat.le_add_left _ _
  obtain ⟨after, same, slot, step⟩ := limiter.admitsAll_succ scope key now count
  rw [none] at slot
  have left := toNat_drawn covers
  have rest : after.admitsAll scope key now count = true := by
    rw [admitsAll_iff named slot, same]
    unfold opened at left full ⊢
    rw [refill_drawn, left, full, level, Nat.add_sub_cancel]
  rw [capacity, step, and_iff_left rest]
  unfold Pays
  rw [and_iff_right named, none, and_iff_left covers, forall_prop_of_true rfl]

end RelayRateLimiter

open RelayRateLimiter

namespace RateRun

variable {policy : RelayRateLimitPolicy} {run : RateRun}

/-- A key that was left alone for a window gets all of its checks exactly if its bucket
still holds what the rounded refill of a window leaves out, or there is room to open one. -/
theorem idle_key_recovers_iff (valid : validatePolicy policy = .ok ())
    (reached : Reaches step (Starts policy) Forward run) (scope : RelayRateLimitScope) (key : Text)
    (named : scope = .request ∨ validKey key 128 = true) (now : Int)
    (rested : ∀ bucket, run.slot scope (lookupKey scope key) = some bucket →
      (policy.rule scope).window ≤ elapsedMilliseconds bucket.lastRefill now) :
    run.limiter.admitsAll scope key now (policy.rule scope).capacity = true ↔
      (∀ bucket, run.slot scope (lookupKey scope key) = some bucket →
        (policy.rule scope).capacity * microUnitsPerToken % (policy.rule scope).window.toNat ≤
          bucket.availableMicroTokens.toNat) ∧
      (run.slot scope (lookupKey scope key) = none →
        (run.limiter.makeRoom scope now).size < (policy.rule scope).maxKeys) := by
  have sound := sound_of_run valid reached
  have rule := validatePolicy_rule valid scope
  have takes : ¬ (scope ≠ .request ∧ !validKey key 128) := by
    rintro ⟨other, refused⟩
    rw [named.resolve_left other] at refused
    cases refused
  cases slot : run.slot scope (lookupKey scope key) with
  | some bucket =>
    have fits := (sound.slots scope (lookupKey scope key)).1
    rw [slot] at fits
    have credited : (policy.rule scope).units bucket now = (policy.rule scope).windowMs :=
      congrArg Int.toNat (Int.min_eq_right (rested bucket slot))
    have refilled := rule.toNat_refill fits now
    have whole : (policy.rule scope).full / (policy.rule scope).windowMs *
        (policy.rule scope).windowMs + (policy.rule scope).full % (policy.rule scope).windowMs =
        (policy.rule scope).full := Nat.div_add_mod' _ _
    rw [credited] at refilled
    rw [admitsAll_iff takes slot, sound.policy_eq, refilled]
    simp only [Option.some.injEq, forall_eq', reduceCtorEq, false_implies, and_true]
    change (policy.rule scope).full ≤ _ ↔
      (policy.rule scope).full % (policy.rule scope).windowMs ≤ _
    rw [Nat.le_min]
    omega
  | none =>
    have opened := admitsAll_iff_of_none takes slot (sound.policy_eq ▸ rule) now
    rw [sound.policy_eq] at opened
    rw [opened]
    simp only [reduceCtorEq, false_implies, implies_true, true_and, forall_const]

/-- One check in half an hour: the refill per millisecond is rounded down to nothing. -/
def halfHour : RelayRateLimitPolicy :=
  { connection := { capacity := 1, window := 1800000, maxKeys := 16 }, entryTtl := 3600000 }

/-- All the checks of a key at one moment, from the start. -/
theorem used_up_reached {policy : RelayRateLimitPolicy} (valid : validatePolicy policy = .ok ()) :
    Reaches step (Starts policy) Forward ((List.replicate (policy.rule .connection).capacity
      (.check .connection ⟨[97]⟩ 0)).foldl step (fresh policy)) :=
  (Reaches.start (starts_created valid)).foldl (eachAllowed_replicate _ (Int.le_refl 0))

theorem idle_key_recovers_iff_default :
    ∃ run, Reaches step (Starts {}) Forward run ∧
      run.slot .connection ⟨[97]⟩ = some { availableMicroTokens := 0, lastRefill := 0 } ∧
      run.limiter.admitsAll .connection ⟨[97]⟩ 1000000000 16 = true := by
  have reached := @used_up_reached {} rfl
  have slot : ((List.replicate 16 (.check .connection ⟨[97]⟩ 0)).foldl step
      (fresh {})).slot .connection ⟨[97]⟩ =
      some { availableMicroTokens := 0, lastRefill := 0 } := by decide +kernel
  refine ⟨_, reached, slot, ?_⟩
  refine (idle_key_recovers_iff rfl reached .connection ⟨[97]⟩ (.inr rfl) 1000000000 ?_).mpr ⟨?_, ?_⟩
  · intro bucket found
    cases slot.symm.trans found
    decide
  · intro bucket found
    cases slot.symm.trans found
    decide
  · intro none
    cases slot.symm.trans none

/-- The key has been used up for half an hour, and its next check is refused. -/
theorem exhausted_key_not_refilled :
    validatePolicy halfHour = .ok () ∧
      ∃ run, Reaches step (Starts halfHour) Forward run ∧
        run.slot .connection ⟨[97]⟩ = some { availableMicroTokens := 0, lastRefill := 0 } ∧
        (halfHour.rule .connection).window ≤ elapsedMilliseconds 0 1800000000000 ∧
        run.limiter.admitsAll .connection ⟨[97]⟩ 1800000000000
          (halfHour.rule .connection).capacity = false :=
  ⟨rfl, _, used_up_reached rfl, by decide +kernel, by decide, by decide +kernel⟩

end RateRun

end Heyaki
