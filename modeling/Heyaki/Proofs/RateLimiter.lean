/-
Purpose: how many checks of one key the rate limiter admits in an interval of time.

A bucket that was not used for the time to live is dropped and starts full again.  The
bound of a token bucket then holds exactly for policies in which the time to live is at
least the window: only then has a dropped bucket had the time to fill.

The count starts at the last refill before the first check in the interval.  Checks
within a millisecond do not move that mark, so it may lie before the interval, but by
less than a millisecond.

Main exports: `RateRun`, `RateRun.admissions_bounded_iff`, `RateRun.pruned_key_admitted_twice`
-/
import Heyaki.Foundation.Machine
import Heyaki.Foundation.TokenBucket
import Heyaki.Relay.RateLimiter

namespace Heyaki

open Foundation
open Foundation.Machine (Reaches)
open Foundation.TokenBucket (Paid)
open RelayRateLimiter (lookupKey create)
open SortedMap List

/-! ### Rules -/

namespace RelayRateLimitRule

variable {bucket : Bucket} {now : Int}

structure Valid (rule : RelayRateLimitRule) : Prop where
  capacity_pos : 0 < rule.capacity
  capacity_le : rule.capacity ≤ 1000000
  window_pos : 0 < rule.window
  window_le : rule.window ≤ 3600000
  keys_pos : 0 < rule.maxKeys

theorem valid_of_validRule {rule : RelayRateLimitRule} (valid : validRule rule = true) :
    rule.Valid := by
  obtain ⟨capacity, atMost, window, short, keys, -⟩ := of_decide_eq_true valid
  exact ⟨capacity, atMost, window, short, keys⟩

def full (rule : RelayRateLimitRule) : Nat := rule.capacity * microUnitsPerToken

def windowMs (rule : RelayRateLimitRule) : Nat := rule.window.toNat

/-- The milliseconds that a refill credits. -/
def units (rule : RelayRateLimitRule) (bucket : Bucket) (now : Int) : Nat :=
  (min (elapsedMilliseconds bucket.lastRefill now) rule.window).toNat

variable {rule : RelayRateLimitRule}

namespace Valid

section

variable (valid : rule.Valid)

include valid

theorem full_le : rule.full ≤ 1000000000000 := by
  have le := valid.capacity_le
  unfold full microUnitsPerToken
  omega

theorem windowMs_pos : 0 < rule.windowMs := by
  have pos := valid.window_pos
  unfold windowMs
  omega

theorem cast_windowMs : (rule.windowMs : Int) = rule.window :=
  Int.toNat_of_nonneg valid.window_pos.le

theorem toNat_fullMicro : rule.fullMicro.toNat = rule.full := by
  have le := valid.capacity_le
  have small : rule.capacity < UInt64.size := by
    change rule.capacity < 18446744073709551616
    omega
  have full := valid.full_le
  unfold fullMicro
  rw [UInt64.toNat_mul, UInt64.toNat_ofNat_of_lt' small,
    UInt64.toNat_ofNat_of_lt' (by decide : microUnitsPerToken < UInt64.size)]
  apply Nat.mod_eq_of_lt
  exact Nat.lt_of_le_of_lt full (by decide)

theorem sum_lt {bucket : Bucket} (fits : bucket.availableMicroTokens.toNat ≤ rule.full)
    (now : Int) :
    bucket.availableMicroTokens.toNat + rule.full / rule.windowMs * rule.units bucket now <
      2 ^ 64 := by
  have full := valid.full_le
  have units : rule.units bucket now ≤ rule.windowMs := by
    unfold units windowMs
    omega
  have credit := (Nat.mul_le_mul_left _ units).trans (Nat.div_mul_le_self rule.full _)
  omega

end

end Valid

theorem toNat_ofInt {value : Int} (nonneg : 0 ≤ value) (small : value < 2 ^ 64) :
    (UInt64.ofInt value).toNat = value.toNat := by
  unfold UInt64.ofInt
  rw [Int.emod_eq_of_lt nonneg small]
  apply UInt64.toNat_ofNat_of_lt'
  change value.toNat < 18446744073709551616
  omega

/-- No step of a refill leaves its 64 bits. -/
theorem Valid.toNat_refill (valid : rule.Valid)
    (fits : bucket.availableMicroTokens.toNat ≤ rule.full) (now : Int) :
    (rule.refill bucket now).availableMicroTokens.toNat =
      min rule.full (bucket.availableMicroTokens.toNat +
        rule.full / rule.windowMs * rule.units bucket now) := by
  have short := valid.window_le
  unfold refill
  dsimp only
  split_ifs with none
  · have zero : rule.units bucket now = 0 := Int.toNat_of_nonpos none
    rw [zero, Nat.mul_zero, Nat.add_zero, Nat.min_eq_right fits]
  have window : (UInt64.ofInt rule.window).toNat = rule.windowMs :=
    toNat_ofInt valid.window_pos.le (by omega)
  have elapsed : (UInt64.ofInt (min (elapsedMilliseconds bucket.lastRefill now)
      rule.window)).toNat = rule.units bucket now :=
    toNat_ofInt (by omega) (by omega)
  have sum := valid.sum_lt fits now
  have full := valid.full_le
  rw [UInt64.toNat_min, UInt64.toNat_add, UInt64.toNat_mul, UInt64.toNat_div,
    valid.toNat_fullMicro, window, elapsed]
  have small : rule.full / rule.windowMs * rule.units bucket now < 2 ^ 64 := by omega
  rw [Nat.mod_eq_of_lt small, Nat.mod_eq_of_lt sum]

theorem lastRefill_refill (bucket : Bucket) (now : Int) :
    (rule.refill bucket now).lastRefill =
      if rule.units bucket now = 0 then bucket.lastRefill else now := by
  unfold refill
  dsimp only
  split_ifs with none credited credited
  · rfl
  · exact absurd (Int.toNat_of_nonpos none) credited
  · exact absurd (Int.toNat_eq_zero.mp credited) none
  · rfl

theorem elapsedMilliseconds_of_le {since : Int} (later : since ≤ now) :
    elapsedMilliseconds since now = (now - since) / 1000000 := by
  unfold elapsedMilliseconds
  rw [Int.tdiv_eq_ediv_of_nonneg (by omega)]
  omega

theorem units_mul_le (later : bucket.lastRefill ≤ now) :
    (rule.units bucket now : Int) * 1000000 ≤ now - bucket.lastRefill := by
  have elapsed := elapsedMilliseconds_of_le later
  unfold units
  omega

end RelayRateLimitRule

open RelayRateLimitRule

theorem validatePolicy_rule {policy : RelayRateLimitPolicy} (valid : validatePolicy policy = .ok ())
    (scope : RelayRateLimitScope) : (policy.rule scope).Valid := by
  unfold validatePolicy at valid
  split_ifs at valid with refused
  simp only [Bool.or_eq_true, Bool.not_eq_true', decide_eq_true_eq, not_or,
    Bool.not_eq_false] at refused
  obtain ⟨⟨⟨⟨⟨connection, request⟩, tenant⟩, ip⟩, -⟩, -⟩ := refused
  cases scope with
  | connection => exact valid_of_validRule connection
  | request => exact valid_of_validRule request
  | tenant => exact valid_of_validRule tenant
  | ip => exact valid_of_validRule ip

/-! ### What a check does to a bucket -/

/-- A bucket may have been dropped after its time to live. -/
def Drops (entryTtl now : Int) (before after : Option Bucket) : Prop :=
  after = before ∨
    after = none ∧ ∃ bucket, before = some bucket ∧
      entryTtl ≤ elapsedMilliseconds bucket.lastRefill now

theorem find?_pruneBuckets (buckets : Buckets) (now entryTtl : Int) (key : Text) :
    Drops entryTtl now (buckets.find? key) ((pruneBuckets buckets now entryTtl).find? key) := by
  unfold pruneBuckets
  rw [SortedMap.find?_filter]
  cases buckets.find? key with
  | none => exact .inl rfl
  | some bucket =>
    by_cases old : elapsedMilliseconds bucket.lastRefill now ≥ entryTtl
    · right
      refine ⟨?_, bucket, rfl, old⟩
      simp [old]
    · left
      simp [old]

/-- What a check makes of the bucket that it finds, or of a full one. -/
def RelayRateLimitRule.opened (rule : RelayRateLimitRule) (bucket : Option Bucket) (now : Int) :
    Bucket :=
  rule.refill (bucket.getD { availableMicroTokens := rule.fullMicro, lastRefill := now }) now

def Bucket.drawn (bucket : Bucket) : Bucket :=
  { bucket with
    availableMicroTokens := bucket.availableMicroTokens - UInt64.ofNat microUnitsPerToken }

namespace RelayRateLimiter

variable (limiter : RelayRateLimiter) (scope : RelayRateLimitScope) (key : Text) (now : Int)

theorem find?_makeRoom (other : Text) :
    Drops limiter.policy.entryTtl now ((limiter.buckets scope).find? other)
      ((limiter.makeRoom scope now).find? other) := by
  unfold makeRoom
  split_ifs
  · exact find?_pruneBuckets _ _ _ _
  · exact .inl rfl

def keep (buckets : Buckets) : RelayRateLimiter :=
  { limiter with buckets := Function.update limiter.buckets scope buckets }

/-- The check gets to a bucket, its own or a new one, and there is a token in it. -/
def Pays : Prop :=
  ¬ (scope ≠ .request ∧ !validKey key 128) ∧
    ((limiter.buckets scope).find? (lookupKey scope key) = none →
      (limiter.makeRoom scope now).size < (limiter.policy.rule scope).maxKeys) ∧
    UInt64.ofNat microUnitsPerToken ≤ ((limiter.policy.rule scope).opened
      ((limiter.buckets scope).find? (lookupKey scope key)) now).availableMicroTokens

/-- A check that pays is admitted and draws from its bucket; any other only opens it. -/
theorem admitCheck_cases :
    ∃ answer kept after, limiter.admitCheck scope key now = (answer, limiter.keep scope after) ∧
      (∀ other, Drops limiter.policy.entryTtl now
        ((limiter.buckets scope).find? other) (kept.find? other)) ∧
      let bucket := (limiter.policy.rule scope).opened
        ((limiter.buckets scope).find? (lookupKey scope key)) now
      ((∃ error, answer = .error error) ∧
          (after = kept ∨ after = kept.insert (lookupKey scope key) bucket) ∧
          ¬ limiter.Pays scope key now ∨
        answer = .ok () ∧ after = kept.insert (lookupKey scope key) bucket.drawn ∧
          limiter.Pays scope key now) := by
  unfold admitCheck Pays
  dsimp only
  by_cases invalid : scope ≠ .request ∧ !validKey key 128
  · rw [if_pos invalid]
    have same : limiter = limiter.keep scope (limiter.buckets scope) := by
      unfold keep
      rw [Function.update_eq_self]
    exact ⟨_, _, _, Prod.ext rfl same, fun _ => .inl rfl,
      .inl ⟨⟨_, rfl⟩, .inl rfl, fun pays => pays.1 invalid⟩⟩
  · rw [if_neg invalid]
    cases (limiter.buckets scope).find? (lookupKey scope key) with
    | some bucket =>
      dsimp only
      split_ifs with exhausted
      · exact ⟨_, _, _, rfl, fun _ => .inl rfl,
          .inl ⟨⟨_, rfl⟩, .inr rfl, fun pays => UInt64.not_lt.mpr pays.2.2 exhausted⟩⟩
      · exact ⟨_, _, _, rfl, fun _ => .inl rfl,
          .inr ⟨rfl, rfl, invalid, nofun, UInt64.not_lt.mp exhausted⟩⟩
    | none =>
      have drops := limiter.find?_makeRoom scope now
      by_cases crowded : (limiter.makeRoom scope now).size ≥ (limiter.policy.rule scope).maxKeys
      · rw [if_pos crowded]
        exact ⟨_, _, _, rfl, drops,
          .inl ⟨⟨_, rfl⟩, .inl rfl, fun pays => Nat.not_lt.mpr crowded (pays.2.1 rfl)⟩⟩
      rw [if_neg crowded]
      split_ifs with exhausted
      · exact ⟨_, _, _, rfl, drops,
          .inl ⟨⟨_, rfl⟩, .inr rfl, fun pays => UInt64.not_lt.mpr pays.2.2 exhausted⟩⟩
      · exact ⟨_, _, _, rfl, drops,
          .inr ⟨rfl, rfl, invalid, fun _ => Nat.not_le.mp crowded, UInt64.not_lt.mp exhausted⟩⟩

end RelayRateLimiter

/-! ### Runs -/

inductive RateEvent where
  | check (scope : RelayRateLimitScope) (key : Text) (now : Int)
  | prune (now : Int)

def RateEvent.time : RateEvent → Int
  | .check _ _ now => now
  | .prune now => now

/-- A limiter with the time of its last call and the checks that it admitted. -/
structure RateRun where
  limiter : RelayRateLimiter
  now : Int
  admitted : List (RelayRateLimitScope × Text × Int) := []

namespace RateRun

variable (run : RateRun)

def step : RateEvent → RateRun
  | .check scope key now =>
    match run.limiter.admitCheck scope key now with
    | (.ok (), limiter) => {
        limiter := limiter
        now := now
        admitted := run.admitted ++ [(scope, lookupKey scope key, now)] }
    | (.error _, limiter) => { run with limiter := limiter, now := now }
  | .prune now => { run with limiter := run.limiter.prune now, now := now }

def Starts (policy : RelayRateLimitPolicy) (run : RateRun) : Prop :=
  create policy = .ok run.limiter ∧ run.admitted = []

variable (event : RateEvent)

def Forward : Prop := run.now ≤ event.time

instance (run : RateRun) (event : RateEvent) : Decidable (run.Forward event) :=
  inferInstanceAs (Decidable (_ ≤ _))

def admittedIn (scope : RelayRateLimitScope) (key : Text) (since final : Int) : Nat :=
  (run.admitted.filter fun (of, name, time) =>
    of == scope && name == key && decide (since ≤ time) && decide (time ≤ final)).length

def slot (scope : RelayRateLimitScope) (key : Text) : Option Bucket :=
  (run.limiter.buckets scope).find? key

/-- What an event does to one bucket, and whether it admits a check of that key. -/
inductive Effect (run after : RateRun) (scope : RelayRateLimitScope) (key : Text) (now : Int) : Prop
  /-- No check of the key reached a bucket. -/
  | idle (drops : Drops run.limiter.policy.entryTtl now (run.slot scope key) (after.slot scope key))
      (others : ∀ since final, after.admittedIn scope key since final =
        run.admittedIn scope key since final)
  | refused (slot : after.slot scope key =
        some ((run.limiter.policy.rule scope).opened (run.slot scope key) now))
      (admitted : after.admitted = run.admitted)
  | drawn (covers : UInt64.ofNat microUnitsPerToken ≤
        ((run.limiter.policy.rule scope).opened (run.slot scope key) now).availableMicroTokens)
      (slot : after.slot scope key =
        some ((run.limiter.policy.rule scope).opened (run.slot scope key) now).drawn)
      (admitted : after.admitted = run.admitted ++ [(scope, key, now)])

theorem slot_keep (of scope : RelayRateLimitScope) (key : Text) (buckets : Buckets) :
    ((run.limiter.keep of buckets).buckets scope).find? key =
      if scope = of then buckets.find? key else run.slot scope key := by
  unfold RelayRateLimiter.keep
  dsimp only
  rw [Function.update_apply]
  split_ifs with same
  · rfl
  · rfl

theorem admittedIn_of_other {run after : RateRun} {scope of : RelayRateLimitScope} {key name : Text}
    {time : Int} (different : ¬ (scope = of ∧ key = name))
    (admitted : after.admitted = run.admitted ++ [(of, name, time)]) (since final : Int) :
    after.admittedIn scope key since final = run.admittedIn scope key since final := by
  have skipped : (of == scope && name == key && decide (since ≤ time) && decide (time ≤ final)) =
      false := by
    by_cases scopes : of = scope
    · have names : name ≠ key := fun same => different ⟨scopes.symm, same.symm⟩
      simp [names]
    · simp [scopes]
  unfold admittedIn
  rw [admitted, filter_append, filter_cons_of_neg (by simpa using skipped),
    filter_nil, append_nil]

/-- The step lemma: one event, seen from one key. -/
theorem step_effect (scope : RelayRateLimitScope) (key : Text) :
    Effect run (run.step event) scope key event.time := by
  cases event with
  | prune now =>
    exact .idle (find?_pruneBuckets _ _ _ _) fun _ _ => rfl
  | check of given now =>
    obtain ⟨answer, kept, after, result, drops, outcome⟩ :=
      run.limiter.admitCheck_cases of given now
    have others : ¬ (scope = of ∧ key = lookupKey of given) → ∀ bucket,
        Drops run.limiter.policy.entryTtl now (run.slot scope key)
          (((run.limiter.keep of (kept.insert (lookupKey of given) bucket)).buckets
            scope).find? key) := by
      intro different bucket
      rw [slot_keep]
      split_ifs with same
      · rw [find?_insert, if_neg fun equal => different ⟨same, equal⟩, same]
        exact drops key
      · exact .inl rfl
    have own : ∀ bucket, ((run.limiter.keep of (kept.insert
        (lookupKey of given) bucket)).buckets of).find?
          (lookupKey of given) = some bucket := by
      intro bucket
      rw [slot_keep, if_pos rfl, find?_insert_self]
    unfold step
    dsimp only
    rw [result]
    rcases outcome with ⟨⟨error, rfl⟩, rfl | rfl, -⟩ | ⟨rfl, rfl, -, -, covers⟩
    · refine .idle ?_ fun _ _ => rfl
      unfold slot
      rw [slot_keep]
      split_ifs with same
      · exact same ▸ drops key
      · exact .inl rfl
    · by_cases same : scope = of ∧ key = lookupKey of given
      · obtain ⟨rfl, rfl⟩ := same
        exact .refused (own _) rfl
      · exact .idle (others same _) fun _ _ => rfl
    · by_cases same : scope = of ∧ key = lookupKey of given
      · obtain ⟨rfl, rfl⟩ := same
        exact .drawn covers (own _) rfl
      · exact .idle (others same _) (admittedIn_of_other same rfl)

theorem step_policy : (run.step event).limiter.policy = run.limiter.policy := by
  cases event with
  | prune now => rfl
  | check scope key now =>
    obtain ⟨answer, kept, after, result, -⟩ := run.limiter.admitCheck_cases scope key now
    unfold step
    dsimp only
    rw [result]
    cases answer <;> rfl

theorem step_now : (run.step event).now = event.time := by
  cases event with
  | prune now => rfl
  | check scope key now =>
    unfold step
    dsimp only
    split <;> rfl

end RateRun

/-! ### The account of one key -/

namespace RelayRateLimitRule

variable {rule : RelayRateLimitRule} {now later since entryTtl : Int}
  {slot after before : Option Bucket} {draws : Nat} {bucket : Bucket}

/-- The tokens that a key has; one without a bucket has all. -/
def level (rule : RelayRateLimitRule) (slot : Option Bucket) : Nat :=
  (slot.map fun bucket => bucket.availableMicroTokens.toNat).getD rule.full

/-- The time up to which a key was credited. -/
def mark (slot : Option Bucket) (now : Int) : Int := (slot.map Bucket.lastRefill).getD now

/-- The slot is what refills and draws make of it. -/
def SlotSound (rule : RelayRateLimitRule) (slot : Option Bucket) (now : Int) : Prop :=
  rule.level slot ≤ rule.full ∧ mark slot now ≤ now

/-- The draws since a point in time are paid by a full bucket and by time that passed. -/
def Charged (rule : RelayRateLimitRule) (since : Int) (draws : Nat) (slot : Option Bucket)
    (now : Int) : Prop :=
  draws = 0 ∨ ∃ anchor units, since - 1000000 < anchor ∧
    Paid rule.full rule.windowMs microUnitsPerToken draws (rule.level slot) units ∧
    (units : Int) * 1000000 ≤ mark slot now - anchor

theorem SlotSound.drops (sound : rule.SlotSound before now) (le : now ≤ later)
    (drops : Drops entryTtl later before after) : rule.SlotSound after later := by
  rcases drops with rfl | ⟨rfl, -⟩
  · cases after with
    | none => exact ⟨Nat.le_refl _, Int.le_refl _⟩
    | some bucket => exact ⟨sound.1, sound.2.trans le⟩
  · exact ⟨Nat.le_refl _, Int.le_refl _⟩

section

variable (valid : rule.Valid)

include valid

/-- A check refills the bucket that it finds; a missing one is opened full at this moment. -/
theorem Valid.opened_eq (sound : rule.SlotSound slot now) (le : now ≤ later) :
    ∃ bucket, rule.opened slot later = rule.refill bucket later ∧
      bucket.availableMicroTokens.toNat = rule.level slot ∧ mark slot now ≤ bucket.lastRefill ∧
      bucket.lastRefill ≤ later := by
  cases slot with
  | none => exact ⟨_, rfl, valid.toNat_fullMicro, le, Int.le_refl _⟩
  | some bucket => exact ⟨bucket, rfl, rfl, Int.le_refl _, sound.2.trans le⟩

/-- The bucket that a check opens, and the credit that it got. -/
theorem Valid.opened (sound : rule.SlotSound slot now) (le : now ≤ later) :
    ∃ units, (rule.opened slot later).availableMicroTokens.toNat ≤
        rule.level slot + rule.full / rule.windowMs * units ∧
      (rule.opened slot later).availableMicroTokens.toNat ≤ rule.full ∧
      mark slot now + (units : Int) * 1000000 ≤ (rule.opened slot later).lastRefill ∧
      (rule.opened slot later).lastRefill ≤ later ∧
      later - (rule.opened slot later).lastRefill < 1000000 := by
  obtain ⟨bucket, opened, level, after, before⟩ := valid.opened_eq sound le
  have fits : bucket.availableMicroTokens.toNat ≤ rule.full := level ▸ sound.1
  have passed : (rule.units bucket later : Int) * 1000000 ≤ later - bucket.lastRefill :=
    units_mul_le before
  rw [opened, valid.toNat_refill fits, lastRefill_refill, level]
  refine ⟨rule.units bucket later, Nat.min_le_right _ _, Nat.min_le_left _ _, ?_⟩
  split_ifs with none
  · -- without a credit less than a millisecond has passed
    have pos := valid.window_pos
    have elapsed := elapsedMilliseconds_of_le before
    unfold units at none ⊢
    omega
  · omega

/-- At the moment of the last refill a bucket is opened as it is. -/
theorem Valid.opened_now (sound : rule.SlotSound slot now) (marked : mark slot now = now) :
    (rule.opened slot now).availableMicroTokens.toNat = rule.level slot ∧
      (rule.opened slot now).lastRefill = now := by
  obtain ⟨bucket, opened, level, after, before⟩ := valid.opened_eq sound (Int.le_refl now)
  have last : bucket.lastRefill = now := Int.le_antisymm before (marked ▸ after)
  have fits : bucket.availableMicroTokens.toNat ≤ rule.full := level ▸ sound.1
  have none : rule.units bucket now = 0 := by
    have passed : (rule.units bucket now : Int) * 1000000 ≤ now - bucket.lastRefill :=
      units_mul_le last.le
    omega
  rw [opened, valid.toNat_refill fits, lastRefill_refill, none, Nat.mul_zero, Nat.add_zero,
    Nat.min_eq_right fits]
  exact ⟨level, last⟩

theorem Charged.drops
    (long : rule.window ≤ entryTtl) (charged : rule.Charged since draws before now)
    (sound : rule.SlotSound before now) (le : now ≤ later)
    (drops : Drops entryTtl later before after) :
    rule.Charged since draws after later := by
  rcases charged with none | ⟨anchor, units, near, paid, passed⟩
  · exact .inl none
  right
  rcases drops with rfl | ⟨rfl, bucket, rfl, old⟩
  · refine ⟨anchor, units, near, paid, ?_⟩
    cases after with
    | none => exact passed.trans (Int.sub_le_sub_right le _)
    | some bucket => exact passed
  · -- the dropped bucket would have filled
    refine ⟨anchor, units + rule.windowMs, near, paid.refill (Nat.le_add_left ..) (Nat.le_refl _), ?_⟩
    have window := valid.cast_windowMs
    have past : bucket.lastRefill ≤ later := sound.2.trans le
    have elapsed := elapsedMilliseconds_of_le past
    have marked : mark (some bucket) now = bucket.lastRefill := rfl
    have dropped : mark none later = later := rfl
    rw [marked] at passed
    rw [dropped]
    push_cast
    omega

theorem Charged.opened (charged : rule.Charged since draws slot now)
    (sound : rule.SlotSound slot now) (le : now ≤ later) :
    rule.Charged since draws (some (rule.opened slot later)) later := by
  rcases charged with none | ⟨anchor, units, near, paid, passed⟩
  · exact .inl none
  obtain ⟨more, added, -, credited, -, -⟩ := valid.opened sound le
  have rate : rule.full / rule.windowMs * more * rule.windowMs ≤ rule.full * more := by
    calc rule.full / rule.windowMs * more * rule.windowMs
        = rule.full / rule.windowMs * rule.windowMs * more := by ring
      _ ≤ rule.full * more := Nat.mul_le_mul_right more (Nat.div_mul_le_self _ _)
  refine .inr ⟨anchor, units + more, near, paid.refill added rate, ?_⟩
  have marked : mark (some (rule.opened slot later)) later =
      (rule.opened slot later).lastRefill := rfl
  rw [marked]
  push_cast
  omega

end

theorem toNat_drawn (covers : UInt64.ofNat microUnitsPerToken ≤ bucket.availableMicroTokens) :
    bucket.drawn.availableMicroTokens.toNat =
      bucket.availableMicroTokens.toNat - microUnitsPerToken :=
  UInt64.toNat_sub_of_le _ _ covers

/-- A draw that is counted, from a bucket credited less than a millisecond ago. -/
theorem Charged.drawn (charged : rule.Charged since draws (some bucket) now)
    (fits : bucket.availableMicroTokens.toNat ≤ rule.full)
    (covers : UInt64.ofNat microUnitsPerToken ≤ bucket.availableMicroTokens)
    (recent : now - bucket.lastRefill < 1000000) (inside : since ≤ now) :
    rule.Charged since (draws + 1) (some bucket.drawn) now := by
  have enough : microUnitsPerToken ≤ bucket.availableMicroTokens.toNat :=
    UInt64.le_iff_toNat_le.mp covers
  have start : ∃ anchor units, since - 1000000 < anchor ∧
      Paid rule.full rule.windowMs microUnitsPerToken draws (rule.level (some bucket)) units ∧
      (units : Int) * 1000000 ≤ bucket.lastRefill - anchor := by
    rcases charged with rfl | paid
    · refine ⟨bucket.lastRefill, 0, by omega, Paid.start fits, ?_⟩
      omega
    · exact paid
  obtain ⟨anchor, units, near, paid, passed⟩ := start
  refine .inr ⟨anchor, units, near, ?_, passed⟩
  show Paid _ _ _ _ bucket.drawn.availableMicroTokens.toNat _
  rw [toNat_drawn covers]
  exact paid.draw enough

theorem Charged.drawn_outside (charged : rule.Charged since draws (some bucket) now)
    (covers : UInt64.ofNat microUnitsPerToken ≤ bucket.availableMicroTokens) :
    rule.Charged since draws (some bucket.drawn) now := by
  rcases charged with none | ⟨anchor, units, near, paid, passed⟩
  · exact .inl none
  have kept : rule.level (some bucket.drawn) ≤ rule.level (some bucket) + 0 :=
    (toNat_drawn covers).le.trans (Nat.sub_le _ _)
  exact .inr ⟨anchor, units + 0, near, paid.refill kept (Nat.le_of_eq (Nat.zero_mul _)), passed⟩

/-- The account bounds the draws in an interval that has not ended. -/
theorem Charged.bound (valid : rule.Valid) (charged : rule.Charged since draws slot now)
    (sound : rule.SlotSound slot now) {length : Nat} (inside : now ≤ since + length * 1000000) :
    draws ≤ rule.capacity + rule.capacity * length / rule.windowMs := by
  rcases charged with rfl | ⟨anchor, units, near, paid, passed⟩
  · exact Nat.zero_le _
  have le : units ≤ length := by
    have marked := sound.2
    omega
  have bounded : draws * rule.windowMs ≤ rule.capacity * rule.windowMs + rule.capacity * length :=
    paid.bound (by decide) le
  have divided := (Nat.le_div_iff_mul_le valid.windowMs_pos).mpr bounded
  rw [Nat.mul_comm rule.capacity rule.windowMs, Nat.mul_add_div valid.windowMs_pos] at divided
  exact divided

end RelayRateLimitRule

/-! ### The bound -/

namespace RateRun

variable {policy : RelayRateLimitPolicy} {run : RateRun} {scope : RelayRateLimitScope} {now : Int}
  {base : List (RelayRateLimitScope × Text × Int)} {draws : Nat}

/-- Every bucket is what refills and draws make of it. -/
structure Sound (policy : RelayRateLimitPolicy) (run : RateRun) : Prop where
  policy_eq : run.limiter.policy = policy
  slots : ∀ scope key, (policy.rule scope).SlotSound (run.slot scope key) run.now

theorem sound_of_starts (starts : Starts policy run) : Sound policy run := by
  obtain ⟨created, -⟩ := starts
  obtain ⟨limiter, now, admitted⟩ := run
  unfold create at created
  cases checked : validatePolicy policy with
  | error error =>
    rw [checked] at created
    cases created
  | ok _ =>
    rw [checked] at created
    cases created
    exact ⟨rfl, fun _ _ => ⟨Nat.le_refl _, Int.le_refl _⟩⟩

theorem Sound.step (valid : validatePolicy policy = .ok ()) (sound : Sound policy run)
    (event : RateEvent) (forward : run.Forward event) : Sound policy (run.step event) := by
  refine ⟨(run.step_policy event).trans sound.policy_eq, fun scope key => ?_⟩
  have slot := sound.slots scope key
  obtain ⟨units, -, fits, -, past, -⟩ := (validatePolicy_rule valid scope).opened slot forward
  have effect := run.step_effect event scope key
  rw [step_now]
  cases effect with
  | idle drops others => exact slot.drops forward drops
  | refused opened admitted =>
    rw [opened, sound.policy_eq]
    exact ⟨fits, past⟩
  | drawn covers opened admitted =>
    rw [sound.policy_eq] at opened covers
    rw [opened]
    exact ⟨((toNat_drawn covers).le.trans (Nat.sub_le _ _)).trans fits, past⟩

theorem sound_of_run (valid : validatePolicy policy = .ok ())
    (reached : Reaches step (Starts policy) Forward run) : Sound policy run := by
  apply reached.invariant
  · intro run starts
    exact sound_of_starts starts
  · intro run event sound forward
    exact sound.step valid event forward

/-- A check that is admitted now counts if now is in the interval. -/
theorem admittedIn_drawn {after : RateRun} {key : Text}
    (admitted : after.admitted = run.admitted ++ [(scope, key, now)]) (since final : Int) :
    after.admittedIn scope key since final = run.admittedIn scope key since final +
      if since ≤ now ∧ now ≤ final then 1 else 0 := by
  unfold admittedIn
  rw [admitted, filter_append, length_append]
  by_cases inside : since ≤ now ∧ now ≤ final
  · simp [inside]
  · rw [if_neg inside, filter_cons_of_neg (by simpa using inside)]
    rfl

/-- The account of a key in an interval, as long as the interval lasts, and the bound. -/
structure Bounded (rule : RelayRateLimitRule) (scope : RelayRateLimitScope) (key : Text)
    (since : Int) (length : Nat) (run : RateRun) : Prop where
  charged : run.now ≤ since + length * 1000000 → rule.Charged since
    (run.admittedIn scope key since (since + length * 1000000)) (run.slot scope key) run.now
  bound : run.admittedIn scope key since (since + length * 1000000) ≤
    rule.capacity + rule.capacity * length / rule.windowMs

section

variable (valid : validatePolicy policy = .ok ()) (long : (policy.rule scope).window ≤ policy.entryTtl)

include valid long

theorem Bounded.step {key : Text} {since : Int} {length : Nat}
    (sound : Sound policy run) (event : RateEvent) (forward : run.Forward event)
    (bounded : Bounded (policy.rule scope) scope key since length run) :
    Bounded (policy.rule scope) scope key since length (run.step event) := by
  have rule := validatePolicy_rule valid scope
  have slot := sound.slots scope key
  have after := (sound.step valid event forward).slots scope key
  have effect := run.step_effect event scope key
  have charged : event.time ≤ since + length * 1000000 → (policy.rule scope).Charged since
      ((run.step event).admittedIn scope key since (since + length * 1000000))
      ((run.step event).slot scope key) event.time := by
    intro inside
    have before := bounded.charged (Int.le_trans forward inside)
    cases effect with
    | idle drops others =>
      rw [sound.policy_eq] at drops
      rw [others]
      exact before.drops rule long slot forward drops
    | refused opened admitted =>
      rw [sound.policy_eq] at opened
      unfold admittedIn
      rw [opened, admitted]
      exact before.opened rule slot forward
    | drawn covers opened admitted =>
      rw [sound.policy_eq] at opened covers
      rw [opened, admittedIn_drawn admitted]
      have filled := before.opened rule slot forward
      obtain ⟨units, -, fits, -, -, recent⟩ := rule.opened slot forward
      by_cases started : since ≤ event.time
      · rw [if_pos ⟨started, inside⟩]
        exact filled.drawn fits covers recent started
      · rw [if_neg fun both => started both.1]
        exact filled.drawn_outside covers
  refine ⟨fun inside => ?_, ?_⟩
  · rw [step_now] at inside ⊢
    exact charged inside
  · by_cases inside : event.time ≤ since + length * 1000000
    · rw [step_now] at after
      exact (charged inside).bound rule after inside
    -- the interval is over
    have same : (run.step event).admittedIn scope key since (since + length * 1000000) =
        run.admittedIn scope key since (since + length * 1000000) := by
      cases effect with
      | idle drops others => exact others _ _
      | refused opened admitted =>
        unfold admittedIn
        rw [admitted]
      | drawn covers opened admitted =>
        rw [admittedIn_drawn admitted, if_neg fun both => inside both.2, Nat.add_zero]
    rw [same]
    exact bounded.bound

theorem bounded_of_run
    (reached : Reaches step (Starts policy) Forward run) (key : Text) (since : Int) (length : Nat) :
    Bounded (policy.rule scope) scope key since length run := by
  have both : Sound policy run ∧ Bounded (policy.rule scope) scope key since length run := by
    apply reached.invariant
    · intro run starts
      have none : run.admittedIn scope key since (since + length * 1000000) = 0 := by
        unfold admittedIn
        rw [starts.2]
        rfl
      refine ⟨sound_of_starts starts, fun _ => .inl none, ?_⟩
      rw [none]
      exact Nat.zero_le _
    · intro run event kept forward
      exact ⟨kept.1.step valid event forward, kept.2.step valid long kept.1 event forward⟩
  exact both.2

end

/-! ### A bucket dropped too early -/

/-- A key that every scope takes. -/
def sampleKey (scope : RelayRateLimitScope) : Text :=
  if scope = .request then ⟨[]⟩ else ⟨[97]⟩

theorem lookupKey_sampleKey : lookupKey scope (sampleKey scope) = sampleKey scope := by
  cases scope <;> rfl

/-- Some checks of the sample key were admitted at one moment, from a full bucket. -/
structure Drained (policy : RelayRateLimitPolicy) (scope : RelayRateLimitScope)
    (base : List (RelayRateLimitScope × Text × Int)) (now : Int) (draws : Nat) (run : RateRun) :
    Prop where
  policy_eq : run.limiter.policy = policy
  now_eq : run.now = now
  admitted : run.admitted = base ++ replicate draws (scope, sampleKey scope, now)
  level : (policy.rule scope).level (run.slot scope (sampleKey scope)) =
    ((policy.rule scope).capacity - draws) * microUnitsPerToken
  mark : mark (run.slot scope (sampleKey scope)) now = now
  others : ∀ other, other ≠ sampleKey scope → run.slot scope other = none

theorem size_of_slots (none : ∀ key, run.slot scope key = none) :
    (run.limiter.buckets scope).size = 0 := by
  rw [← first?_eq_none_iff]
  cases first : (run.limiter.buckets scope).first? with
  | none => rfl
  | some entry =>
    have found := find?_of_first? first
    cases (none entry.1).symm.trans found

theorem Drained.step (valid : validatePolicy policy = .ok ())
    (drained : Drained policy scope base now draws run)
    (left : draws < (policy.rule scope).capacity) :
    Drained policy scope base now (draws + 1) (run.step (.check scope (sampleKey scope) now)) := by
  have rule := validatePolicy_rule valid scope
  have capacity : (policy.rule scope).level (run.slot scope (sampleKey scope)) ≤
      (policy.rule scope).full := by
    rw [drained.level]
    exact Nat.mul_le_mul_right _ (Nat.sub_le _ _)
  -- nothing is credited at the moment of the last refill
  obtain ⟨level, marked⟩ := rule.opened_now ⟨capacity, drained.mark.le⟩ drained.mark
  have enough : UInt64.ofNat microUnitsPerToken ≤ ((policy.rule scope).opened
      (run.slot scope (sampleKey scope)) now).availableMicroTokens := by
    apply UInt64.le_iff_toNat_le.mpr
    rw [level, drained.level]
    exact Nat.le_mul_of_pos_left _ (Nat.sub_pos_of_lt left)
  have pays : run.limiter.Pays scope (sampleKey scope) now := by
    unfold RelayRateLimiter.Pays
    rw [lookupKey_sampleKey, drained.policy_eq]
    refine ⟨by cases scope <;> decide, fun none => ?_, enough⟩
    have empty := size_of_slots fun key => by
      by_cases same : key = sampleKey scope
      · exact same ▸ none
      · exact drained.others key same
    unfold RelayRateLimiter.makeRoom
    rw [empty, drained.policy_eq, if_neg (Nat.not_le.mpr rule.keys_pos), empty]
    exact rule.keys_pos
  obtain ⟨answer, kept, after, result, drops, outcome⟩ :=
    run.limiter.admitCheck_cases scope (sampleKey scope) now
  rw [lookupKey_sampleKey, drained.policy_eq] at outcome
  rcases outcome with ⟨-, -, refused⟩ | ⟨rfl, rfl, -⟩
  · exact absurd pays refused
  unfold RateRun.step
  dsimp only
  rw [result, lookupKey_sampleKey]
  have own : ((run.limiter.keep scope (kept.insert (sampleKey scope) ((policy.rule scope).opened
      (run.slot scope (sampleKey scope)) now).drawn)).buckets scope).find? (sampleKey scope) =
        some ((policy.rule scope).opened (run.slot scope (sampleKey scope)) now).drawn := by
    rw [slot_keep, if_pos rfl, find?_insert_self]
  refine ⟨drained.policy_eq, rfl, ?_, ?_, ?_, fun other different => ?_⟩
  · rw [drained.admitted, append_assoc, ← replicate_succ']
  · refine ((congrArg _ own).trans (toNat_drawn enough)).trans ?_
    rw [level, drained.level, ← Nat.sub_one_mul, Nat.sub_sub]
  · exact (congrArg (RelayRateLimitRule.mark · now) own).trans marked
  · have none := drops other
    refine (slot_keep _ _ _ _ _).trans ?_
    rw [if_pos rfl, find?_insert, if_neg different]
    rcases none with same | ⟨same, -⟩
    · exact same.trans (drained.others other different)
    · exact same

theorem Drained.steps (valid : validatePolicy policy = .ok ())
    (full : Drained policy scope base now 0 run) (le : draws ≤ (policy.rule scope).capacity) :
    Drained policy scope base now draws
      ((replicate draws (.check scope (sampleKey scope) now)).foldl RateRun.step run) := by
  induction draws with
  | zero => exact full
  | succ draws ih =>
    rw [replicate_succ', foldl_append]
    exact (ih (Nat.le_of_succ_le le)).step valid le

/-- A bucket whose time to live has passed is full again, although its window has not. -/
theorem Drained.pruned (drained : Drained policy scope base now draws run)
    (positive : 0 < policy.entryTtl) :
    Drained policy scope run.admitted (now + policy.entryTtl * 1000000) 0
      (run.step (.prune (now + policy.entryTtl * 1000000))) := by
  have none : ∀ key, (run.step (.prune (now + policy.entryTtl * 1000000))).slot scope key = none := by
    intro key
    have last : ∀ bucket, run.slot scope key = some bucket → bucket.lastRefill = now := by
      intro bucket slot
      by_cases own : key = sampleKey scope
      · have marked := drained.mark
        rw [← own, slot] at marked
        exact marked
      · cases (drained.others key own).symm.trans slot
    refine (SortedMap.find?_filter ..).trans (Option.filter_eq_none_iff.mpr ?_)
    intro bucket slot
    simp only [Bool.not_eq_true', decide_eq_false_iff_not, not_not]
    rw [drained.policy_eq, last bucket slot,
      elapsedMilliseconds_of_le (by omega)]
    omega
  refine ⟨drained.policy_eq, rfl, ?_, ?_, ?_, fun other _ => none other⟩
  · exact (List.append_nil _).symm
  · rw [none]
    rfl
  · rw [none]
    rfl

theorem eachAllowed_replicate {event : RateEvent} (draws : Nat) (forward : run.now ≤ event.time) :
    Machine.EachAllowed step Forward run (replicate draws event) := by
  induction draws generalizing run with
  | zero => trivial
  | succ draws ih =>
    refine ⟨forward, ih ?_⟩
    rw [step_now]

/-- The sample key is used up, left alone for the time to live, and used up again. -/
def twice (policy : RelayRateLimitPolicy) (scope : RelayRateLimitScope) : List RateEvent :=
  replicate (policy.rule scope).capacity (.check scope (sampleKey scope) 0) ++
    .prune (0 + policy.entryTtl * 1000000) :: replicate (policy.rule scope).capacity
      (.check scope (sampleKey scope) (0 + policy.entryTtl * 1000000))

def fresh (policy : RelayRateLimitPolicy) : RateRun := { limiter := { policy := policy }, now := 0 }

theorem drained_fresh (policy : RelayRateLimitPolicy) (scope : RelayRateLimitScope) :
    Drained policy scope [] 0 0 (fresh policy) :=
  ⟨rfl, rfl, rfl, rfl, rfl, fun _ _ => rfl⟩

section

variable (valid : validatePolicy policy = .ok ())

include valid

theorem entryTtl_pos : 0 < policy.entryTtl := by
  unfold validatePolicy at valid
  split_ifs at valid with refused
  simp only [Bool.or_eq_true, decide_eq_true_eq, not_or, not_le] at refused
  exact refused.1.2

theorem twice_admitted :
    ((twice policy scope).foldl step (fresh policy)).admitted =
      replicate (policy.rule scope).capacity (scope, sampleKey scope, 0) ++
        replicate (policy.rule scope).capacity
          (scope, sampleKey scope, 0 + policy.entryTtl * 1000000) := by
  have first := (drained_fresh policy scope).steps valid (Nat.le_refl _)
  have second := (first.pruned (entryTtl_pos valid)).steps valid (Nat.le_refl _)
  have admitted := second.admitted
  rw [first.admitted, nil_append] at admitted
  unfold twice
  rw [foldl_append, foldl_cons]
  exact admitted

theorem starts_created : Starts policy (fresh policy) := by
  refine ⟨?_, rfl⟩
  unfold create
  rw [valid]
  rfl

variable (scope : RelayRateLimitScope)

theorem twice_reached :
    Reaches step (Starts policy) Forward ((twice policy scope).foldl step (fresh policy)) := by
  have positive := entryTtl_pos valid
  apply (Reaches.start (starts_created valid)).foldl
  apply Machine.EachAllowed.append
  · exact eachAllowed_replicate _ (Int.le_refl 0)
  · refine ⟨?_, eachAllowed_replicate _ (Int.le_refl _)⟩
    have now := ((drained_fresh policy scope).steps valid (Nat.le_refl _)).now_eq
    unfold Forward
    rw [now]
    change 0 ≤ 0 + policy.entryTtl * 1000000
    omega

/-- Twice the capacity is admitted within the time to live. -/
theorem twice_admittedIn :
    ((twice policy scope).foldl step (fresh policy)).admittedIn
      scope (sampleKey scope) 0 (0 + policy.entryTtl.toNat * 1000000) =
        2 * (policy.rule scope).capacity := by
  have positive := entryTtl_pos valid
  have final : ((policy.entryTtl.toNat : Int)) = policy.entryTtl := Int.toNat_of_nonneg positive.le
  have inside : (0 : Int) ≤ 0 + policy.entryTtl * 1000000 := by omega
  unfold admittedIn
  rw [twice_admitted valid, final, filter_append, length_append,
    filter_replicate_of_pos (by simpa using inside),
    filter_replicate_of_pos (by simpa using inside), length_replicate,
    length_replicate, Nat.two_mul]

end

/-- The bound of a token bucket holds in every run exactly if no bucket is dropped
before its window has passed.  The tokens never leave 64 bits. -/
theorem admissions_bounded_iff (valid : validatePolicy policy = .ok ())
    (scope : RelayRateLimitScope) :
    ((∀ run, Reaches step (Starts policy) Forward run → ∀ key since (length : Nat),
        run.admittedIn scope key since (since + length * 1000000) ≤
          (policy.rule scope).capacity +
            (policy.rule scope).capacity * length / (policy.rule scope).window.toNat) ↔
      (policy.rule scope).window ≤ policy.entryTtl) ∧
    ∀ run, Reaches step (Starts policy) Forward run → ∀ key bucket now,
      run.slot scope key = some bucket →
        (policy.rule scope).fullMicro.toNat = (policy.rule scope).capacity * microUnitsPerToken ∧
        bucket.availableMicroTokens.toNat + (policy.rule scope).capacity * microUnitsPerToken /
          (policy.rule scope).window.toNat * (policy.rule scope).units bucket now < 2 ^ 64 ∧
        ((policy.rule scope).refill bucket now).availableMicroTokens.toNat =
          min ((policy.rule scope).capacity * microUnitsPerToken)
            (bucket.availableMicroTokens.toNat +
              (policy.rule scope).capacity * microUnitsPerToken /
                (policy.rule scope).window.toNat * (policy.rule scope).units bucket now) := by
  have rule := validatePolicy_rule valid scope
  refine ⟨⟨fun bounded => ?_, fun long run reached key since length => ?_⟩,
    fun run reached key bucket now slot => ?_⟩
  · by_contra short
    have admitted := bounded _ (twice_reached valid scope) (sampleKey scope) 0
      policy.entryTtl.toNat
    rw [twice_admittedIn valid] at admitted
    have positive := entryTtl_pos valid
    have less : (policy.rule scope).capacity * policy.entryTtl.toNat /
        (policy.rule scope).window.toNat < (policy.rule scope).capacity := by
      apply Nat.div_lt_of_lt_mul
      rw [Nat.mul_comm]
      apply Nat.mul_lt_mul_of_pos_right _ rule.capacity_pos
      omega
    omega
  · exact (bounded_of_run valid long reached key since length).bound
  · have fits := ((sound_of_run valid reached).slots scope key).1
    rw [slot] at fits
    exact ⟨rule.toNat_fullMicro, rule.sum_lt fits now, rule.toNat_refill fits now⟩

/-- A policy that forgets a connection after a millisecond. -/
def forgetful : RelayRateLimitPolicy :=
  { connection := { capacity := 1, window := 1000, maxKeys := 16 }, entryTtl := 1 }

theorem admissions_bounded_iff_default :
    validatePolicy {} = .ok () ∧
      ∀ run, Reaches step (Starts {}) Forward run → ∀ key since (length : Nat),
        run.admittedIn .ip key since (since + length * 1000000) ≤ 32 + 32 * length / 1000 := by
  refine ⟨rfl, ?_⟩
  exact (admissions_bounded_iff rfl .ip).1.mpr (by decide)

/-- Two checks of one key are admitted within a millisecond, where one is allowed in a
second. -/
theorem pruned_key_admitted_twice :
    validatePolicy forgetful = .ok () ∧
      ∃ run, Reaches step (Starts forgetful) Forward run ∧
        run.admittedIn .connection ⟨[97]⟩ 0 (0 + (1 : Nat) * 1000000) = 2 ∧
        (forgetful.rule .connection).capacity + (forgetful.rule .connection).capacity * 1 /
          (forgetful.rule .connection).window.toNat = 1 := by
  have valid : validatePolicy forgetful = .ok () := by decide
  exact ⟨valid, _, twice_reached valid .connection, twice_admittedIn valid .connection, by decide⟩

end RateRun

end Heyaki
