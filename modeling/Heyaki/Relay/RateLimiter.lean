/-
Purpose: the token buckets of the relay (`relay_rate_limiter.cpp`).

Points in time are nanoseconds of the steady clock, windows are milliseconds.  Tokens
are counted in millionths, in 64 bits.  The counters for diagnostics are left out.
-/
import Heyaki.Core.Ids
import Heyaki.Foundation.SortedMap

namespace Heyaki

open Foundation (SortedMap)

inductive RelayRateLimitScope where
  | connection | request | tenant | ip
  deriving Repr, DecidableEq

structure RelayRateLimitRule where
  capacity : Nat := 16
  /-- In milliseconds. -/
  window : Int := 1000
  maxKeys : Nat := 4096
  deriving Repr, DecidableEq

structure RelayRateLimitPolicy where
  connection : RelayRateLimitRule := { capacity := 16, window := 1000, maxKeys := 4096 }
  request : RelayRateLimitRule := { capacity := 256, window := 1000, maxKeys := 1 }
  tenant : RelayRateLimitRule := { capacity := 64, window := 1000, maxKeys := 1024 }
  ip : RelayRateLimitRule := { capacity := 32, window := 1000, maxKeys := 4096 }
  /-- In milliseconds. -/
  entryTtl : Int := 60000
  deriving Repr, DecidableEq

def microUnitsPerToken : Nat := 1000000

def limiterError (code : ErrorCode) (detail : String) : Error :=
  { code := code, component := "relay_rate_limit", safeDetail := detail }

def validKey (value : Text) (maximum : Nat) : Bool :=
  !value.bytes.isEmpty && decide (value.bytes.length ≤ maximum) &&
    value.bytes.all fun character => 0x21 ≤ character && character ≤ 0x7e

def validRule (rule : RelayRateLimitRule) : Bool :=
  decide (0 < rule.capacity ∧ rule.capacity ≤ 1000000 ∧ 0 < rule.window ∧ rule.window ≤ 3600000 ∧
    0 < rule.maxKeys ∧ rule.maxKeys ≤ 1000000)

def validatePolicy (policy : RelayRateLimitPolicy) : Except Error Unit :=
  if !validRule policy.connection || !validRule policy.request || !validRule policy.tenant ||
      !validRule policy.ip || decide (policy.entryTtl ≤ 0) || decide (policy.entryTtl > 3600000) then
    .error (limiterError .configuration "rate_limit_policy_invalid")
  else .ok ()

/-- Whole milliseconds, none if the clock went back. -/
def elapsedMilliseconds (since now : Int) : Int :=
  max 0 ((now - since).tdiv 1000000)

structure Bucket where
  availableMicroTokens : UInt64
  lastRefill : Int
  deriving Repr, DecidableEq

def RelayRateLimitRule.fullMicro (rule : RelayRateLimitRule) : UInt64 :=
  UInt64.ofNat rule.capacity * UInt64.ofNat microUnitsPerToken

def RelayRateLimitRule.refill (rule : RelayRateLimitRule) (bucket : Bucket) (now : Int) : Bucket :=
  let elapsed := min (elapsedMilliseconds bucket.lastRefill now) rule.window
  if elapsed ≤ 0 then bucket
  else
    let refillPerMillisecond := rule.fullMicro / UInt64.ofInt rule.window
    let credit := refillPerMillisecond * UInt64.ofInt elapsed
    { availableMicroTokens := min rule.fullMicro (bucket.availableMicroTokens + credit)
      lastRefill := now }

abbrev Buckets := SortedMap Text Bucket

def pruneBuckets (buckets : Buckets) (now entryTtl : Int) : Buckets :=
  buckets.filter fun _ bucket => !decide (elapsedMilliseconds bucket.lastRefill now ≥ entryTtl)

def RelayRateLimitPolicy.rule (policy : RelayRateLimitPolicy) :
    RelayRateLimitScope → RelayRateLimitRule
  | .connection => policy.connection
  | .request => policy.request
  | .tenant => policy.tenant
  | .ip => policy.ip

structure RelayRateLimiter where
  policy : RelayRateLimitPolicy
  buckets : RelayRateLimitScope → Buckets := fun _ => {}

namespace RelayRateLimiter

def create (policy : RelayRateLimitPolicy) : Except Error RelayRateLimiter := do
  validatePolicy policy
  .ok { policy := policy }

/-- All requests share one bucket. -/
def lookupKey (scope : RelayRateLimitScope) (key : Text) : Text :=
  if scope = .request then ⟨[]⟩ else key

variable (limiter : RelayRateLimiter)

/-- The buckets with room for one more key: entries that are out of use are dropped only
when the table is full. -/
def makeRoom (scope : RelayRateLimitScope) (now : Int) : Buckets :=
  if (limiter.buckets scope).size ≥ (limiter.policy.rule scope).maxKeys then
    pruneBuckets (limiter.buckets scope) now limiter.policy.entryTtl
  else limiter.buckets scope

/-- `RelayRateLimiter::Impl::admit`. -/
def admitCheck (scope : RelayRateLimitScope) (key : Text) (now : Int) :
    Except Error Unit × RelayRateLimiter :=
  let rule := limiter.policy.rule scope
  if scope ≠ .request ∧ !validKey key 128 then
    (.error (limiterError .configuration "rate_limit_key_invalid"), limiter)
  else
    let key := lookupKey scope key
    let keep (buckets : Buckets) : RelayRateLimiter :=
      { limiter with buckets := Function.update limiter.buckets scope buckets }
    let draw (buckets : Buckets) (bucket : Bucket) : Except Error Unit × RelayRateLimiter :=
      let bucket := rule.refill bucket now
      if bucket.availableMicroTokens < UInt64.ofNat microUnitsPerToken then
        (.error (limiterError .resourceExhausted "rate_limit_exceeded"),
          keep (buckets.insert key bucket))
      else
        (.ok (), keep (buckets.insert key { bucket with
          availableMicroTokens := bucket.availableMicroTokens - UInt64.ofNat microUnitsPerToken }))
    match (limiter.buckets scope).find? key with
    | some bucket => draw (limiter.buckets scope) bucket
    | none =>
      let buckets := limiter.makeRoom scope now
      if buckets.size ≥ rule.maxKeys then
        (.error (limiterError .resourceExhausted "rate_limit_key_capacity_exhausted"), keep buckets)
      else draw buckets { availableMicroTokens := rule.fullMicro, lastRefill := now }

def prune (now : Int) : RelayRateLimiter :=
  { limiter with buckets := fun scope =>
      pruneBuckets (limiter.buckets scope) now limiter.policy.entryTtl }

end RelayRateLimiter

end Heyaki
