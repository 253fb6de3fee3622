/-
# Token buckets

The per-adapter token bucket and the map of per-tenant buckets layered on top of
it. Clock readings are inputs of each operation and arithmetic is exact: an
instant is a rational number of seconds, and the time between two readings
saturates at zero when the clock reading is the older one.
-/

import Mathlib.Data.List.MinMax
import Mathlib.Data.Prod.Lex
import Triton.Lib.Accrual
import Triton.Lib.Table

namespace Triton.Core

open Triton.Lib

/-- A reading of the monotone clock, in seconds. -/
abbrev Instant := ℚ

/-- Time from one reading to another, zero when it would be negative. -/
def durationSince (later earlier : Instant) : ℚ := max (later - earlier) 0

structure TokenBucket where
  rate : ℚ
  burst : ℚ
  tokens : ℚ
  lastRefill : Instant
  deriving DecidableEq, Repr

/-- The answer of a limiter: admitted, or the seconds to wait for a token. -/
abbrev Admission := Except (WithTop ℚ) Unit

namespace TokenBucket

/-- A full bucket. A burst of zero counts as one. -/
def new (messagesPerSec burst : ℕ) (now : Instant) : TokenBucket where
  rate := messagesPerSec
  burst := (max burst 1 : ℕ)
  tokens := (max burst 1 : ℕ)
  lastRefill := now

/-- Bring the tokens up to date with a clock reading. -/
def refill (bucket : TokenBucket) (now : Instant) : TokenBucket :=
  { bucket with
    tokens := accrue bucket.rate bucket.burst bucket.tokens (durationSince now bucket.lastRefill)
    lastRefill := now }

/-- Has the bucket refilled to capacity? Asking brings it up to date. -/
def isReplenished (bucket : TokenBucket) (now : Instant) : Bool × TokenBucket :=
  let bucket := bucket.refill now
  (decide (bucket.burst ≤ bucket.tokens), bucket)

/-- Seconds until one token, without end on a bucket that never refills. -/
def retryAfter (bucket : TokenBucket) : WithTop ℚ :=
  if 0 < bucket.rate then ((1 - bucket.tokens) / bucket.rate : ℚ) else ⊤

/-- Consume one token of a bucket that is up to date. -/
def consume (bucket : TokenBucket) : Admission × TokenBucket :=
  if 1 ≤ bucket.tokens then (.ok (), { bucket with tokens := bucket.tokens - 1 })
  else (.error bucket.retryAfter, bucket)

/-- The locked section of a call, with the reading taken before the lock. -/
def tryTake (bucket : TokenBucket) (now : Instant) : Admission × TokenBucket :=
  (bucket.refill now).consume

/-- What every bucket satisfies: the configuration is sensible and the tokens
stay between zero and the burst. -/
structure Valid (bucket : TokenBucket) : Prop where
  rate_nonneg : 0 ≤ bucket.rate
  one_le_burst : 1 ≤ bucket.burst
  tokens_nonneg : 0 ≤ bucket.tokens
  tokens_le : bucket.tokens ≤ bucket.burst

theorem durationSince_nonneg (later earlier : Instant) : 0 ≤ durationSince later earlier :=
  le_max_right _ _

theorem durationSince_of_le {later earlier : Instant} (ordered : earlier ≤ later) :
    durationSince later earlier = later - earlier :=
  max_eq_left (sub_nonneg.mpr ordered)

theorem valid_new (messagesPerSec burst : ℕ) (now : Instant) :
    (new messagesPerSec burst now).Valid := by
  have one_le : (1 : ℚ) ≤ (max burst 1 : ℕ) := by exact_mod_cast le_max_right burst 1
  exact ⟨Nat.cast_nonneg _, one_le, Nat.cast_nonneg _, le_refl _⟩

variable {bucket : TokenBucket}

theorem Valid.refill (valid : bucket.Valid) (now : Instant) :
    (bucket.refill now).Valid where
  rate_nonneg := valid.rate_nonneg
  one_le_burst := valid.one_le_burst
  tokens_nonneg := accrue_nonneg valid.tokens_nonneg (by linarith [valid.one_le_burst])
    valid.rate_nonneg (durationSince_nonneg _ _)
  tokens_le := accrue_le_ceiling

/-- The two ways to consume. -/
theorem consume_cases (bucket : TokenBucket) :
    (1 ≤ bucket.tokens ∧
      bucket.consume = (.ok (), { bucket with tokens := bucket.tokens - 1 })) ∨
    (bucket.tokens < 1 ∧ bucket.consume = (.error bucket.retryAfter, bucket)) := by
  by_cases paid : 1 ≤ bucket.tokens
  · exact .inl ⟨paid, if_pos paid⟩
  · exact .inr ⟨not_le.mp paid, if_neg paid⟩

theorem Valid.consume (valid : bucket.Valid) : bucket.consume.2.Valid := by
  have capped := valid.tokens_le
  rcases bucket.consume_cases with ⟨paid, admitted⟩ | ⟨_, refused⟩
  · rw [admitted]
    exact ⟨valid.rate_nonneg, valid.one_le_burst, sub_nonneg.mpr paid, by
      show bucket.tokens - 1 ≤ bucket.burst
      linarith⟩
  · rw [refused]
    exact valid

theorem Valid.tryTake (valid : bucket.Valid) (now : Instant) :
    (bucket.tryTake now).2.Valid := (valid.refill now).consume

/-- Refilling on the way to a later reading changes nothing there. -/
theorem refill_refill (valid : bucket.Valid) {first later : Instant}
    (started : bucket.lastRefill ≤ first) (ordered : first ≤ later) :
    (bucket.refill first).refill later = bucket.refill later := by
  have whole : first - bucket.lastRefill + (later - first) = later - bucket.lastRefill := by
    linarith
  simp only [refill, durationSince_of_le started, durationSince_of_le ordered,
    durationSince_of_le (started.trans ordered),
    accrue_accrue valid.rate_nonneg (sub_nonneg.mpr ordered), whole]

end TokenBucket

/-! ### One bucket per tenant -/

/-- Ceiling on distinct tenant buckets held at once. -/
def maxTenantBuckets : ℕ := 4096

structure Tracked where
  bucket : TokenBucket
  lastUsed : Instant
  deriving DecidableEq, Repr

structure PerTenantBuckets where
  rate : ℕ
  burst : ℕ
  buckets : Table String Tracked
  /-- Admissions refused because the map was full and no bucket safe to evict. -/
  mapFullRefusals : ℕ

/-- One call, with the clock readings taken while it runs: on entry, while each
bucket is asked whether it has replenished, when a bucket is created and when
the token is taken. `rank` is the order in which the map happens to be walked,
which breaks ties between victims. -/
structure TenantCall where
  tenant : String
  entered : Instant
  scanned : String → Instant
  created : Instant
  taken : Instant
  rank : String → ℕ
  entered_le_scanned : ∀ other, entered ≤ scanned other
  scanned_le_created : ∀ other, scanned other ≤ created
  created_le_taken : created ≤ taken

theorem TenantCall.entered_le_taken (call : TenantCall) : call.entered ≤ call.taken :=
  ((call.entered_le_scanned "").trans (call.scanned_le_created "")).trans call.created_le_taken

namespace PerTenantBuckets

def new (messagesPerSec burst : ℕ) : PerTenantBuckets := ⟨messagesPerSec, burst, ∅, 0⟩

variable (limiter : PerTenantBuckets) (call : TenantCall)

/-- Every other bucket is asked whether it has replenished, and so refilled. -/
def scan : Table String Tracked :=
  limiter.buckets.mapRows fun other tracked =>
    if other = call.tenant then tracked
    else { tracked with bucket := (tracked.bucket.isReplenished (call.scanned other)).2 }

/-- The least recently used among the other buckets that have replenished. -/
def victim : Option String :=
  let replenished := limiter.buckets.entries.filter fun entry =>
    entry.1 != call.tenant && (entry.2.bucket.isReplenished (call.scanned entry.1)).1
  (replenished.argmin fun entry => toLex (entry.2.lastUsed, call.rank entry.1)).map Sigma.fst

/-- Take a token from the tenant's bucket, created on first use. -/
def serve : Admission × PerTenantBuckets :=
  let tracked := (limiter.buckets.lookup call.tenant).getD
    ⟨.new limiter.rate limiter.burst call.created, call.entered⟩
  let (answer, bucket) := tracked.bucket.tryTake call.taken
  (answer, { limiter with buckets := limiter.buckets.insert call.tenant ⟨bucket, call.entered⟩ })

def tryTake : Admission × PerTenantBuckets :=
  if maxTenantBuckets ≤ limiter.buckets.keys.length ∧ call.tenant ∉ limiter.buckets then
    match limiter.victim call with
    | some evicted => serve { limiter with buckets := (limiter.scan call).erase evicted } call
    | none =>
      -- Every tracked tenant is still owed tokens: the newcomer waits.
      (.error 1,
        { limiter with
          buckets := limiter.scan call
          mapFullRefusals := limiter.mapFullRefusals + 1 })
  else serve limiter call

def trackedTenants : ℕ := limiter.buckets.keys.length

end PerTenantBuckets

end Triton.Core
