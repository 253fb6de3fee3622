/-
# The rate guarantee of one bucket under concurrency

Any number of calls share a bucket. A call reads the clock and, some time later
and in any order relative to the others, runs its locked section with that
reading. A section that runs with a reading older than the one stored moves the
refill time back, and the same stretch of time then pays for tokens twice. In a
window where no section does so, and none uses a reading from before the window,
admissions stay within the burst plus what the window's length refills.
-/

import Triton.Core.RateLimit
import Triton.Lib.Run

namespace Triton.Core

open Triton.Lib

/-- A bucket, the readings of the calls waiting for its lock, and the clock times
of the admissions so far. -/
structure SharedBucket where
  clock : Instant
  bucket : TokenBucket
  readings : List Instant
  admitted : List Instant
  deriving DecidableEq, Repr

/-- What happens next: time passes, a call reads the clock, or one of the waiting
calls runs its locked section. -/
inductive BucketMove where
  | tick (later : Instant)
  | read
  | lock (waiting : ℕ)
  deriving DecidableEq, Repr

namespace SharedBucket

def init (messagesPerSec burst : ℕ) (start : Instant) : SharedBucket :=
  ⟨start, .new messagesPerSec burst start, [], []⟩

/-- Run one locked section with the given reading. -/
def lockedSection (state : SharedBucket) (now : Instant) : SharedBucket :=
  let (answer, bucket) := state.bucket.tryTake now
  { state with
    bucket := bucket
    admitted :=
      match answer with
      | .ok () => state.admitted ++ [state.clock]
      | .error _ => state.admitted }

def step (state : SharedBucket) : BucketMove → SharedBucket
  | .tick later => { state with clock := max state.clock later }
  | .read => { state with readings := state.readings ++ [state.clock] }
  | .lock waiting =>
    match state.readings[waiting]? with
    | some now =>
      { state.lockedSection now with readings := state.readings.eraseIdx waiting }
    | none => state

/-- How many calls were admitted while the clock was in the window. -/
def admittedIn (state : SharedBucket) (t0 t1 : Instant) : ℕ :=
  state.admitted.countP fun moment => decide (t0 ≤ moment ∧ moment ≤ t1)

/-- A section that runs inside the window uses a reading from inside the window,
not older than the one stored. -/
def Fresh (t0 t1 : Instant) (state : SharedBucket) : BucketMove → Prop
  | .lock waiting =>
    ∀ now, state.readings[waiting]? = some now → t0 ≤ state.clock → state.clock ≤ t1 →
      t0 ≤ now ∧ state.bucket.lastRefill ≤ now
  | _ => True

/-- With `count` admissions in the window so far, what was spent and what is left
is covered by a full bucket and the refill since the window began. -/
def Covered (t0 : Instant) (state : SharedBucket) (count : ℕ) : Prop :=
  t0 ≤ state.bucket.lastRefill ∧ state.bucket.lastRefill ≤ state.clock ∧
    count + state.bucket.tokens ≤
      state.bucket.burst + (state.bucket.lastRefill - t0) * state.bucket.rate

structure Within (messagesPerSec burst : ℕ) (t0 t1 : Instant) (state : SharedBucket) : Prop where
  valid : state.bucket.Valid
  rate_eq : state.bucket.rate = messagesPerSec
  burst_eq : state.bucket.burst = (max burst 1 : ℕ)
  readings_le : ∀ reading ∈ state.readings, reading ≤ state.clock
  admitted_le : ∀ moment ∈ state.admitted, moment ≤ state.clock
  covered : state.clock ≤ t1 →
    state.admittedIn t0 t1 = 0 ∨ Covered t0 state (state.admittedIn t0 t1)
  bounded : (state.admittedIn t0 t1 : ℚ) ≤
    (max burst 1 : ℕ) + messagesPerSec * (t1 - t0)

variable {messagesPerSec burst : ℕ} {t0 t1 : Instant} {state : SharedBucket}

/-- The two ways a locked section can end. -/
theorem lockedSection_cases (state : SharedBucket) (now : Instant) :
    (1 ≤ (state.bucket.refill now).tokens ∧
      state.lockedSection now =
        { state with
          bucket := { state.bucket.refill now with tokens := (state.bucket.refill now).tokens - 1 }
          admitted := state.admitted ++ [state.clock] }) ∨
    state.lockedSection now = { state with bucket := state.bucket.refill now } := by
  rcases (state.bucket.refill now).consume_cases with ⟨paid, admitted⟩ | ⟨_, refused⟩
  · exact .inl ⟨paid, by simp [lockedSection, TokenBucket.tryTake, admitted]⟩
  · exact .inr (by simp [lockedSection, TokenBucket.tryTake, refused])

theorem admittedIn_eq_zero_of_early (early : state.clock < t0)
    (past : ∀ moment ∈ state.admitted, moment ≤ state.clock) : state.admittedIn t0 t1 = 0 := by
  rw [admittedIn, List.countP_eq_zero]
  intro moment member
  have before := past moment member
  simp only [decide_eq_true_eq, not_and]
  intro inside
  linarith

/-- An admission counts when the clock is in the window. -/
theorem countP_concat (admitted : List Instant) (clock : Instant) :
    (admitted ++ [clock]).countP (fun moment => decide (t0 ≤ moment ∧ moment ≤ t1)) =
      admitted.countP (fun moment => decide (t0 ≤ moment ∧ moment ≤ t1)) +
        if t0 ≤ clock ∧ clock ≤ t1 then 1 else 0 := by
  rw [List.countP_append, List.countP_singleton]
  simp

/-- After a refill the admissions so far and the tokens left are covered up to
the reading. -/
theorem funds_refill (within : Within messagesPerSec burst t0 t1 state) (inTime : state.clock ≤ t1)
    {now : Instant} (inside : t0 ≤ now) (current : state.bucket.lastRefill ≤ now) :
    state.admittedIn t0 t1 + (state.bucket.refill now).tokens ≤
      state.bucket.burst + (now - t0) * state.bucket.rate := by
  have steady := within.valid.rate_nonneg
  have capped : (state.bucket.refill now).tokens ≤ state.bucket.burst := accrue_le_ceiling
  have gained : (state.bucket.refill now).tokens ≤
      state.bucket.tokens + (now - state.bucket.lastRefill) * state.bucket.rate := by
    rw [← TokenBucket.durationSince_of_le current]
    exact accrue_le
  rcases within.covered inTime with unspent | ⟨_, _, spent⟩
  · have gain := mul_nonneg (sub_nonneg.mpr inside) steady
    rw [unspent, Nat.cast_zero, zero_add]
    linarith
  · linarith

/-- A fresh section in the window stays covered. -/
theorem covered_lockedSection (within : Within messagesPerSec burst t0 t1 state)
    (started : t0 ≤ state.clock) (inTime : state.clock ≤ t1) {now : Instant} (inside : t0 ≤ now)
    (current : state.bucket.lastRefill ≤ now) (past : now ≤ state.clock) :
    Covered t0 (state.lockedSection now) ((state.lockedSection now).admittedIn t0 t1) := by
  have funds := funds_refill within inTime inside current
  rcases state.lockedSection_cases now with ⟨_, ended⟩ | ended
  · rw [ended]
    refine ⟨inside, past, ?_⟩
    simp only [admittedIn, countP_concat, if_pos (And.intro started inTime), Nat.cast_add,
      Nat.cast_one]
    rw [admittedIn] at funds
    show _ ≤ state.bucket.burst + (now - t0) * state.bucket.rate
    linarith
  · rw [ended]
    exact ⟨inside, past, funds⟩

theorem bounded_of_covered {count : ℕ} (valid : state.bucket.Valid) (inTime : state.clock ≤ t1)
    (covered : Covered t0 state count) :
    (count : ℚ) ≤ state.bucket.burst + state.bucket.rate * (t1 - t0) := by
  obtain ⟨_, past, spent⟩ := covered
  have left := valid.tokens_nonneg
  have refilled : (state.bucket.lastRefill - t0) * state.bucket.rate ≤
      (t1 - t0) * state.bucket.rate :=
    mul_le_mul_of_nonneg_right (by linarith) valid.rate_nonneg
  linarith

/-- A section that runs outside the window does not count. -/
theorem admittedIn_lockedSection_of_outside (outside : ¬ (t0 ≤ state.clock ∧ state.clock ≤ t1))
    (now : Instant) : (state.lockedSection now).admittedIn t0 t1 = state.admittedIn t0 t1 := by
  rcases state.lockedSection_cases now with ⟨_, ended⟩ | ended
  · simp only [ended, admittedIn, countP_concat, if_neg outside, Nat.add_zero]
  · rw [ended]
    rfl

theorem rate_lockedSection (state : SharedBucket) (now : Instant) :
    (state.lockedSection now).bucket.rate = state.bucket.rate ∧
      (state.lockedSection now).bucket.burst = state.bucket.burst := by
  rcases state.lockedSection_cases now with ⟨_, ended⟩ | ended <;> rw [ended] <;>
    exact ⟨rfl, rfl⟩

theorem within_lockedSection (within : Within messagesPerSec burst t0 t1 state) {now : Instant}
    (past : now ≤ state.clock)
    (fresh : t0 ≤ state.clock → state.clock ≤ t1 → t0 ≤ now ∧ state.bucket.lastRefill ≤ now) :
    Within messagesPerSec burst t0 t1 (state.lockedSection now) := by
  obtain ⟨sameRate, sameBurst⟩ := rate_lockedSection state now
  have valid : (state.lockedSection now).bucket.Valid := within.valid.tryTake now
  have admitted_le : ∀ moment ∈ (state.lockedSection now).admitted, moment ≤ state.clock := by
    rcases state.lockedSection_cases now with ⟨_, ended⟩ | ended
    · rw [ended]
      intro moment member
      rcases List.mem_append.mp member with earlier | last
      · exact within.admitted_le moment earlier
      · rw [List.mem_singleton.mp last]
    · rw [ended]
      exact within.admitted_le
  by_cases window : t0 ≤ state.clock ∧ state.clock ≤ t1
  · obtain ⟨inside, current⟩ := fresh window.1 window.2
    have covered := covered_lockedSection within window.1 window.2 inside current past
    have bounded := bounded_of_covered valid window.2 covered
    rw [sameRate, sameBurst, within.rate_eq, within.burst_eq] at bounded
    exact ⟨valid, sameRate.trans within.rate_eq, sameBurst.trans within.burst_eq,
      within.readings_le, admitted_le, fun _ => .inr covered, bounded⟩
  · have same := admittedIn_lockedSection_of_outside window now
    refine ⟨valid, sameRate.trans within.rate_eq, sameBurst.trans within.burst_eq,
      within.readings_le, admitted_le, ?_, by rw [same]; exact within.bounded⟩
    intro inTime
    have early : state.clock < t0 := not_le.mp fun started => window ⟨started, inTime⟩
    exact .inl (admittedIn_eq_zero_of_early early admitted_le)

theorem within_step (within : Within messagesPerSec burst t0 t1 state) (move : BucketMove)
    (fresh : Fresh t0 t1 state move) : Within messagesPerSec burst t0 t1 (state.step move) := by
  cases move with
  | tick later =>
    have forward : state.clock ≤ max state.clock later := le_max_left _ _
    refine ⟨within.valid, within.rate_eq, within.burst_eq,
      fun reading member => (within.readings_le reading member).trans forward,
      fun moment member => (within.admitted_le moment member).trans forward, ?_,
      within.bounded⟩
    intro inTime
    rcases within.covered (forward.trans inTime) with unspent | ⟨inside, past, spent⟩
    · exact .inl unspent
    · exact .inr ⟨inside, past.trans forward, spent⟩
  | read =>
    refine ⟨within.valid, within.rate_eq, within.burst_eq, ?_, within.admitted_le,
      within.covered, within.bounded⟩
    intro reading member
    rcases List.mem_append.mp member with earlier | last
    · exact within.readings_le reading earlier
    · rw [List.mem_singleton.mp last]
      exact le_refl state.clock
  | lock waiting =>
    cases found : state.readings[waiting]? with
    | none =>
      rw [step, found]
      exact within
    | some now =>
      have past := within.readings_le now (List.mem_of_getElem? found)
      have after := within_lockedSection within past (fresh now found)
      rw [step, found]
      exact ⟨after.valid, after.rate_eq, after.burst_eq,
        fun reading member => within.readings_le reading (List.mem_of_mem_eraseIdx member),
        after.admitted_le, after.covered, after.bounded⟩

/-- In every interleaving whose sections inside the window are fresh, the window
admits no more calls than the burst and what its length refills. -/
theorem admittedIn_le_of_fresh (messagesPerSec burst : ℕ) (start : Instant)
    (moves : List BucketMove) {t0 t1 : Instant} (ordered : t0 ≤ t1)
    (fresh : EveryStep step (Fresh t0 t1) (init messagesPerSec burst start) moves) :
    ((run step (init messagesPerSec burst start) moves).admittedIn t0 t1 : ℚ) ≤
      (max burst 1 : ℕ) + messagesPerSec * (t1 - t0) := by
  have preserved : ∀ state move, Within messagesPerSec burst t0 t1 state →
      Fresh t0 t1 state move → Within messagesPerSec burst t0 t1 (step state move) :=
    fun _ move within fresh => within_step within move fresh
  have initial : Within messagesPerSec burst t0 t1 (init messagesPerSec burst start) :=
    { valid := TokenBucket.valid_new messagesPerSec burst start
      rate_eq := rfl
      burst_eq := rfl
      readings_le := by simp [init]
      admitted_le := by simp [init]
      covered := fun _ => .inl rfl
      bounded := by
        have window : (0 : ℚ) ≤ messagesPerSec * (t1 - t0) :=
          mul_nonneg (Nat.cast_nonneg _) (sub_nonneg.mpr ordered)
        have room : (0 : ℚ) ≤ (max burst 1 : ℕ) := Nat.cast_nonneg _
        show ((0 : ℕ) : ℚ) ≤ _
        rw [Nat.cast_zero]
        linarith }
  exact (run_invariant preserved initial fresh).bounded

/-- Two calls that both read the clock before either takes its token. Both are admitted,
and the window allows no more. -/
theorem two_calls_within_rate :
    let after := run step (init 1 1 0) [.read, .tick 1, .read, .lock 0, .lock 0]
    after.admittedIn 0 1 = 2 ∧
      (after.admittedIn 0 1 : ℚ) ≤ (max 1 1 : ℕ) + (1 : ℕ) * (1 - 0) := by
  intro after
  refine ⟨by decide +kernel, admittedIn_le_of_fresh 1 1 0 _ (by decide +kernel)
    ⟨trivial, trivial, trivial, ?_, ?_, trivial⟩⟩
  · intro now found _ _
    obtain rfl : (0 : ℚ) = now := Option.some.inj found
    decide +kernel
  · intro now found _ _
    obtain rfl : (max 0 1 : ℚ) = now := Option.some.inj found
    decide +kernel

/-- A call that read the clock at 0 runs its section after one that read it at
10: the refill time moves back to 0, and the ten seconds pay for a second token
at the same instant. -/
theorem overtaken_reading_admits_twice :
    (run step (init 1 1 0) [.read, .tick 10, .read, .lock 1, .lock 0, .read, .lock 0]).admittedIn
        10 10 = 2 ∧
      ¬ ((2 : ℕ) : ℚ) ≤ (max 1 1 : ℕ) + (1 : ℕ) * (10 - 10) := by
  decide +kernel

end SharedBucket

end Triton.Core
