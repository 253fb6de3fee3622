/-
# Eviction is not a reset

The map of tenant buckets is bounded: at its ceiling it gives up a bucket to make
room for a newcomer. It only gives up a bucket that has refilled to capacity, and
such a bucket is indistinguishable from one that does not exist yet. Compared
with a map that never evicts, a tenant therefore gets the same answers, except
where the bounded map refuses because it is full.
-/

import Triton.Core.RateLimit
import Triton.Lib.Run

namespace Triton.Core

open Triton.Lib

/-- One bucket per tenant, created on first use and never evicted. -/
abbrev UnboundedBuckets := String → Option TokenBucket

def UnboundedBuckets.tryTake (rate burst : ℕ) (buckets : UnboundedBuckets) (call : TenantCall) :
    Admission × UnboundedBuckets :=
  let (answer, bucket) :=
    ((buckets call.tenant).getD (.new rate burst call.created)).tryTake call.taken
  (answer, Function.update buckets call.tenant (some bucket))

namespace PerTenantBuckets

/-- The map is full, the tenant is new to it, and no bucket may be given up. -/
def Saturated (limiter : PerTenantBuckets) (call : TenantCall) : Prop :=
  maxTenantBuckets ≤ limiter.trackedTenants ∧ call.tenant ∉ limiter.buckets ∧
    limiter.victim call = none

instance (limiter : PerTenantBuckets) (call : TenantCall) :
    Decidable (limiter.Saturated call) := inferInstanceAs (Decidable (_ ∧ _ ∧ _))

end PerTenantBuckets

/-- The limiter beside the map that never evicts, with the latest clock reading. -/
structure Compared where
  limiter : PerTenantBuckets
  unbounded : UnboundedBuckets
  clock : Instant

namespace Compared

def init (messagesPerSec burst : ℕ) (start : Instant) : Compared :=
  ⟨.new messagesPerSec burst, fun _ => none, start⟩

/-- Both sides serve the call, unless it meets a full map. -/
def step (state : Compared) (call : TenantCall) : Compared where
  limiter := (state.limiter.tryTake call).2
  unbounded :=
    if state.limiter.Saturated call then state.unbounded
    else (state.unbounded.tryTake state.limiter.rate state.limiter.burst call).2
  clock := call.taken

/-- The call begins no earlier than the last one ended. -/
def Timed (state : Compared) (call : TenantCall) : Prop := state.clock ≤ call.entered

/-- The bound on the map, and the answer: a refusal from a full map, else that of the
map that never evicts. -/
structure Fair (state : Compared) (call : TenantCall) : Prop where
  bounded : (state.limiter.tryTake call).2.trackedTenants ≤ maxTenantBuckets
  refused : state.limiter.Saturated call → (state.limiter.tryTake call).1 = .error 1
  answer : ¬ state.limiter.Saturated call → (state.limiter.tryTake call).1 =
    (state.unbounded.tryTake state.limiter.rate state.limiter.burst call).1

end Compared

/-! ### A missing bucket is a full one -/

namespace TokenBucket

variable {rate burst : ℕ}

theorem refill_new (rate burst : ℕ) (created now : Instant) :
    (new rate burst created).refill now = new rate burst now := by
  simp only [refill, new, accrue_ceiling (Nat.cast_nonneg rate) (durationSince_nonneg _ _)]

/-- The bucket at a clock reading; one that does not exist yet is full. -/
def upToDate (rate burst : ℕ) (bucket : Option TokenBucket) (now : Instant) : TokenBucket :=
  (bucket.getD (.new rate burst now)).refill now

theorem upToDate_none (now : Instant) : upToDate rate burst none now = new rate burst now :=
  refill_new rate burst now now

/-- A call sees of a bucket only what it is at the reading it takes its token
with. -/
theorem tryTake_getD (bucket : Option TokenBucket) (created taken : Instant) :
    (bucket.getD (.new rate burst created)).tryTake taken =
      (upToDate rate burst bucket taken).consume := by
  cases bucket with
  | none =>
    rw [upToDate_none, Option.getD_none, tryTake, refill_new]
  | some bucket => rfl

/-- A bucket of this configuration, refilled no later than the clock. -/
structure Kept (rate burst : ℕ) (clock : Instant) (bucket : TokenBucket) : Prop where
  valid : bucket.Valid
  rate_eq : bucket.rate = rate
  burst_eq : bucket.burst = (max burst 1 : ℕ)
  lastRefill_le : bucket.lastRefill ≤ clock

variable {clock : Instant} {bucket : TokenBucket}

theorem Kept.later (kept : bucket.Kept rate burst clock) {later : Instant}
    (ordered : clock ≤ later) : bucket.Kept rate burst later :=
  ⟨kept.valid, kept.rate_eq, kept.burst_eq, kept.lastRefill_le.trans ordered⟩

theorem Kept.refill (kept : bucket.Kept rate burst clock) (now : Instant) :
    (bucket.refill now).Kept rate burst now :=
  ⟨kept.valid.refill now, kept.rate_eq, kept.burst_eq, le_refl _⟩

theorem Kept.consume (kept : bucket.Kept rate burst clock) :
    bucket.consume.2.Kept rate burst clock := by
  have valid := kept.valid.consume
  rcases bucket.consume_cases with ⟨_, taken⟩ | ⟨_, taken⟩
  · rw [taken] at valid ⊢
    exact ⟨valid, kept.rate_eq, kept.burst_eq, kept.lastRefill_le⟩
  · rw [taken]
    exact kept

theorem kept_upToDate {bucket : Option TokenBucket}
    (kept : ∀ b ∈ bucket, b.Kept rate burst clock) (now : Instant) :
    (upToDate rate burst bucket now).Kept rate burst now := by
  cases bucket with
  | none =>
    rw [upToDate_none]
    exact ⟨valid_new rate burst now, rfl, rfl, le_refl _⟩
  | some bucket => exact (kept bucket rfl).refill now

/-- A bucket at capacity is a new one. -/
theorem Kept.eq_new (kept : bucket.Kept rate burst clock) (full : bucket.burst ≤ bucket.tokens) :
    bucket = new rate burst bucket.lastRefill := by
  have level := le_antisymm kept.valid.tokens_le full
  obtain ⟨rate', burst', tokens, lastRefill⟩ := bucket
  simp only [new, TokenBucket.mk.injEq, and_true]
  exact ⟨kept.rate_eq, kept.burst_eq, level.trans kept.burst_eq⟩

end TokenBucket

/-! ### The two maps agree from now on -/

/-- The bucket a map holds for a tenant. -/
def held (buckets : Table String Tracked) (tenant : String) : Option TokenBucket :=
  (buckets.lookup tenant).map Tracked.bucket

/-- Every bucket held is in order, and from the clock on each tenant's bucket is
what the map that never evicts has for it. -/
structure Agree (rate burst : ℕ) (clock : Instant) (buckets : Table String Tracked)
    (unbounded : UnboundedBuckets) : Prop where
  kept : ∀ tenant, ∀ bucket ∈ held buckets tenant, bucket.Kept rate burst clock
  same : ∀ tenant now, clock ≤ now →
    TokenBucket.upToDate rate burst (held buckets tenant) now =
      TokenBucket.upToDate rate burst (unbounded tenant) now

/-- What may happen to a bucket while a call is served to another tenant: nothing,
a refill at some reading, or its removal when that refill filled it. -/
def Passed (clock later : Instant) (before after : Option TokenBucket) : Prop :=
  after = before ∨ ∃ bucket reading, before = some bucket ∧ clock ≤ reading ∧ reading ≤ later ∧
    (after = some (bucket.refill reading) ∨
      after = none ∧ bucket.burst ≤ (bucket.refill reading).tokens)

namespace Agree

variable {rate burst : ℕ} {clock : Instant} {buckets : Table String Tracked}
  {unbounded : UnboundedBuckets}

theorem init (rate burst : ℕ) (start : Instant) : Agree rate burst start ∅ fun _ => none where
  kept := by simp [held]
  same tenant now _ := rfl

theorem later (agree : Agree rate burst clock buckets unbounded) {later : Instant}
    (ordered : clock ≤ later) : Agree rate burst later buckets unbounded where
  kept tenant bucket member := (agree.kept tenant bucket member).later ordered
  same tenant now past := agree.same tenant now (ordered.trans past)

/-- A map that holds, for each tenant, the same bucket refilled on the way or
nothing in place of a full one agrees as well. -/
theorem of_held {other : Table String Tracked} {later : Instant}
    (agree : Agree rate burst clock buckets unbounded)
    (change : ∀ tenant, Passed clock later (held buckets tenant) (held other tenant))
    (ordered : clock ≤ later) : Agree rate burst later other unbounded where
  kept tenant bucket member := by
    rcases change tenant with same | ⟨before, reading, found, _, soon, refilled | ⟨gone, _⟩⟩
    · rw [same] at member
      exact (agree.kept tenant bucket member).later ordered
    · rw [refilled] at member
      cases member
      exact ((agree.kept tenant before found).refill reading).later soon
    · rw [gone] at member
      cases member
  same tenant now past := by
    rw [← agree.same tenant now (ordered.trans past)]
    rcases change tenant with same | ⟨bucket, reading, found, started, soon, outcome⟩
    · rw [same]
    · have kept := agree.kept tenant bucket found
      have whole : (bucket.refill reading).refill now = bucket.refill now :=
        TokenBucket.refill_refill kept.valid (kept.lastRefill_le.trans started)
          (soon.trans past)
      rw [found]
      rcases outcome with refilled | ⟨gone, full⟩
      · rw [refilled]
        exact whole
      · -- At capacity the bucket is a new one, which is what a missing one is.
        have fresh := (kept.refill reading).eq_new full
        rw [gone, TokenBucket.upToDate_none]
        show _ = bucket.refill now
        rw [← whole, fresh, TokenBucket.refill_new]

end Agree

theorem held_insert (buckets : Table String Tracked) (tenant other : String) (tracked : Tracked) :
    held (buckets.insert tenant tracked) other =
      if other = tenant then some tracked.bucket else held buckets other := by
  rw [held, Table.lookup_insert_eq]
  split <;> rfl

theorem PerTenantBuckets.serve_eq (limiter : PerTenantBuckets) (call : TenantCall) :
    let taken := (TokenBucket.upToDate limiter.rate limiter.burst
      (held limiter.buckets call.tenant) call.taken).consume
    limiter.serve call =
      (taken.1,
        { limiter with
          buckets := limiter.buckets.insert call.tenant ⟨taken.2, call.entered⟩ }) := by
  have bucket : ((limiter.buckets.lookup call.tenant).getD
      ⟨.new limiter.rate limiter.burst call.created, call.entered⟩).bucket =
        (held limiter.buckets call.tenant).getD (.new limiter.rate limiter.burst call.created) := by
    unfold held
    cases limiter.buckets.lookup call.tenant <;> rfl
  simp only [serve, bucket, TokenBucket.tryTake_getD]

namespace Agree

variable {rate burst : ℕ} {clock : Instant} {buckets : Table String Tracked}
  {unbounded : UnboundedBuckets}

/-- Serving a call gives the same answer on both sides and keeps the agreement. -/
theorem serve {limiter : PerTenantBuckets} {call : TenantCall}
    (agree : Agree limiter.rate limiter.burst clock limiter.buckets unbounded)
    (ordered : clock ≤ call.taken) :
    (limiter.serve call).1 = (unbounded.tryTake limiter.rate limiter.burst call).1 ∧
      Agree limiter.rate limiter.burst call.taken (limiter.serve call).2.buckets
        (unbounded.tryTake limiter.rate limiter.burst call).2 := by
  have seen := agree.same call.tenant call.taken ordered
  have taken : (TokenBucket.upToDate limiter.rate limiter.burst (held limiter.buckets call.tenant)
      call.taken).Kept limiter.rate limiter.burst call.taken :=
    TokenBucket.kept_upToDate (agree.kept call.tenant) call.taken
  rw [PerTenantBuckets.serve_eq, UnboundedBuckets.tryTake, TokenBucket.tryTake_getD, ← seen]
  refine ⟨rfl, ?_, ?_⟩
  · intro tenant bucket member
    rw [held_insert] at member
    split at member
    · cases member
      exact taken.consume
    · exact (agree.kept tenant bucket member).later ordered
  · intro tenant now past
    simp only [held_insert, Function.update_apply]
    split
    · rfl
    · exact agree.same tenant now (ordered.trans past)

end Agree

/-! ### Making room -/

namespace PerTenantBuckets

variable {limiter : PerTenantBuckets} {call : TenantCall}

/-- A victim is another tenant's bucket that was full when it was asked. -/
theorem victim_spec {evicted : String} (chosen : limiter.victim call = some evicted) :
    ∃ bucket, held limiter.buckets evicted = some bucket ∧
      bucket.burst ≤ (bucket.refill (call.scanned evicted)).tokens := by
  obtain ⟨⟨tenant, tracked⟩, least, rfl⟩ := Option.map_eq_some_iff.mp chosen
  have member := List.argmin_mem (Option.mem_def.mpr least)
  rw [List.mem_filter, Bool.and_eq_true] at member
  obtain ⟨stored, _, replenished⟩ := member
  have found : limiter.buckets.lookup tenant = some tracked :=
    List.mem_dlookup limiter.buckets.nodupKeys stored
  exact ⟨tracked.bucket, by rw [held, found]; rfl, of_decide_eq_true replenished⟩

section Room

variable {rate burst : ℕ} {clock : Instant} {unbounded : UnboundedBuckets}

theorem clock_le_created (timed : clock ≤ call.entered) : clock ≤ call.created :=
  (timed.trans (call.entered_le_scanned "")).trans (call.scanned_le_created "")

/-- Asking the buckets refills those of the other tenants. -/
theorem passed_scan (limiter : PerTenantBuckets) (timed : clock ≤ call.entered) (tenant : String) :
    Passed clock call.created (held limiter.buckets tenant) (held (limiter.scan call) tenant) := by
  rw [held, held, scan, Table.lookup_mapRows]
  cases limiter.buckets.lookup tenant with
  | none => exact .inl rfl
  | some tracked =>
    by_cases own : tenant = call.tenant
    · left
      simp [own]
    · right
      exact ⟨tracked.bucket, call.scanned tenant, rfl,
        timed.trans (call.entered_le_scanned tenant), call.scanned_le_created tenant,
        .inl (by simp [own, TokenBucket.isReplenished])⟩

/-- So does giving up a bucket that has replenished. -/
theorem agree_evict (agree : Agree rate burst clock limiter.buckets unbounded)
    (timed : clock ≤ call.entered) {evicted : String}
    (chosen : limiter.victim call = some evicted) :
    Agree rate burst call.created ((limiter.scan call).erase evicted) unbounded := by
  apply agree.of_held _ (clock_le_created timed)
  intro tenant
  have erased : held ((limiter.scan call).erase evicted) tenant =
      if tenant = evicted then none else held (limiter.scan call) tenant := by
    rw [held, Table.lookup_erase_eq]
    split <;> rfl
  rw [erased]
  split
  · rename_i gone
    obtain ⟨bucket, found, full⟩ := victim_spec chosen
    subst gone
    exact .inr ⟨bucket, call.scanned tenant, found, timed.trans (call.entered_le_scanned tenant),
      call.scanned_le_created tenant, .inr ⟨rfl, full⟩⟩
  · exact passed_scan limiter timed tenant

end Room

/-- The three ways a call can go. -/
theorem tryTake_cases (limiter : PerTenantBuckets) (call : TenantCall) :
    (∃ evicted, limiter.victim call = some evicted ∧
      limiter.tryTake call =
        serve { limiter with buckets := (limiter.scan call).erase evicted } call) ∨
    (limiter.Saturated call ∧ limiter.tryTake call =
      (.error 1,
        { limiter with
          buckets := limiter.scan call
          mapFullRefusals := limiter.mapFullRefusals + 1 })) ∨
    ((call.tenant ∈ limiter.buckets ∨ limiter.buckets.keys.length < maxTenantBuckets) ∧
      limiter.tryTake call = limiter.serve call) := by
  unfold tryTake
  by_cases full : maxTenantBuckets ≤ limiter.buckets.keys.length ∧ call.tenant ∉ limiter.buckets
  · rw [if_pos full]
    cases chosen : limiter.victim call with
    | none => exact .inr (.inl ⟨⟨full.1, full.2, chosen⟩, rfl⟩)
    | some evicted => exact .inl ⟨evicted, rfl, rfl⟩
  · rw [if_neg full]
    refine .inr (.inr ⟨?_, rfl⟩)
    by_cases present : call.tenant ∈ limiter.buckets
    · exact .inl present
    · exact .inr (not_le.mp fun reached => full ⟨reached, present⟩)

theorem length_evict {evicted : String} (chosen : limiter.victim call = some evicted) :
    ((limiter.scan call).erase evicted).keys.length + 1 = limiter.buckets.keys.length := by
  obtain ⟨bucket, found, _⟩ := victim_spec chosen
  have stored : evicted ∈ limiter.scan call := by
    rw [← AList.lookup_isSome, scan, Table.lookup_mapRows, Option.isSome_map]
    rw [held, Option.map_eq_some_iff] at found
    obtain ⟨tracked, lookup, _⟩ := found
    rw [lookup]
    rfl
  rw [Table.length_keys_erase_of_mem stored, scan, Table.keys_mapRows]

end PerTenantBuckets

namespace Compared

/-- The limiter keeps its configuration, its bound, and the agreement with the
map that never evicts. -/
structure Sound (messagesPerSec burst : ℕ) (state : Compared) : Prop where
  rate_eq : state.limiter.rate = messagesPerSec
  burst_eq : state.limiter.burst = burst
  bounded : state.limiter.buckets.keys.length ≤ maxTenantBuckets
  agree : Agree messagesPerSec burst state.clock state.limiter.buckets state.unbounded

variable {messagesPerSec burst : ℕ} {state : Compared} {call : TenantCall}

theorem sound_init (messagesPerSec burst : ℕ) (start : Instant) :
    Sound messagesPerSec burst (init messagesPerSec burst start) :=
  ⟨rfl, rfl, Nat.zero_le _, Agree.init messagesPerSec burst start⟩

/-- A call that is served, perhaps after making room, is served fairly. -/
theorem fair_of_served (limiter : PerTenantBuckets)
    (served : state.limiter.tryTake call = limiter.serve call)
    (rate_eq : limiter.rate = state.limiter.rate) (burst_eq : limiter.burst = state.limiter.burst)
    (free : ¬ state.limiter.Saturated call)
    (bounded : limiter.buckets.keys.length ≤ maxTenantBuckets)
    (room : call.tenant ∈ limiter.buckets ∨ limiter.buckets.keys.length < maxTenantBuckets)
    {clock : Instant} (ordered : clock ≤ call.taken)
    (agree : Agree limiter.rate limiter.burst clock limiter.buckets state.unbounded) :
    Fair state call ∧ Sound limiter.rate limiter.burst (state.step call) := by
  obtain ⟨answer, after⟩ := agree.serve ordered
  have size : (limiter.serve call).2.trackedTenants ≤ maxTenantBuckets := by
    rw [PerTenantBuckets.serve_eq]
    show (limiter.buckets.insert call.tenant _).keys.length ≤ maxTenantBuckets
    by_cases present : call.tenant ∈ limiter.buckets
    · rw [Table.length_keys_insert_of_mem present]
      exact bounded
    · rw [Table.length_keys_insert_of_notMem present]
      exact room.resolve_left present
  constructor
  · exact ⟨by rw [served]; exact size, fun full => absurd full free, fun _ => by
      rw [served, answer, rate_eq, burst_eq]⟩
  · refine ⟨?_, ?_, ?_, ?_⟩
    · rw [step, served, PerTenantBuckets.serve_eq]
    · rw [step, served, PerTenantBuckets.serve_eq]
    · rw [step, served]
      exact size
    · rw [step, served, if_neg free, ← rate_eq, ← burst_eq]
      exact after

theorem fair_and_sound (sound : Sound messagesPerSec burst state) (timed : Timed state call) :
    Fair state call ∧ Sound messagesPerSec burst (state.step call) := by
  obtain ⟨rfl, rfl, bounded, agree⟩ := sound
  rcases state.limiter.tryTake_cases call with
    ⟨evicted, chosen, served⟩ | ⟨full, refused⟩ | ⟨room, served⟩
  · have shorter := PerTenantBuckets.length_evict chosen
    have fits : ((state.limiter.scan call).erase evicted).keys.length < maxTenantBuckets := by
      omega
    have free : ¬ state.limiter.Saturated call := fun full => by
      rw [full.2.2] at chosen
      cases chosen
    exact fair_of_served { state.limiter with buckets := (state.limiter.scan call).erase evicted }
      served rfl rfl free fits.le (.inr fits) call.created_le_taken
      (PerTenantBuckets.agree_evict agree timed chosen)
  · have size : (state.limiter.tryTake call).2.trackedTenants ≤ maxTenantBuckets := by
      rw [refused]
      show (state.limiter.scan call).keys.length ≤ maxTenantBuckets
      rw [PerTenantBuckets.scan, Table.keys_mapRows]
      exact bounded
    refine ⟨⟨size, fun _ => by rw [refused], fun free => absurd full free⟩, ?_, ?_, size, ?_⟩
    · rw [step, refused]
    · rw [step, refused]
    · rw [step, refused, if_pos full]
      exact (agree.of_held (PerTenantBuckets.passed_scan _ timed)
        (PerTenantBuckets.clock_le_created timed)).later call.created_le_taken
  · have free : ¬ state.limiter.Saturated call := fun full =>
      room.elim full.2.1 fun below => below.not_ge full.1
    exact fair_of_served state.limiter served rfl rfl free bounded room
      (timed.trans call.entered_le_taken) agree

/-- Along every timed sequence of calls the map stays within its ceiling, and
each call is refused for a full map or answered as by the map that never
evicts. -/
theorem fair_throughout (messagesPerSec burst : ℕ) (start : Instant) (calls : List TenantCall)
    (timed : EveryStep step Timed (init messagesPerSec burst start) calls) :
    EveryStep step Fair (init messagesPerSec burst start) calls := by
  have preserved : ∀ state call, Sound messagesPerSec burst state → Timed state call →
      Sound messagesPerSec burst (step state call) :=
    fun _ _ sound timed => (fair_and_sound sound timed).2
  exact everyStep_of_invariant preserved (fun _ _ sound timed => (fair_and_sound sound timed).1)
    (sound_init messagesPerSec burst start) timed

/-- A call during which the clock does not move. -/
def promptCall (tenant : String) (now : Instant) : TenantCall where
  tenant := tenant
  entered := now
  scanned _ := now
  created := now
  taken := now
  rank _ := 0
  entered_le_scanned _ := le_refl _
  scanned_le_created _ := le_refl _
  created_le_taken := le_refl _

/-! ### A flood -/

/-- The names of a flood: `a`, `aa`, `aaa` and so on. -/
def floodTenant (n : ℕ) : String := String.ofList (List.replicate n 'a')

/-- So many calls at the start, each for a tenant of its own. -/
def flood (n : ℕ) : List TenantCall := (List.range n).map fun i => promptCall (floodTenant i) 0

theorem flood_succ (n : ℕ) : flood (n + 1) = flood n ++ [promptCall (floodTenant n) 0] := by
  rw [flood, List.range_succ, List.map_append]
  rfl

/-- So many tenants are held, and each has spent its only token. -/
structure Flooded (n : ℕ) (state : Compared) : Prop where
  config : state.limiter.rate = 1 ∧ state.limiter.burst = 1
  clock : state.clock = 0
  tracked : state.limiter.trackedTenants = n
  new : ∀ i, n ≤ i → floodTenant i ∉ state.limiter.buckets
  spent : ∀ entry ∈ state.limiter.buckets.entries, entry.2.bucket = ⟨1, 1, 0, 0⟩

variable {n : ℕ}

theorem flooded_step (flooded : Flooded n state) (room : n < maxTenantBuckets) :
    Flooded (n + 1) (step state (promptCall (floodTenant n) 0)) := by
  obtain ⟨⟨rate, burst⟩, clock, tracked, new, spent⟩ := flooded
  have absent := new n le_rfl
  have missing : held state.limiter.buckets (floodTenant n) = none := by
    rw [held, AList.lookup_eq_none.mpr absent]
    rfl
  have served : (state.limiter.tryTake (promptCall (floodTenant n) 0)).2 =
      { state.limiter with
        buckets := state.limiter.buckets.insert (floodTenant n) ⟨⟨1, 1, 0, 0⟩, 0⟩ } := by
    rw [PerTenantBuckets.tryTake, if_neg fun full => room.not_ge (tracked ▸ full.1),
      PerTenantBuckets.serve_eq]
    simp [promptCall, missing, rate, burst, TokenBucket.upToDate_none, TokenBucket.new,
      TokenBucket.consume]
  refine ⟨?_, rfl, ?_, fun i later => ?_, ?_⟩
  · rw [step, served]
    exact ⟨rate, burst⟩
  · rw [step, served, PerTenantBuckets.trackedTenants, Table.length_keys_insert_of_notMem absent]
    exact congrArg (· + 1) tracked
  · rw [step, served, AList.mem_insert]
    rintro (same | before)
    · have lengths := congrArg (·.toList.length) same
      simp [floodTenant] at lengths
      omega
    · exact new i (by omega) before
  · rw [step, served, AList.entries_insert_of_notMem absent]
    exact List.forall_mem_cons.mpr ⟨rfl, spent⟩

theorem flooded_run (room : n ≤ maxTenantBuckets) :
    EveryStep step Timed (init 1 1 0) (flood n) ∧ Flooded n (run step (init 1 1 0) (flood n)) := by
  induction n with
  | zero =>
    exact ⟨trivial, ⟨rfl, rfl⟩, rfl, rfl, fun _ _ => AList.notMem_empty _, fun _ mem => by
      cases mem⟩
  | succ n ih =>
    obtain ⟨timed, before⟩ := ih (by omega)
    rw [flood_succ, run_append]
    exact ⟨(everyStep_append _ _ _).mpr ⟨timed, before.clock.le, trivial⟩,
      flooded_step before (by omega)⟩

/-- Nobody has a token back at once. -/
theorem Flooded.saturated (flooded : Flooded n state) (full : n = maxTenantBuckets) :
    state.limiter.Saturated (promptCall (floodTenant n) 0) := by
  refine ⟨(flooded.tracked.trans full).ge, flooded.new n le_rfl, ?_⟩
  rw [PerTenantBuckets.victim, Option.map_eq_none_iff, List.argmin_eq_none, List.filter_eq_nil_iff]
  intro entry member
  simp [flooded.spent entry member, TokenBucket.isReplenished, TokenBucket.refill, promptCall,
    durationSince, accrue]

/-- A second later everybody has. -/
theorem Flooded.victim_ne_none (flooded : Flooded n state) (some_held : 0 < n) :
    state.limiter.victim (promptCall (floodTenant n) 1) ≠ none := by
  obtain ⟨entry, member⟩ : ∃ entry, entry ∈ state.limiter.buckets.entries := by
    refine List.exists_mem_of_length_pos (some_held.trans_eq ?_)
    rw [← flooded.tracked]
    exact List.length_map _
  rw [PerTenantBuckets.victim, ne_eq, Option.map_eq_none_iff, List.argmin_eq_none,
    List.filter_eq_nil_iff]
  intro spared
  have other : entry.1 ≠ floodTenant n := fun same =>
    flooded.new n le_rfl (same ▸ List.mem_keys_of_mem member)
  exact spared entry member (by
    simp [other, flooded.spent entry member, TokenBucket.isReplenished, TokenBucket.refill,
      promptCall, durationSince, accrue])

/-- A full map of tenants that have no token left turns a newcomer away. A second later
it gives up one of them for the newcomer. -/
theorem flood_is_fair :
    EveryStep step Fair (init 1 1 0) (flood maxTenantBuckets ++
        [promptCall (floodTenant maxTenantBuckets) 0,
          promptCall (floodTenant maxTenantBuckets) 1]) ∧
      (run step (init 1 1 0) (flood maxTenantBuckets)).limiter.Saturated
        (promptCall (floodTenant maxTenantBuckets) 0) ∧
      (run step (init 1 1 0) (flood maxTenantBuckets)).limiter.victim
        (promptCall (floodTenant maxTenantBuckets) 1) ≠ none := by
  generalize full : maxTenantBuckets = n
  obtain ⟨timed, flooded⟩ := flooded_run full.ge
  refine ⟨fair_throughout _ _ _ _ ?_, flooded.saturated full.symm, flooded.victim_ne_none ?_⟩
  · refine (everyStep_append _ _ _).mpr ⟨timed, flooded.clock.le, ?_, trivial⟩
    show (0 : ℚ) ≤ 1
    exact zero_le_one
  · rw [← full]
    decide

end Compared

end Triton.Core
