/-
# The cache of hosted domains as a bounded LRU map

Reads and writes of any keys follow one another, each at the instant it finds on
the clock. The history lists them with their answers, the newest first, so the
latest write of a key is the first one in it, and a key that was not used for
longer has its first use further down. The ticks of the cache only number the
uses.
-/

import Triton.Identity.Google
import Triton.Lib.Run

namespace Triton.Identity.HdCache

open Triton.Lib

inductive Call (Hash : Type) where
  | get (now : Instant) (key : Hash)
  | put (now : Instant) (key : Hash) (hd : UserInfoHd) (ttl : Duration)

def Call.now {Hash : Type} : Call Hash → Instant
  | .get now _ | .put now _ _ _ => now

/-- A call that was made, and what a read found. -/
structure Event (Hash : Type) where
  call : Call Hash
  found : Option UserInfoHd

structure Traced (Hash : Type) where
  cache : HdCache Hash := {}
  history : List (Event Hash) := []

def keys {Hash : Type} (cache : HdCache Hash) : List Hash := cache.entries.map (·.1)

variable {Hash : Type} [DecidableEq Hash] (last : Instant)

/-- What a write stores under the key, and until when. A lifetime of zero is not
stored, and one that ends after the last instant of the clock makes the write
panic. -/
def Event.stores (key : Hash) (event : Event Hash) : Option (UserInfoHd × Instant) :=
  match event.call with
  | .get _ _ => none
  | .put now written hd ttl =>
    if written = key ∧ ttl.isZero = false ∧ now + ttl.asNanos ≤ last then
      some (hd, now + ttl.asNanos)
    else none

/-- A write of the key, or a read that found it. -/
def Event.uses (key : Hash) (event : Event Hash) : Bool :=
  match event.call with
  | .get _ read => read = key && event.found.isSome
  | .put _ _ _ _ => (event.stores last key).isSome

def latestPut (history : List (Event Hash)) (key : Hash) : Option (UserInfoHd × Instant) :=
  history.findSome? (·.stores last key)

/-- How many calls were made since the last use. -/
def age (history : List (Event Hash)) (key : Hash) : Nat := history.findIdx (·.uses last key)

/-- The cache after a call, and its answer. A write that panics does so when it adds up
the expiry: the tick is counted and room is made by then. -/
def apply (cache : HdCache Hash) : Call Hash → HdCache Hash × Option UserInfoHd
  | .get now key => cache.get now key
  | .put now key hd ttl =>
    (if ttl.isZero || now + ttl.asNanos ≤ last then cache.put now key hd ttl
      else ⟨cache.roomFor now key, cache.tick + 1⟩, none)

def step (s : Traced Hash) (call : Call Hash) : Traced Hash where
  cache := (s.cache.apply last call).1
  history := ⟨call, (s.cache.apply last call).2⟩ :: s.history

/-- What a call may take away: an entry that has not expired goes only for a new key,
when all the room is taken by entries that have not expired, and it is the one
that was not used for the longest time. -/
structure Displaces (s : Traced Hash) (call : Call Hash) (gone : Hash) : Prop where
  put : ∃ now key hd ttl, call = .put now key hd ttl ∧ ttl.isZero = false ∧ key ∉ s.cache.keys
  full : s.cache.entries.length = googleHdCacheCap
  unexpired : ∀ e ∈ s.cache.entries, call.now < e.2.expires
  oldest : ∀ key ∈ s.cache.keys, key ≠ gone → age last s.history key < age last s.history gone

structure BoundedLru (s : Traced Hash) (call : Call Hash) : Prop where
  bounded : (step last s call).cache.entries.length ≤ googleHdCacheCap
  served : ∀ hd, (s.cache.apply last call).2 = some hd → ∃ now key expires,
    call = .get now key ∧ latestPut last s.history key = some (hd, expires) ∧ now < expires
  hit : ∀ now key entry, call = .get now key → (key, entry) ∈ s.cache.entries →
    now < entry.expires → (s.cache.apply last call).2 = some entry.hd
  kept : ∀ key entry, (key, entry) ∈ s.cache.entries → call.now < entry.expires →
    key ∉ (step last s call).cache.keys → Displaces last s call key

structure Invariant (s : Traced Hash) : Prop where
  distinct : s.cache.keys.Nodup
  bounded : s.cache.entries.length ≤ googleHdCacheCap
  written : ∀ e ∈ s.cache.entries, latestPut last s.history e.1 = some (e.2.hd, e.2.expires)
  ticked : ∀ e ∈ s.cache.entries, e.2.lastUsed ≤ s.cache.tick
  recent : ∀ e ∈ s.cache.entries, ∀ other ∈ s.cache.entries, other.1 ≠ e.1 →
    e.2.lastUsed ≤ other.2.lastUsed → age last s.history other.1 < age last s.history e.1

/-! ## Making room -/

section Room

variable {cache : HdCache Hash} {now : Instant} {key : Hash}

theorem roomFor_eq : cache.roomFor now key =
    if googleHdCacheCap ≤ cache.entries.length ∧ key ∉ cache.keys then evict cache.entries now
    else cache.entries := by
  refine if_congr ?_ rfl rfl
  have absent : cache.entries.any (·.1 = key) = false ↔ key ∉ cache.keys := by
    rw [List.any_eq_false]
    constructor
    · intro none present
      obtain ⟨e, there, same⟩ := List.mem_map.mp present
      exact none e there (by simpa using same)
    · intro new e there same
      exact new (List.mem_map.mpr ⟨e, there, by simpa using same⟩)
  simp [absent]

theorem length_roomFor_lt (bounded : cache.entries.length ≤ googleHdCacheCap) :
    ((cache.roomFor now key).filter (·.1 ≠ key)).length < googleHdCacheCap := by
  rw [roomFor_eq]
  split
  case isTrue full =>
    refine Nat.lt_of_le_of_lt (List.length_filter_le _ _) ?_
    rcases evict_cases cache.entries now with ⟨room, same⟩ | ⟨oldest, member, _, _, same⟩
    · rw [same]
      exact room
    · rw [same]
      refine Nat.lt_of_lt_of_le (List.length_filter_lt_length_iff_exists.mpr
        ⟨oldest, member, by simp⟩) (Nat.le_trans (List.length_filter_le _ _) bounded)
  case isFalse spare =>
    by_cases present : key ∈ cache.keys
    · obtain ⟨e, member, rfl⟩ := List.mem_map.mp present
      exact Nat.lt_of_lt_of_le (List.length_filter_lt_length_iff_exists.mpr
        ⟨e, member, by simp⟩) bounded
    · refine Nat.lt_of_le_of_lt (List.length_filter_le _ _) (Nat.not_le.mp fun full => ?_)
      exact spare ⟨full, present⟩

/-- An entry that has not expired leaves only a cache full of such entries, and it is
the oldest of them. -/
theorem of_notMem_roomFor {e : Hash × HdCacheEntry}
    (bounded : cache.entries.length ≤ googleHdCacheCap) (member : e ∈ cache.entries)
    (live : now < e.2.expires) (gone : e ∉ cache.roomFor now key) :
    key ∉ cache.keys ∧ cache.entries.length = googleHdCacheCap ∧
      (∀ other ∈ cache.entries, now < other.2.expires) ∧
      ∃ oldest ∈ cache.entries, oldest.1 = e.1 ∧
        ∀ other ∈ cache.entries, oldest.2.lastUsed ≤ other.2.lastUsed := by
  rw [roomFor_eq] at gone
  split at gone
  case isFalse => exact absurd member gone
  case isTrue full =>
    rcases evict_cases cache.entries now with ⟨_, same⟩ | ⟨oldest, there, least, many, same⟩
    · rw [same] at gone
      exact absurd (List.mem_filter.mpr ⟨member, by simpa using live⟩) gone
    · have all := List.filter_eq_self.mp (List.filter_sublist.eq_of_length_le
        (Nat.le_trans bounded many))
      rw [same, List.filter_eq_self.mpr all] at gone
      rw [List.filter_eq_self.mpr all] at there least many
      refine ⟨full.2, Nat.le_antisymm bounded many, by simpa using all, oldest, there, ?_, least⟩
      by_contra other
      exact gone (List.mem_filter.mpr ⟨member, by simpa using Ne.symm other⟩)

end Room

/-! ## What a call does to an entry -/

section Calls

variable {last} {cache : HdCache Hash} {now : Instant} {key : Hash} {hd : UserInfoHd}
  {ttl : Duration} {call : Call Hash} {e : Hash × HdCacheEntry}

/-- A write does nothing, stores its entry, or only makes room for it. -/
theorem apply_put : cache.apply last (.put now key hd ttl) =
    (if ttl.isZero then cache
      else ⟨if now + ttl.asNanos ≤ last then
          (key, ⟨hd, now + ttl.asNanos, cache.tick + 1⟩) ::
            (cache.roomFor now key).filter (·.1 ≠ key)
        else cache.roomFor now key, cache.tick + 1⟩, none) := by
  cases zero : ttl.isZero with
  | true => simp [apply, put, zero]
  | false => by_cases inTime : now + ttl.asNanos ≤ last <;> simp [apply, put, zero, inTime]

/-- Noting a use changes no key. -/
theorem keys_noted (entries : List (Hash × HdCacheEntry)) (tick : Nat) :
    (entries.map fun e => if e.1 = key then (e.1, { e.2 with lastUsed := tick }) else e).map
      (·.1) = entries.map (·.1) := by
  rw [List.map_map]
  refine List.map_congr_left fun e _ => ?_
  by_cases mine : e.1 = key <;> simp [mine]

theorem keys_get_sublist : (cache.get now key).1.keys.Sublist cache.keys := by
  rcases get_cases cache now key with ⟨entry, _, _, same⟩ | ⟨_, same⟩
  · rw [same, keys, keys_noted]
    exact List.Sublist.refl _
  · rw [same]
    exact List.filter_sublist.map _

/-- A read takes no entry away that has not expired, and finds it. -/
theorem get_of_mem (distinct : cache.keys.Nodup) (member : e ∈ cache.entries)
    (live : now < e.2.expires) :
    e.1 ∈ (cache.get now key).1.keys ∧ (e.1 = key → (cache.get now key).2 = some e.2.hd) := by
  have found := lookup_of_mem distinct member
  rcases get_cases cache now key with ⟨entry, there, _, same⟩ | ⟨expired, same⟩
  · rw [same, keys, keys_noted]
    refine ⟨List.mem_map_of_mem member, ?_⟩
    rintro rfl
    rw [found] at there
    cases there
    rfl
  · have other : e.1 ≠ key := by
      rintro rfl
      exact Nat.not_lt.mpr (expired _ found) live
    rw [same]
    exact ⟨List.mem_map_of_mem (List.mem_filter.mpr ⟨member, by simpa using other⟩),
      fun mine => absurd mine other⟩

/-- An entry after a call is as it was, or it was used and carries the next tick. -/
theorem of_mem_apply (member : e ∈ (cache.apply last call).1.entries) :
    let event : Event Hash := ⟨call, (cache.apply last call).2⟩
    (event.uses last e.1 = false ∧ event.stores last e.1 = none ∧ e ∈ cache.entries) ∨
      (event.uses last e.1 = true ∧ e.2.lastUsed = cache.tick + 1 ∧
        (event.stores last e.1 = some (e.2.hd, e.2.expires) ∨
          event.stores last e.1 = none ∧ ∃ old, (e.1, old) ∈ cache.entries ∧
            old.hd = e.2.hd ∧ old.expires = e.2.expires)) := by
  intro event
  cases call with
  | get now key =>
    rcases mem_get member with ⟨there, unread⟩ | ⟨old, there, found, rfl⟩
    · refine .inl ⟨?_, rfl, there⟩
      by_cases mine : key = e.1
      · simp [event, Event.uses, apply, unread mine.symm]
      · simp [event, Event.uses, mine]
    · refine .inr ⟨?_, rfl, .inr ⟨rfl, old, there, rfl, rfl⟩⟩
      simp [event, Event.uses, apply, found]
  | put now key hd ttl =>
    have kept (unstored : event.stores last e.1 = none) (there : e ∈ cache.entries) :
        event.uses last e.1 = false ∧ event.stores last e.1 = none ∧ e ∈ cache.entries :=
      ⟨congrArg Option.isSome unstored, unstored, there⟩
    rw [apply_put] at member
    split at member
    case isTrue zero => exact .inl (kept (if_neg fun stored => by simp [zero] at stored) member)
    case isFalse lasting =>
      simp only at member
      split at member
      case isFalse late =>
        exact .inl (kept (if_neg fun stored => late stored.2.2) (roomFor_sublist.subset member))
      case isTrue inTime =>
        rcases List.mem_cons.mp member with rfl | there
        · have stored : event.stores last key = some (hd, now + ttl.asNanos) :=
            if_pos ⟨rfl, by simpa using lasting, inTime⟩
          exact .inr ⟨congrArg Option.isSome stored, rfl, .inl stored⟩
        · obtain ⟨there, other⟩ := List.mem_filter.mp there
          refine .inl (kept (if_neg fun stored => ?_) (roomFor_sublist.subset there))
          simp [stored.1] at other

/-- The tick moves on with every use. -/
theorem tick_apply (last : Instant) (cache : HdCache Hash) (call : Call Hash) :
    (cache.apply last call).1.tick = cache.tick + 1 ∨
      ((cache.apply last call).1.tick = cache.tick ∧
        ∀ key found, Event.uses last key ⟨call, found⟩ = false) := by
  cases call with
  | get now read =>
    left
    rw [apply]
    rcases get_cases cache now read with ⟨_, _, _, same⟩ | ⟨_, same⟩ <;> rw [same]
  | put now written hd ttl =>
    rw [apply_put]
    split
    case isFalse => exact .inl rfl
    case isTrue zero => exact .inr ⟨rfl, by simp [Event.uses, Event.stores, zero]⟩

/-- A call uses one key at most. -/
theorem eq_of_uses {event : Event Hash} {other : Hash} (use : event.uses last key = true)
    (too : event.uses last other = true) : key = other := by
  obtain ⟨call, found⟩ := event
  cases call with
  | get now read =>
    simp only [Event.uses, Bool.and_eq_true, decide_eq_true_eq] at use too
    exact use.1.symm.trans too.1
  | put now written hd ttl =>
    simp only [Event.uses, Event.stores, Option.isSome_ite] at use too
    exact use.1.symm.trans too.1

end Calls

/-! ## Runs -/

variable {last} {s : Traced Hash} {call : Call Hash} {e : Hash × HdCacheEntry}

namespace Invariant

theorem written_step (invariant : Invariant last s)
    (member : e ∈ (step last s call).cache.entries) :
    latestPut last (step last s call).history e.1 = some (e.2.hd, e.2.expires) := by
  rw [latestPut, step, List.findSome?_cons]
  rcases of_mem_apply member with
    ⟨_, unstored, there⟩ | ⟨_, _, stored | ⟨unstored, old, there, hd, expires⟩⟩
  · rw [unstored]
    exact invariant.written e there
  · rw [stored]
  · rw [unstored, ← hd, ← expires]
    exact invariant.written _ there

theorem recent_step (invariant : Invariant last s) {other : Hash × HdCacheEntry}
    (member : e ∈ (step last s call).cache.entries)
    (present : other ∈ (step last s call).cache.entries) (apart : other.1 ≠ e.1)
    (later : e.2.lastUsed ≤ other.2.lastUsed) :
    age last (step last s call).history other.1 < age last (step last s call).history e.1 := by
  simp only [age, step, List.findIdx_cons]
  rcases of_mem_apply member with ⟨idle, _, there⟩ | ⟨use, noted, _⟩
  · rw [idle]
    rcases of_mem_apply present with ⟨unused, _, old⟩ | ⟨used, _⟩
    · rw [unused]
      exact Nat.succ_lt_succ (invariant.recent e there other old apart later)
    · rw [used]
      exact Nat.succ_pos _
  · -- the tick just given is the highest, and no other key has it
    rcases of_mem_apply present with ⟨_, _, old⟩ | ⟨too, _⟩
    · have ticked := invariant.ticked other old
      omega
    · exact absurd (eq_of_uses too use) apart

theorem ticked_step (invariant : Invariant last s)
    (member : e ∈ (step last s call).cache.entries) :
    e.2.lastUsed ≤ (step last s call).cache.tick := by
  show e.2.lastUsed ≤ (s.cache.apply last call).1.tick
  rcases of_mem_apply member with ⟨_, _, there⟩ | ⟨use, noted, _⟩
  · have ticked := invariant.ticked e there
    rcases tick_apply last s.cache call with next | ⟨same, _⟩ <;> omega
  · rcases tick_apply last s.cache call with next | ⟨_, idle⟩
    · exact Nat.le_of_eq (noted.trans next.symm)
    · exact absurd use (by simp [idle])

/-- Each key keeps one entry, and the entries their bound. -/
theorem sized_step (invariant : Invariant last s) :
    (step last s call).cache.keys.Nodup ∧
      (step last s call).cache.entries.length ≤ googleHdCacheCap := by
  cases call with
  | get now key =>
    have fewer : (s.cache.get now key).1.keys.Sublist s.cache.keys := keys_get_sublist
    have shorter := fewer.length_le
    rw [keys, keys, List.length_map, List.length_map] at shorter
    exact ⟨fewer.nodup invariant.distinct, Nat.le_trans shorter invariant.bounded⟩
  | put now key hd ttl =>
    have room : ((s.cache.roomFor now key).map (·.1)).Nodup :=
      (roomFor_sublist.map _).nodup invariant.distinct
    simp only [step, apply_put]
    split
    case isTrue => exact ⟨invariant.distinct, invariant.bounded⟩
    case isFalse =>
      simp only [keys]
      split
      case isFalse =>
        exact ⟨room, Nat.le_trans roomFor_sublist.length_le invariant.bounded⟩
      case isTrue =>
        exact ⟨List.nodup_cons.mpr ⟨by simp, (List.filter_sublist.map _).nodup room⟩,
          Nat.succ_le_of_lt (length_roomFor_lt invariant.bounded)⟩

theorem displaces (invariant : Invariant last s) (member : e ∈ s.cache.entries)
    (live : call.now < e.2.expires) (gone : e.1 ∉ (step last s call).cache.keys) :
    Displaces last s call e.1 := by
  cases call with
  | get now key => exact absurd (get_of_mem invariant.distinct member live).1 gone
  | put now key hd ttl =>
    simp only [step, apply_put] at gone
    split at gone
    case isTrue => exact absurd (List.mem_map_of_mem member) gone
    case isFalse lasting =>
      have left : e ∉ s.cache.roomFor now key := by
        intro kept
        refine gone (List.mem_map.mpr ?_)
        simp only
        split
        case isFalse => exact ⟨e, kept, rfl⟩
        case isTrue =>
          by_cases mine : e.1 = key
          · exact ⟨_, List.mem_cons_self, mine.symm⟩
          · refine ⟨e, List.mem_cons_of_mem _ ?_, rfl⟩
            exact List.mem_filter.mpr ⟨kept, by simpa using mine⟩
      obtain ⟨new, full, unexpired, oldest, there, same, least⟩ :=
        of_notMem_roomFor invariant.bounded member live left
      refine ⟨⟨now, key, hd, ttl, rfl, by simpa using lasting, new⟩, full, unexpired, ?_⟩
      intro other present apart
      obtain ⟨entry, member, rfl⟩ := List.mem_map.mp present
      rw [← same] at apart ⊢
      exact invariant.recent oldest there entry member apart (least entry member)

end Invariant

theorem invariant_step (s : Traced Hash) (call : Call Hash) (invariant : Invariant last s) :
    Invariant last (step last s call) where
  distinct := invariant.sized_step.1
  bounded := invariant.sized_step.2
  written := fun _ member => invariant.written_step member
  ticked := fun _ member => invariant.ticked_step member
  recent := fun _ member _ present => invariant.recent_step member present

theorem Invariant.boundedLru (s : Traced Hash) (call : Call Hash) (invariant : Invariant last s) :
    BoundedLru last s call where
  bounded := invariant.sized_step.2
  served := by
    intro hd found
    cases call with
    | put => cases found
    | get now key =>
      obtain ⟨entry, there, live, rfl⟩ := get_eq_some found
      exact ⟨now, key, entry.expires, rfl, invariant.written _ there, live⟩
  hit := by
    rintro now key entry rfl member live
    exact (get_of_mem invariant.distinct member live).2 rfl
  kept := fun _ _ member live gone => invariant.displaces member live gone

/-- The cache is a bounded LRU map in every sequence of calls. -/
theorem hdCache_bounded_lru {Hash : Type} [DecidableEq Hash] (last : Instant)
    (calls : List (Call Hash)) : EveryStep (step last) (BoundedLru last) {} calls := by
  have start : Invariant last ({} : Traced Hash) :=
    ⟨List.nodup_nil, Nat.zero_le _, by simp, by simp, by simp⟩
  have any : EveryStep (step last) (fun _ _ => True) ({} : Traced Hash) calls :=
    everyStep_of_forall_mem (fun _ _ _ => trivial) _
  exact everyStep_of_invariant (fun s call here _ => invariant_step s call here)
    (fun s call here _ => here.boundedLru s call) start any

end Triton.Identity.HdCache
