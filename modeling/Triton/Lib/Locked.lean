/-
# Read, change and write under one lock

Threads that each read a value from a shared store, change it and write it back,
all under one lock. A thread takes the lock, reads, writes and lets go in turns
of its own, and the others move in between as they please. A read may find
nothing, or a value that the operation leaves alone; then nothing is written.

Whatever the interleaving, the store is the one that the writes leave when each
operation runs alone, in the order of the writes; a thread that answers with a
value has written once, one that answers without has not; and a thread that was
called after another had answered writes after it.
-/

import Mathlib.Data.List.Sublists
import Triton.Lib.Positions
import Triton.Lib.Run

namespace Triton.Lib

universe u v w x

/-- What the operations do to the store. `τ` is what a turn finds outside. -/
structure Editing (σ : Type u) (ν : Type v) (κ : Type w) (τ : Type x) where
  read : σ → τ → Option ν
  admits : κ → ν → Bool
  change : κ → τ → ν → ν
  write : σ → τ → ν → σ

/-- Where a thread stands. -/
inductive Stage (ν : Type v) (τ : Type x) where
  | waiting
  | entered
  | holding (value : ν) (read : τ)
  | leaving (answer : Option ν)
  | answered (answer : Option ν)

namespace Stage

variable {ν : Type v} {τ : Type x}

/-- Does the thread have the lock? -/
def isInside : Stage ν τ → Bool
  | .entered | .holding _ _ | .leaving _ => true
  | .waiting | .answered _ => false

end Stage

/-- An operation with what its read and its write found. -/
structure Edit (κ : Type w) (τ : Type x) where
  op : κ
  read : τ
  write : τ

inductive Deed (κ : Type w) (τ : Type x) where
  | called (i : ℕ)
  | wrote (i : ℕ) (edit : Edit κ τ)
  | returned (i : ℕ)

/-- What the deed did to the store. -/
def Deed.edit {κ : Type w} {τ : Type x} : Deed κ τ → Option (Edit κ τ)
  | .wrote _ edit => some edit
  | .called _ | .returned _ => none

def Deed.writer {κ : Type w} {τ : Type x} : Deed κ τ → Option ℕ
  | .wrote i _ => some i
  | .called _ | .returned _ => none

/-- Whose deed it is. -/
def Deed.thread {κ : Type w} {τ : Type x} : Deed κ τ → ℕ
  | .called i | .wrote i _ | .returned i => i

/-- The order in which a thread acts. -/
def Deed.rank {κ : Type w} {τ : Type x} : Deed κ τ → ℕ
  | .called _ => 0
  | .wrote _ _ => 1
  | .returned _ => 2

/-- The deeds of a thread that stands here. -/
def Stage.Tells {ν : Type v} {κ : Type w} {τ : Type x} (i : ℕ) (op : κ) (done : List (Deed κ τ)) :
    Stage ν τ → Prop
  | .waiting | .entered | .holding _ _ | .leaving none => done = [.called i]
  | .leaving (some _) => ∃ read write, done = [.called i, .wrote i ⟨op, read, write⟩]
  | .answered none => done = [.called i, .returned i]
  | .answered (some _) =>
    ∃ read write, done = [.called i, .wrote i ⟨op, read, write⟩, .returned i]

/-- The store, the lock's holder, the threads and what has happened. -/
structure Locked (σ : Type u) (ν : Type v) (κ : Type w) (τ : Type x) where
  store : σ
  holder : Option ℕ
  threads : List (κ × Stage ν τ)
  history : List (Deed κ τ)

inductive Move (κ : Type w) (τ : Type x) where
  | call (op : κ)
  | turn (i : ℕ) (found : τ)

variable {σ : Type u} {ν : Type v} {κ : Type w} {τ : Type x} (editing : Editing σ ν κ τ)

namespace Editing

/-- One operation alone. -/
def alone (store : σ) (edit : Edit κ τ) : σ :=
  match editing.read store edit.read with
  | some value =>
    if editing.admits edit.op value then
      editing.write store edit.write (editing.change edit.op edit.write value)
    else store
  | none => store

/-- The operation finds a value and goes ahead with it. -/
def Takes (store : σ) (edit : Edit κ τ) : Prop :=
  ∃ value, editing.read store edit.read = some value ∧ editing.admits edit.op value = true

theorem alone_of_read {store : σ} {edit : Edit κ τ} {value : ν}
    (found : editing.read store edit.read = some value)
    (admitted : editing.admits edit.op value = true) :
    editing.alone store edit =
      editing.write store edit.write (editing.change edit.op edit.write value) := by
  simp [alone, found, admitted]

/-- What a thread that has read goes on with. -/
def decide (op : κ) (found : Option ν) (read : τ) : Stage ν τ :=
  match found with
  | some value => if editing.admits op value then .holding value read else .leaving none
  | none => .leaving none

end Editing

namespace Locked

/-- No threads yet. -/
def start (store : σ) : Locked σ ν κ τ := ⟨store, none, [], []⟩

variable (s : Locked σ ν κ τ)

/-- A turn of one thread. -/
def turn (i : ℕ) (op : κ) (found : τ) : Stage ν τ → Locked σ ν κ τ
  | .waiting =>
    if s.holder.isNone then
      { s with holder := some i, threads := s.threads.set i (op, .entered) }
    else s
  | .entered =>
    { s with
      threads := s.threads.set i (op, editing.decide op (editing.read s.store found) found) }
  | .holding value read =>
    let changed := editing.change op found value
    { s with
      store := editing.write s.store found changed
      threads := s.threads.set i (op, .leaving (some changed))
      history := s.history ++ [.wrote i ⟨op, read, found⟩] }
  | .leaving answer =>
    { s with
      holder := none
      threads := s.threads.set i (op, .answered answer)
      history := s.history ++ [.returned i] }
  | .answered _ => s

def step : Move κ τ → Locked σ ν κ τ
  | .call op =>
    { s with
      threads := s.threads ++ [(op, .waiting)]
      history := s.history ++ [.called s.threads.length] }
  | .turn i found =>
    match s.threads[i]? with
    | some (op, stage) => s.turn editing i op found stage
    | none => s

/-- The operations that have written, in the order of their writes. -/
def edits : List (Edit κ τ) := s.history.filterMap Deed.edit

def writers : List ℕ := s.history.filterMap Deed.writer

def deedsOf (i : ℕ) : List (Deed κ τ) := s.history.filter (·.thread == i)

/-! ## What every run keeps -/

/-- The store is that of the edits made alone, one after the other, and the threads
stand where the lock and the history put them. -/
structure Serial (first : σ) (s : Locked σ ν κ τ) : Prop where
  lock : ∀ (i : ℕ) (op : κ) (stage : Stage ν τ), s.threads[i]? = some (op, stage) →
    stage.isInside = true → s.holder = some i
  reading : ∀ (i : ℕ) (op : κ) (value : ν) (read : τ),
    s.threads[i]? = some (op, .holding value read) →
    editing.read s.store read = some value ∧ editing.admits op value = true
  store : s.store = run editing.alone first s.edits
  effective : EveryStep editing.alone editing.Takes first s.edits
  own : ∀ i, match s.threads[i]? with
    | some (op, stage) => stage.Tells i op (s.deedsOf i)
    | none => s.deedsOf i = []

theorem serial_start (first : σ) : Serial editing first (start first : Locked σ ν κ τ) where
  lock := nofun
  reading := nofun
  store := rfl
  effective := trivial
  own _ := rfl

variable {editing} {s} {first : σ} {i : ℕ} {op : κ} {old : Stage ν τ}

/-- Deeds of one thread are added to its own, and to no others. -/
theorem filter_append_deeds {deeds : List (Deed κ τ)} (mine : ∀ deed ∈ deeds, deed.thread = i)
    (j : ℕ) :
    (s.history ++ deeds).filter (·.thread == j) = s.deedsOf j ++ if i = j then deeds else [] := by
  rw [List.filter_append, deedsOf]
  congr 1
  split
  · rename_i here
    exact List.filter_eq_self.mpr fun deed member => by simp [mine deed member, here]
  · rename_i other
    exact List.filter_eq_nil_iff.mpr fun deed member => by simp [mine deed member, other]

section Kept

variable (serial : Serial editing first s)

include serial

/-- A new thread waits. -/
theorem Serial.call (op : κ) : Serial editing first (s.step editing (.call op)) := by
  have older {j : ℕ} {op' : κ} {stage : Stage ν τ}
      (there : (s.threads ++ [(op, .waiting)])[j]? = some (op', stage)) :
      s.threads[j]? = some (op', stage) ∨ stage = .waiting :=
    (getElem?_concat_cases there).imp_right fun added => congrArg Prod.snd added.2
  have edits : (s.step editing (.call op)).edits = s.edits := by
    simp [Locked.edits, step, Deed.edit]
  constructor
  · intro j op' stage there inside
    rcases older there with before | rfl
    · exact serial.lock j op' stage before inside
    · cases inside
  · intro j op' value read there
    rcases older there with before | same
    · exact serial.reading j op' value read before
    · cases same
  · rw [edits]
    exact serial.store
  · rw [edits]
    exact serial.effective
  · intro j
    have own := serial.own j
    rw [deedsOf]
    simp only [step]
    rw [@filter_append_deeds _ _ _ _ _ s.threads.length _ (List.forall_mem_singleton.mpr rfl)]
    by_cases new : s.threads.length = j
    · subst new
      simpa [Stage.Tells] using own
    · have same : (s.threads ++ [(op, .waiting)])[j]? = s.threads[j]? := by
        rw [List.getElem?_append]
        split
        · rfl
        · rw [List.getElem?_eq_none (by simp; omega), List.getElem?_eq_none (by omega)]
      rw [same, if_neg new, List.append_nil]
      exact own

section Turns

variable (found : s.threads[i]? = some (op, old))

include found

/-- A thread moves on. If the store changes, the thread has the lock, so that nobody else
has read. -/
theorem Serial.moved {new : Stage ν τ} {holder : Option ℕ} {store : σ} {deeds : List (Deed κ τ)}
    (tells : ∀ done, old.Tells i op done → new.Tells i op (done ++ deeds))
    (mine : ∀ deed ∈ deeds, deed.thread = i) (lock : new.isInside = true → holder = some i)
    (others : ∀ j, i ≠ j → s.holder = some j → holder = some j)
    (reading : ∀ value read, new = .holding value read →
      editing.read store read = some value ∧ editing.admits op value = true)
    (alone : store = s.store ∨ s.holder = some i)
    (stored : store = run editing.alone s.store (deeds.filterMap Deed.edit))
    (effective : EveryStep editing.alone editing.Takes s.store (deeds.filterMap Deed.edit)) :
    Serial editing first ⟨store, holder, s.threads.set i (op, new), s.history ++ deeds⟩ where
  lock j op' stage there inside := by
    rw [getElem?_set_of_getElem? found] at there
    split at there
    · rename_i here
      cases there
      exact here ▸ lock inside
    · rename_i other
      exact others j other (serial.lock j op' stage there inside)
  reading j op' value read there := by
    rw [getElem?_set_of_getElem? found] at there
    split at there
    · cases there
      exact reading value read rfl
    · rename_i other
      rcases alone with rfl | held
      · exact serial.reading j op' value read there
      · exact absurd (Option.some.inj (held.symm.trans (serial.lock j op' _ there rfl))) other
  store := by
    rw [edits, List.filterMap_append, run_append, stored]
    exact congrArg (fun before => run editing.alone before _) serial.store
  effective := by
    rw [edits, List.filterMap_append, everyStep_append]
    exact ⟨serial.effective, serial.store ▸ effective⟩
  own j := by
    have own := serial.own j
    rw [deedsOf]
    simp only [filter_append_deeds mine, getElem?_set_of_getElem? found]
    by_cases here : i = j
    · subst here
      rw [found] at own
      rw [if_pos rfl, if_pos rfl]
      exact tells _ own
    · rw [if_neg here, if_neg here, List.append_nil]
      exact own

/-- A thread moves on without a deed. -/
theorem Serial.advance {new : Stage ν τ} {holder : Option ℕ}
    (tells : ∀ done, old.Tells i op done → new.Tells i op done)
    (lock : new.isInside = true → holder = some i)
    (others : ∀ j, i ≠ j → s.holder = some j → holder = some j)
    (reading : ∀ value read, new = .holding value read →
      editing.read s.store read = some value ∧ editing.admits op value = true) :
    Serial editing first { s with holder := holder, threads := s.threads.set i (op, new) } := by
  have moved : Serial editing first
      ⟨s.store, holder, s.threads.set i (op, new), s.history ++ []⟩ :=
    serial.moved found (by simpa using tells) nofun lock others reading (.inl rfl) rfl trivial
  rwa [List.append_nil] at moved

end Turns

theorem Serial.step (move : Move κ τ) :
    Serial editing first (s.step editing move) := by
  cases move with
  | call op => exact serial.call op
  | turn i out =>
    cases found : s.threads[i]? with
    | none => simpa only [Locked.step, found] using serial
    | some thread =>
      obtain ⟨op, stage⟩ := thread
      simp only [Locked.step, found]
      have own := serial.lock i op stage found
      cases stage with
      | waiting =>
        rw [turn]
        split
        · rename_i free
          have nobody : s.holder = none := Option.isNone_iff_eq_none.mp free
          refine serial.advance found (fun _ => id) (fun _ => rfl) ?_ nofun
          intro j _ taken
          rw [nobody] at taken
          cases taken
        · exact serial
      | entered =>
        apply serial.advance found _ (fun _ => own rfl) (fun _ _ taken => taken)
        · intro value read same
          unfold Editing.decide at same
          split at same
          · rename_i value' readBack
            split at same
            · rename_i admitted
              cases same
              exact ⟨readBack, admitted⟩
            · cases same
          · cases same
        · unfold Editing.decide
          split
          · split <;> exact fun _ => id
          · exact fun _ => id
      | holding value read =>
        -- nobody has written since the thread has read
        obtain ⟨readBack, admitted⟩ := serial.reading i op value read found
        have applied : editing.alone s.store ⟨op, read, out⟩ = _ :=
          editing.alone_of_read readBack admitted
        refine serial.moved found ?_ (List.forall_mem_singleton.mpr rfl) (fun _ => own rfl)
          (fun _ _ taken => taken) nofun (.inr (own rfl)) applied.symm
          ⟨⟨value, readBack, admitted⟩, trivial⟩
        rintro done rfl
        exact ⟨read, out, rfl⟩
      | leaving answer =>
        refine serial.moved found ?_ (List.forall_mem_singleton.mpr rfl) nofun ?_ nofun
          (.inl rfl) rfl trivial
        · cases answer with
          | none =>
            rintro done rfl
            rfl
          | some value =>
            rintro done ⟨read, write, rfl⟩
            exact ⟨read, write, rfl⟩
        · intro j other taken
          exact absurd (Option.some.inj ((own rfl).symm.trans taken)) other
      | answered answer => exact serial

/-! ## The order of the deeds -/

/-- A thread that has answered with a value has written, and no other. -/
theorem Serial.wrote_iff {answer : Option ν} (found : s.threads[i]? = some (op, .answered answer)) :
    answer.isSome = true ↔ ∃ read write, .wrote i ⟨op, read, write⟩ ∈ s.history := by
  have own := serial.own i
  rw [found] at own
  have mine (read write : τ) : .wrote i ⟨op, read, write⟩ ∈ s.history ↔
      .wrote i ⟨op, read, write⟩ ∈ s.deedsOf i := by
    simp [deedsOf, Deed.thread]
  simp only [mine]
  cases answer with
  | none =>
    rw [show s.deedsOf i = _ from own]
    simp
  | some value =>
    obtain ⟨read, write, done⟩ := own
    rw [done]
    simp

/-- A thread is called, writes and answers, in this order. -/
theorem Serial.rank_lt {a b : Deed κ τ} (pair : [a, b].Sublist s.history)
    (same : a.thread = b.thread) : a.rank < b.rank := by
  have inside : [a, b].Sublist (s.deedsOf a.thread) := by
    simpa [deedsOf, same] using pair.filter (·.thread == a.thread)
  have sorted : (s.deedsOf a.thread).Pairwise fun a b => a.rank < b.rank := by
    have own := serial.own a.thread
    split at own
    · rename_i op stage _
      revert own
      rcases stage with _ | _ | _ | (_ | _) | (_ | _)
      case leaving.some | answered.some =>
        rintro ⟨read, write, done⟩
        simp [done, Deed.rank]
      all_goals
        intro done
        simp [show s.deedsOf _ = _ from done, Deed.rank]
    · simp [own]
  exact List.pairwise_iff_forall_sublist.mp sorted inside

theorem Serial.once : s.writers.Nodup := by
  rw [writers, List.Nodup, List.pairwise_filterMap, List.pairwise_iff_forall_sublist]
  rintro (_ | ⟨i, first⟩ | _) (_ | ⟨j, second⟩ | _) pair _ ⟨⟩ _ ⟨⟩ same
  exact Nat.lt_irrefl 1 (serial.rank_lt pair same)

theorem Serial.inTime (i j : ℕ) (pair : [.returned i, .called j].Sublist s.history)
    (first : i ∈ s.writers) (second : j ∈ s.writers) : [i, j].Sublist s.writers := by
  obtain ⟨before, after, split, answered, rest⟩ := List.cons_sublist_iff.mp pair
  have called := List.singleton_sublist.mp rest
  have order {a b : Deed κ τ} (here : a ∈ before) (there : b ∈ after)
      (same : a.thread = b.thread) : a.rank < b.rank := by
    apply serial.rank_lt _ same
    rw [split]
    exact (List.singleton_sublist.mpr here).append (List.singleton_sublist.mpr there)
  rw [writers, split, List.filterMap_append] at first second ⊢
  have early : i ∈ before.filterMap Deed.writer := by
    refine (List.mem_append.mp first).resolve_right fun late => ?_
    obtain ⟨_ | ⟨i, edit⟩ | _, member, ⟨⟩⟩ := List.mem_filterMap.mp late
    exact absurd (order answered member rfl) (by simp [Deed.rank])
  have late : j ∈ after.filterMap Deed.writer := by
    refine (List.mem_append.mp second).resolve_left fun early => ?_
    obtain ⟨_ | ⟨j, edit⟩ | _, member, ⟨⟩⟩ := List.mem_filterMap.mp early
    exact absurd (order member called rfl) (by simp [Deed.rank])
  exact (List.singleton_sublist.mpr early).append (List.singleton_sublist.mpr late)

end Kept

/-- Every interleaving is one after the other. -/
theorem serial_run (editing : Editing σ ν κ τ) (first : σ) (moves : List (Move κ τ)) :
    Serial editing first (run (Locked.step editing) (start first) moves) :=
  run_keeps (fun _ move serial => serial.step move) (serial_start editing first) moves

/-! ## The edits of a run -/

theorem edits_concat (deed : Deed κ τ) :
    ({ s with history := s.history ++ [deed] } : Locked σ ν κ τ).edits =
      s.edits ++ deed.edit.toList := by
  rw [edits, edits, List.filterMap_append]
  cases deed <;> rfl

theorem edits_step (editing : Editing σ ν κ τ) (s : Locked σ ν κ τ) (move : Move κ τ) :
    (s.step editing move).edits = s.edits ∨
      ∃ i op read out, move = .turn i out ∧
        (s.step editing move).edits = s.edits ++ [⟨op, read, out⟩] := by
  cases move with
  | call op => exact .inl ((edits_concat (.called s.threads.length)).trans (List.append_nil _))
  | turn i out =>
    cases found : s.threads[i]? with
    | none =>
      left
      simp only [Locked.step, found]
    | some thread =>
      obtain ⟨op, stage⟩ := thread
      simp only [Locked.step, found]
      cases stage with
      | waiting =>
        left
        rw [turn]
        split <;> rfl
      | entered | answered answer => exact .inl rfl
      | holding value read =>
        exact .inr ⟨i, op, read, out, rfl, edits_concat (.wrote i ⟨op, read, out⟩)⟩
      | leaving answer =>
        exact .inl ((edits_concat (.returned i)).trans (List.append_nil _))

/-- Edits are never taken back. -/
theorem edits_run (editing : Editing σ ν κ τ) (s : Locked σ ν κ τ) (moves : List (Move κ τ)) :
    ∃ more, (run (Locked.step editing) s moves).edits = s.edits ++ more := by
  induction moves generalizing s with
  | nil => exact ⟨[], (List.append_nil _).symm⟩
  | cons move moves ih =>
    obtain ⟨more, later⟩ := ih (s.step editing move)
    rcases edits_step editing s move with same | ⟨i, op, read, out, _, grown⟩
    · exact ⟨more, later.trans (by rw [same])⟩
    · exact ⟨⟨op, read, out⟩ :: more, later.trans (by rw [grown]; simp)⟩

/-- What every turn finds, every write has found. -/
theorem forall_mem_edits (editing : Editing σ ν κ τ) (first : σ) {finds : τ → Prop}
    {moves : List (Move κ τ)} (all : ∀ i out, .turn i out ∈ moves → finds out) :
    ∀ edit ∈ (run (Locked.step editing) (start first) moves).edits, finds edit.write := by
  induction moves using List.reverseRecOn with
  | nil =>
    intro edit member
    cases member
  | append_singleton moves move ih =>
    have before := ih fun i out member => all i out (List.mem_append_left _ member)
    rw [run_append]
    show ∀ edit ∈ (Locked.step editing _ move).edits, _
    intro edit member
    rcases edits_step editing (run (Locked.step editing) (start first) moves) move with
      same | ⟨i, op, read, out, rfl, grown⟩
    · exact before edit (same ▸ member)
    · rw [grown] at member
      rcases List.mem_append.mp member with earlier | last
      · exact before edit earlier
      · rw [List.mem_singleton.mp last]
        exact all i out (List.mem_append_right _ List.mem_cons_self)

end Locked

end Triton.Lib
