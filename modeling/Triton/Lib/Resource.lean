/-
# Programs that trade resources

A stateful program is given some resources and hands out others; whatever else
its state holds is left alone. The resources are a multiset, so what matters is
how many of each there are and not where they came from. Beside them the state
answers for a log, and what the program adds to it keeps the order of its steps. The
rules follow the program text: an answer, one program after another, one run for each
item of a list.
-/

import Mathlib.Algebra.BigOperators.Group.List.Basic
import Mathlib.Algebra.Order.Group.Multiset
import Mathlib.Tactic.Abel

namespace Triton.Lib

variable {σ ι ε α β : Type}

/-- Run from a state that holds `takes` beside anything else, the program leaves a
state that holds what its answer `gives` beside the same, with `told` at the end of
the log. -/
def Trades (holds : σ → List ε → Multiset ι → Prop) (program : StateM σ α)
    (takes : Multiset ι) (told : List ε) (gives : α → Multiset ι) : Prop :=
  ∀ state log frame, holds state log (frame + takes) →
    holds (program state).2 (log ++ told) (frame + gives (program state).1)

/-- What several answers give. -/
def total (give : α → Multiset ι) (answers : List α) : Multiset ι := (answers.map give).sum

@[simp]
theorem total_nil (give : α → Multiset ι) : total give [] = 0 := rfl

@[simp]
theorem total_cons (give : α → Multiset ι) (answer : α) (rest : List α) :
    total give (answer :: rest) = give answer + total give rest := by
  simp [total]

@[simp]
theorem total_append (give : α → Multiset ι) (first second : List α) :
    total give (first ++ second) = total give first + total give second := by
  simp [total]

/-- One run for each item, with all answers together. -/
def gather (program : β → StateM σ (List α)) : List β → StateM σ (List α)
  | [] => pure []
  | item :: rest => do
      let first ← program item
      let others ← gather program rest
      return first ++ others

namespace Trades

variable {holds : σ → List ε → Multiset ι → Prop} {program : StateM σ α}
  {next : α → StateM σ β} {takes : Multiset ι} {told more : List ε} {mid : α → Multiset ι}
  {gives : β → Multiset ι}

theorem answer {gives : α → Multiset ι} {a : α} (same : takes = gives a) :
    Trades holds (pure a) takes [] gives := by
  intro state log frame held
  rw [same, ← List.append_nil log] at held
  exact held

/-- The first program uses up a part of what is there; the second one finds the
rest beside what the first one gave. -/
theorem bind {all : Multiset ι} (rest : Multiset ι) (first : Trades holds program takes told mid)
    (split : all = takes + rest)
    (second : ∀ a, Trades holds (next a) (mid a + rest) more gives) :
    Trades holds (program >>= next) all (told ++ more) gives := by
  intro state log frame held
  rw [split, add_comm takes, ← add_assoc] at held
  have between := first state log (frame + rest) held
  rw [add_assoc, add_comm rest] at between
  rw [← List.append_assoc]
  exact second _ _ _ frame between

/-- The first program needs nothing. -/
theorem tell (first : Trades holds program 0 told mid)
    (second : ∀ a, Trades holds (next a) (mid a + takes) more gives) :
    Trades holds (program >>= next) takes (told ++ more) gives :=
  first.bind takes (zero_add takes).symm second

/-- The first program needs nothing and tells nothing. -/
theorem seq (first : Trades holds program 0 [] mid)
    (second : ∀ a, Trades holds (next a) (mid a + takes) told gives) :
    Trades holds (program >>= next) takes told gives :=
  first.tell second

/-- Nothing is told after the first program. -/
theorem bind_quiet {all : Multiset ι} (rest : Multiset ι)
    (first : Trades holds program takes told mid) (split : all = takes + rest)
    (second : ∀ a, Trades holds (next a) (mid a + rest) [] gives) :
    Trades holds (program >>= next) all told gives := by
  have both := first.bind rest split second
  rwa [List.append_nil] at both

theorem last (first : Trades holds program 0 told mid)
    (second : ∀ a, Trades holds (next a) (mid a + takes) [] gives) :
    Trades holds (program >>= next) takes told gives :=
  first.bind_quiet takes (zero_add takes).symm second

/-- What is done with the answer tells nothing. -/
theorem done {f : α → β} (first : Trades holds program 0 told mid)
    (same : ∀ a, mid a + takes = gives (f a)) :
    Trades holds (do return f (← program)) takes told gives :=
  first.last fun a => answer (same a)

theorem map {f : α → β} (first : Trades holds program takes told mid)
    (same : ∀ a, mid a = gives (f a)) :
    Trades holds (do return f (← program)) takes told gives :=
  first.bind_quiet 0 (add_zero takes).symm fun a => answer ((add_zero _).trans (same a))

variable {give : α → Multiset ι}

theorem gather {program : β → StateM σ (List α)} {takes : β → Multiset ι} {told : β → List ε}
    {items : List β} {all : Multiset ι} {log : List ε}
    (each : ∀ item, Trades holds (program item) (takes item) (told item) (total give))
    (taken : total takes items = all) (said : items.flatMap told = log) :
    Trades holds (Lib.gather program items) all log (total give) := by
  subst taken said
  induction items with
  | nil => exact answer rfl
  | cons item rest ih =>
    rw [List.flatMap_cons]
    refine (each item).bind (total takes rest) (total_cons takes item rest) ?_
    intro first
    refine ih.bind_quiet (total give first) (add_comm _ _) ?_
    intro others
    apply answer
    rw [total_append, add_comm]

theorem foldlM {step : α → β → StateM σ α} {told : β → List ε}
    (each : ∀ a item, Trades holds (step a item) (give a) (told item) give) (items : List β)
    (start : α) :
    Trades holds (items.foldlM step start) (give start) (items.flatMap told) give := by
  induction items generalizing start with
  | nil => exact answer rfl
  | cons item rest ih =>
    rw [List.foldlM_cons, List.flatMap_cons]
    refine (each start item).bind 0 (add_zero _).symm ?_
    intro a
    rw [add_zero]
    exact ih a

end Trades

end Triton.Lib
