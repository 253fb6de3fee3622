/-
# Runs of a deterministic machine

A machine is a total step function; a run feeds it a list of inputs. An input
stands for whatever the environment decides at that point: which operation is
called, which process moves next, what a peer answers. Every interleaving of a
concurrent system is therefore one list of inputs, and "for every run" is a
quantifier over lists.

Two readings of a run are kept apart. `EveryState` looks at the states the run
passes through, `EveryStep` at its steps together with the state each one
starts from. The rules below turn a fact about one step into a fact about every
run, and, when a step keeps the invariant exactly under some condition, into an
equivalence between the two readings.
-/

import Mathlib.Data.List.Basic

namespace Triton.Lib

universe u v

variable {σ : Type u} {α : Type v}

/-- The state a machine reaches after reading all its inputs. -/
def run (step : σ → α → σ) (state : σ) (inputs : List α) : σ :=
  inputs.foldl step state

@[simp]
theorem run_nil (step : σ → α → σ) (state : σ) : run step state [] = state := rfl

@[simp]
theorem run_cons (step : σ → α → σ) (state : σ) (input : α) (inputs : List α) :
    run step state (input :: inputs) = run step (step state input) inputs := rfl

theorem run_append (step : σ → α → σ) (state : σ) (first second : List α) :
    run step state (first ++ second) = run step (run step state first) second :=
  List.foldl_append

/-- Every step of the run meets `meets` in the state it starts from. -/
def EveryStep (step : σ → α → σ) (meets : σ → α → Prop) : σ → List α → Prop
  | _, [] => True
  | state, input :: inputs =>
    meets state input ∧ EveryStep step meets (step state input) inputs

/-- Every state of the run, the first and the last included, satisfies
`holds`. -/
def EveryState (step : σ → α → σ) (holds : σ → Prop) : σ → List α → Prop
  | state, [] => holds state
  | state, input :: inputs =>
    holds state ∧ EveryState step holds (step state input) inputs

variable {step : σ → α → σ} {meets also : σ → α → Prop} {holds : σ → Prop}

@[simp]
theorem everyStep_nil (state : σ) : EveryStep step meets state [] := trivial

@[simp]
theorem everyStep_cons (state : σ) (input : α) (inputs : List α) :
    EveryStep step meets state (input :: inputs) ↔
      meets state input ∧ EveryStep step meets (step state input) inputs := Iff.rfl

/-- The condition on a run splits at any point of the run. -/
theorem everyStep_append (state : σ) (first second : List α) :
    EveryStep step meets state (first ++ second) ↔
      EveryStep step meets state first ∧
        EveryStep step meets (run step state first) second := by
  induction first generalizing state with
  | nil => simp
  | cons input inputs ih => simp [ih, and_assoc]

theorem everyStep_and (state : σ) (inputs : List α) :
    EveryStep step (fun state input => meets state input ∧ also state input) state inputs ↔
      EveryStep step meets state inputs ∧ EveryStep step also state inputs := by
  induction inputs generalizing state with
  | nil => simp
  | cons input inputs ih =>
    simp only [everyStep_cons, ih]
    exact and_and_and_comm

instance EveryStep.decidable [∀ state input, Decidable (meets state input)] :
    ∀ state inputs, Decidable (EveryStep step meets state inputs)
  | _, [] => isTrue trivial
  | state, input :: inputs =>
    have := EveryStep.decidable (step state input) inputs
    inferInstanceAs (Decidable (meets state input ∧ _))

variable {inputs : List α} {state : σ}

theorem EveryStep.imp (met : EveryStep step meets state inputs)
    (weaker : ∀ state input, meets state input → also state input) :
    EveryStep step also state inputs := by
  induction inputs generalizing state with
  | nil => trivial
  | cons input inputs ih => exact ⟨weaker state input met.1, ih met.2⟩

/-- Inputs that meet the condition in any state meet it along the run. -/
theorem everyStep_of_forall_mem (all : ∀ input ∈ inputs, ∀ state, meets state input) (state : σ) :
    EveryStep step meets state inputs := by
  induction inputs generalizing state with
  | nil => trivial
  | cons input inputs ih =>
    obtain ⟨first, rest⟩ := List.forall_mem_cons.mp all
    exact ⟨first state, ih rest _⟩

/-- What holds until an input fires holds where the first one does, and there is no
other. -/
theorem everyStep_of_countP_le_one {fires : α → Bool}
    (preserved : ∀ state input, holds state → meets state input → fires input = false →
      holds (step state input)) (initial : holds state) (met : EveryStep step meets state inputs)
    (once : inputs.countP fires ≤ 1) :
    EveryStep step (fun state input => fires input = true → holds state) state inputs := by
  induction inputs generalizing state with
  | nil => trivial
  | cons input inputs ih =>
    refine ⟨fun _ => initial, ?_⟩
    cases fired : fires input with
    | false =>
      rw [List.countP_cons_of_neg (by simp [fired])] at once
      exact ih (preserved state input initial met.1 fired) met.2 once
    | true =>
      rw [List.countP_cons_of_pos fired] at once
      have never : inputs.countP fires = 0 := by omega
      refine everyStep_of_forall_mem (fun later member _ again => ?_) _
      exact absurd again (List.countP_eq_zero.mp never later member)

section Invariant

variable (preserved : ∀ state input, holds state → meets state input → holds (step state input))
include preserved

/-- A fact that one step keeps under `meets` holds at the end of every run
whose steps meet it. -/
theorem run_invariant (initial : holds state) (met : EveryStep step meets state inputs) :
    holds (run step state inputs) := by
  induction inputs generalizing state with
  | nil => exact initial
  | cons input inputs ih =>
    exact ih (preserved state input initial met.1) met.2

/-- What the invariant gives about one state holds of every state the run passes
through. -/
theorem everyState_of_invariant {gives : σ → Prop} (implied : ∀ state, holds state → gives state)
    (initial : holds state) (met : EveryStep step meets state inputs) :
    EveryState step gives state inputs := by
  induction inputs generalizing state with
  | nil => exact implied state initial
  | cons input inputs ih =>
    exact ⟨implied state initial, ih (preserved state input initial met.1) met.2⟩

/-- What the invariant gives about one step holds of every step of the run. -/
theorem everyStep_of_invariant
    (gives : ∀ state input, holds state → meets state input → also state input)
    (initial : holds state) (met : EveryStep step meets state inputs) :
    EveryStep step also state inputs := by
  induction inputs generalizing state with
  | nil => trivial
  | cons input inputs ih =>
    exact ⟨gives state input initial met.1,
      ih (preserved state input initial met.1) met.2⟩

/-- Two conditions that agree wherever the invariant holds agree on whole runs. -/
theorem everyStep_congr_of_invariant
    (agree : ∀ state input, holds state → (meets state input ↔ also state input))
    (initial : holds state) :
    EveryStep step meets state inputs ↔ EveryStep step also state inputs := by
  constructor
  · exact everyStep_of_invariant preserved (fun state input here => (agree state input here).mp)
      initial
  · refine everyStep_of_invariant ?_ (fun state input here => (agree state input here).mpr) initial
    exact fun state input here met =>
      preserved state input here ((agree state input here).mpr met)

end Invariant

/-- A fact that every step keeps holds at the end of every run. -/
theorem run_keeps (preserved : ∀ state input, holds state → holds (step state input))
    (initial : holds state) (inputs : List α) : holds (run step state inputs) := by
  have unconditional : EveryStep step (fun _ _ => True) state inputs :=
    everyStep_of_forall_mem (fun _ _ _ => trivial) state
  exact run_invariant (fun state input here _ => preserved state input here) initial unconditional

/-- When a step keeps a fact exactly if it meets a condition, the fact holds along a
run exactly when all its steps meet the condition. -/
theorem everyState_iff_everyStep
    (exact : ∀ state input, holds state → (holds (step state input) ↔ meets state input))
    (initial : holds state) :
    EveryState step holds state inputs ↔ EveryStep step meets state inputs := by
  induction inputs generalizing state with
  | nil => exact iff_of_true initial trivial
  | cons input inputs ih =>
    have here := exact state input initial
    constructor
    · rintro ⟨_, later⟩
      have next : holds (step state input) := by
        cases inputs with
        | nil => exact later
        | cons _ _ => exact later.1
      exact ⟨here.mp next, (ih next).mp later⟩
    · rintro ⟨met, later⟩
      exact ⟨initial, (ih (here.mpr met)).mpr later⟩

end Triton.Lib
