/-
# Histories

A history lists what happened, oldest first. A rule says whether an event may
happen after a given history; a history obeys the rule when every one of its
events did.
-/

import Mathlib.Data.List.Induction

namespace Triton.Lib

universe u

variable {ε : Type u}

/-- Every event was allowed by what came before it. -/
def Obeys (allows : List ε → ε → Prop) (history : List ε) : Prop :=
  ∀ before event after, history = before ++ event :: after → allows before event

namespace Obeys

variable {allows : List ε → ε → Prop} {history : List ε}

theorem nil : Obeys allows [] := by
  intro before event after split
  simp at split

/-- One more event is allowed by the history so far. -/
theorem concat_iff {event : ε} :
    Obeys allows (history ++ [event]) ↔ Obeys allows history ∧ allows history event := by
  constructor
  · intro obeys
    refine ⟨fun before last after split => ?_, obeys history event [] rfl⟩
    exact obeys before last (after ++ [event]) (by rw [split]; simp)
  · rintro ⟨obeys, allowed⟩ before last after split
    rcases List.eq_nil_or_concat after with rfl | ⟨rest, final, rfl⟩
    · obtain ⟨rfl, same⟩ := List.append_inj' split rfl
      cases same
      exact allowed
    · have longer : history ++ [event] = (before ++ last :: rest) ++ [final] := by
        simpa using split
      exact obeys before last rest (List.append_inj' longer rfl).1

/-- Events that are allowed at any time may be added. -/
theorem append {log : List ε} (obeys : Obeys allows history)
    (allowed : ∀ event ∈ log, ∀ before, allows before event) : Obeys allows (history ++ log) := by
  induction log using List.reverseRecOn with
  | nil => rwa [List.append_nil]
  | append_singleton log event ih =>
    rw [← List.append_assoc]
    refine concat_iff.mpr ⟨ih fun other member => allowed other (by simp [member]), ?_⟩
    exact allowed event (by simp) _

end Obeys

end Triton.Lib
