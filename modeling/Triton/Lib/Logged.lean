/-
# Computations that leave a log

A computation with outward effects is its result together with the list of
effects it performed, in order. Sequencing concatenates the lists, so a
statement about the log of a composed computation reduces to statements about
the logs of its parts.
-/

import Mathlib.Data.List.Basic

namespace Triton.Lib

universe u v

/-- A result and the effects performed on the way to it. -/
structure Logged (ε : Type u) (α : Type v) where
  log : List ε
  value : α

namespace Logged

variable {ε : Type u} {α β : Type v}

/-- Perform one effect. -/
def tell (effect : ε) : Logged ε PUnit.{v + 1} := ⟨[effect], ⟨⟩⟩

instance : Monad (Logged.{u, v} ε) where
  pure value := ⟨[], value⟩
  bind first next := ⟨first.log ++ (next first.value).log, (next first.value).value⟩

@[simp]
theorem log_pure (value : α) : (pure value : Logged ε α).log = [] := rfl

@[simp]
theorem value_pure (value : α) : (pure value : Logged ε α).value = value := rfl

@[simp]
theorem log_bind (first : Logged ε α) (next : α → Logged ε β) :
    (first >>= next).log = first.log ++ (next first.value).log := rfl

@[simp]
theorem value_bind (first : Logged ε α) (next : α → Logged ε β) :
    (first >>= next).value = (next first.value).value := rfl

@[simp]
theorem log_tell (effect : ε) : (tell effect : Logged ε PUnit.{v + 1}).log = [effect] := rfl

end Logged

end Triton.Lib
