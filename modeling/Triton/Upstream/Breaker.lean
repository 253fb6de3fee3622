/-
# The circuit breaker of one tool

After enough consecutive faults the breaker opens and calls fail fast. Once the
cooldown is over, one call is let through as a probe; the breaker is half-open
until somebody reports. Instants are nanoseconds of a monotone clock.
-/

import Mathlib.Data.UInt

namespace Triton.Upstream

inductive BreakerState where
  | closed
  | open
  | halfOpen
  deriving DecidableEq, Repr

structure Breaker where
  state : BreakerState
  failures : UInt32
  openedAt : Option Nat
  deriving DecidableEq, Repr

/-- What a call is told: may it go on, and is it the half-open probe? -/
structure BreakerPermission where
  allowed : Bool
  wasHalfOpen : Bool
  deriving DecidableEq, Repr

def saturatingSucc (n : UInt32) : UInt32 := if n = 0xFFFFFFFF then n else n + 1

namespace Breaker

def new : Breaker := ⟨.closed, 0, none⟩

/-- Has the cooldown passed since the breaker opened? -/
def cooledDown (b : Breaker) (now cooldown : Nat) : Bool :=
  match b.openedAt with
  | some opened => cooldown ≤ now - opened
  | none => false

def checkAndArm (b : Breaker) (now cooldown : Nat) : Breaker × BreakerPermission :=
  match b.state with
  | .closed => (b, ⟨true, false⟩)
  | .open =>
    if b.cooledDown now cooldown then ({ b with state := .halfOpen }, ⟨true, true⟩)
    else (b, ⟨false, false⟩)
  | .halfOpen => (b, ⟨false, false⟩)

def observe (b : Breaker) (now : Nat) (success wasHalfOpen : Bool) (openAfter : UInt32) :
    Breaker :=
  if wasHalfOpen then
    if success then ⟨.closed, 0, none⟩
    else { b with state := .open, openedAt := some now }
  else if success then ⟨.closed, 0, none⟩
  else
    let failures := saturatingSucc b.failures
    if openAfter ≤ failures then ⟨.open, failures, some now⟩ else { b with failures := failures }

/-! ## What one step can do -/

/-- Arming either hands out the probe and turns an open breaker half-open, or
leaves the breaker alone; a half-open breaker lets nobody through. -/
theorem checkAndArm_cases (b : Breaker) (now cooldown : Nat) :
    (b.checkAndArm now cooldown = ({ b with state := .halfOpen }, ⟨true, true⟩) ∧
        b.state = .open) ∨
      (∃ allowed, b.checkAndArm now cooldown = (b, ⟨allowed, false⟩) ∧
        (allowed = true → b.state = .closed)) := by
  unfold checkAndArm
  cases state : b.state with
  | closed => exact .inr ⟨true, rfl, fun _ => rfl⟩
  | halfOpen => exact .inr ⟨false, rfl, fun h => by cases h⟩
  | «open» =>
    by_cases cool : b.cooledDown now cooldown = true
    · exact .inl ⟨by simp [cool], rfl⟩
    · exact .inr ⟨false, by simp [cool], fun h => by cases h⟩

/-- A probe's report always settles the breaker. -/
theorem observe_probe_state (b : Breaker) (now : Nat) (success : Bool) (openAfter : UInt32) :
    (b.observe now success true openAfter).state ≠ .halfOpen := by
  cases success <;> simp [observe]

/-- Another call's report never makes the breaker half-open. -/
theorem observe_other_state (b : Breaker) (now : Nat) (success : Bool) (openAfter : UInt32)
    (after : (b.observe now success false openAfter).state = .halfOpen) :
    b.state = .halfOpen := by
  cases success with
  | true => simp [observe] at after
  | false =>
    simp only [observe, Bool.false_eq_true, if_false] at after
    split at after
    · cases after
    · exact after

end Breaker

end Triton.Upstream
