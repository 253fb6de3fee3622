/-
# Following a broadcast channel to its end

A broadcast channel remembers the last few values sent on it. Every reader keeps
its own place: one that falls too far behind is told that it lagged and goes on
with the oldest value still there, and one that has read everything learns that
the channel is closed when nobody can send any more.

The readers here tell their caller something for each value, and stop at a value
that ends the channel. Such a value is the last one sent, so no lag can lose it.
A reader that comes too late for it, or whose channel is closed without one, is
given an ending from elsewhere. Either way a reader that stops has told exactly
one ending, and one whose channel is closed does stop.
-/

import Mathlib.Data.List.Basic
import Mathlib.Logic.Function.Iterate

namespace Triton.Lib

universe u v

variable {α : Type u} {β : Type v}

/-! ## Sequences with one ending -/

/-- No ending so far. -/
def Ongoing (isEnd : α → Bool) (sent : List α) : Prop := ∀ a ∈ sent, isEnd a = false

/-- The last item is an ending, and the only one. -/
def EndsWith (isEnd : α → Bool) (sent : List α) (last : α) : Prop :=
  ∃ before, sent = before ++ [last] ∧ Ongoing isEnd before ∧ isEnd last = true

variable {isEnd : α → Bool} {isEnding : β → Bool} {sent later : List α} {a : α} {b : β}

theorem Ongoing.append {first second : List α} (one : Ongoing isEnd first)
    (other : Ongoing isEnd second) : Ongoing isEnd (first ++ second) := by
  intro a member
  rcases List.mem_append.mp member with early | late
  · exact one a early
  · exact other a late

theorem Ongoing.concat (ongoing : Ongoing isEnd sent) (goes : isEnd a = false) :
    Ongoing isEnd (sent ++ [a]) :=
  ongoing.append (List.forall_mem_singleton.mpr goes)

theorem Ongoing.endsWith_append {first second : List β} (ongoing : Ongoing isEnding first)
    (ends : EndsWith isEnding second b) : EndsWith isEnding (first ++ second) b := by
  obtain ⟨before, rfl, quiet, isLast⟩ := ends
  exact ⟨first ++ before, (List.append_assoc ..).symm, ongoing.append quiet, isLast⟩

theorem EndsWith.not_ongoing (ends : EndsWith isEnd sent a) : ¬ Ongoing isEnd sent := by
  obtain ⟨before, rfl, _, isLast⟩ := ends
  intro ongoing
  have goes := ongoing a (by simp)
  rw [isLast] at goes
  cases goes

/-- The one item that ends a sequence is its last. -/
theorem EndsWith.of_getElem? (ends : EndsWith isEnd sent a) {n : Nat} {item : α}
    (found : sent[n]? = some item) (isLast : isEnd item = true) : item = a := by
  obtain ⟨before, rfl, quiet, _⟩ := ends
  rcases List.mem_append.mp (List.mem_of_getElem? found) with early | late
  · rw [quiet item early] at isLast
    cases isLast
  · exact List.mem_singleton.mp late

theorem EndsWith.eq_last {b : α} (ends : EndsWith isEnd sent a) (others : EndsWith isEnd sent b) :
    a = b := by
  obtain ⟨before, rfl, _, isLast⟩ := ends
  exact others.of_getElem? List.getElem?_concat_length isLast

theorem endsWith_singleton (isLast : isEnd a = true) : EndsWith isEnd [a] a :=
  ⟨[], rfl, fun _ member => (by cases member), isLast⟩

/-- How a channel may go on: not at all, or with one more value unless it has had
its ending. -/
def Grows (isEnd : α → Bool) (sent later : List α) : Prop :=
  later = sent ∨ Ongoing isEnd sent ∧ ∃ a, later = sent ++ [a]

theorem Grows.eq_of_endsWith (grows : Grows isEnd sent later) (ends : EndsWith isEnd sent a) :
    later = sent := by
  rcases grows with same | ⟨ongoing, _⟩
  · exact same
  · exact absurd ongoing ends.not_ongoing

theorem Grows.take_eq (grows : Grows isEnd sent later) {n : Nat} (inside : n ≤ sent.length) :
    later.take n = sent.take n := by
  rcases grows with rfl | ⟨_, a, rfl⟩
  · rfl
  · exact List.take_append_of_le_length inside

theorem Grows.length_le (grows : Grows isEnd sent later) : sent.length ≤ later.length := by
  rcases grows with rfl | ⟨_, a, rfl⟩
  · exact Nat.le_refl _
  · rw [List.length_append]
    exact Nat.le_add_right _ _

/-! ## Receiving -/

/-- What a receiver finds on the channel. -/
inductive Received (α : Type u) where
  | event (value : α)
  | lagged
  | closed
  | pending

/-- Receive from a channel that remembers the last `capacity` values; the
receiver's place moves on. -/
def recv (capacity : Nat) (sent : List α) (isOpen : Bool) (position : Nat) : Received α × Nat :=
  if position + capacity < sent.length then (.lagged, sent.length - capacity)
  else
    match sent[position]? with
    | some value => (.event value, position + 1)
    | none => (if isOpen then .pending else .closed, position)

/-! ## Readers -/

/-- A reader: its place on the channel, what it has told, and whether it has
stopped. -/
structure Reader (β : Type v) where
  position : Nat
  told : List β
  isOver : Bool

namespace Reader

/-- One round of a reader. It tells `tell` of a value and stops at an ending; when
the channel is closed it tells `closing` and stops. -/
def poll (isEnd : α → Bool) (capacity : Nat) (sent : List α) (isOpen : Bool)
    (tell : α → List β) (closing : List β) (r : Reader β) : Reader β :=
  if r.isOver then r
  else
    match recv capacity sent isOpen r.position with
    | (.event value, position) => ⟨position, r.told ++ tell value, isEnd value⟩
    | (.lagged, position) => { r with position := position }
    | (.closed, position) => ⟨position, r.told ++ closing, true⟩
    | (.pending, _) => r

/-- A reader that has told no ending yet and has one before it: on the channel,
or, where `kept` says so, elsewhere. -/
structure Waits (isEnd : α → Bool) (isEnding : β → Bool) (sent : List α) (kept : Prop)
    (r : Reader β) : Prop where
  unfinished : r.isOver = false
  quiet : Ongoing isEnding r.told
  inside : r.position ≤ sent.length
  abreast : Ongoing isEnd (sent.take r.position) ∨ kept

/-- A reader that has stopped, with an ending that fits. -/
structure Stopped (isEnding : β → Bool) (fits : β → Prop) (r : Reader β) : Prop where
  finished : r.isOver = true
  ends : ∃ last, EndsWith isEnding r.told last ∧ fits last

/-- What is told of a channel: nothing that ends before its ending, and endings
that fit, be it at the end of the channel or when it is closed. -/
structure Tells (isEnd : α → Bool) (isEnding : β → Bool) (sent : List α) (isOpen : Bool)
    (kept : Prop) (fits : β → Prop) (tell : α → List β) (closing : List β) : Prop where
  goesOn : ∀ value, isEnd value = false → Ongoing isEnding (tell value)
  ends : ∀ value, EndsWith isEnd sent value → ∃ last, EndsWith isEnding (tell value) last ∧
    fits last
  closes : isOpen = false → Ongoing isEnd sent ∨ kept →
    ∃ last, EndsWith isEnding closing last ∧ fits last

variable {capacity : Nat} {isOpen : Bool} {kept still : Prop} {fits : β → Prop}
  {tell : α → List β} {closing : List β} {r : Reader β}

/-- What a round of a reader that has not stopped can come to. -/
theorem poll_cases (isEnd : α → Bool) (capacity : Nat) (sent : List α) (isOpen : Bool)
    (tell : α → List β) (closing : List β) (going : r.isOver = false) :
    let after := r.poll isEnd capacity sent isOpen tell closing
    (r.position + capacity < sent.length ∧ after = { r with position := sent.length - capacity }) ∨
      (∃ value, sent[r.position]? = some value ∧
        after = ⟨r.position + 1, r.told ++ tell value, isEnd value⟩) ∨
      (sent.length ≤ r.position ∧ isOpen = true ∧ after = r) ∨
      (sent.length ≤ r.position ∧ isOpen = false ∧
        after = ⟨r.position, r.told ++ closing, true⟩) := by
  simp only [Reader.poll, going, recv, Bool.false_eq_true, if_false]
  by_cases behind : r.position + capacity < sent.length
  · simp [behind]
  · cases found : sent[r.position]? with
    | some value => simp [behind]
    | none =>
      have caught := List.getElem?_eq_none_iff.mp found
      cases isOpen <;> simp [behind, caught]

theorem Waits.grow (waits : r.Waits isEnd isEnding sent kept) (grows : Grows isEnd sent later)
    (keeps : kept → still) : r.Waits isEnd isEnding later still where
  unfinished := waits.unfinished
  quiet := waits.quiet
  inside := Nat.le_trans waits.inside grows.length_le
  abreast := by
    rw [grows.take_eq waits.inside]
    exact waits.abreast.imp_right keeps

/-- A round leaves a reader that waits waiting, or it stops with an ending that
fits, on a channel that has ended or is closed. -/
theorem Waits.poll (waits : r.Waits isEnd isEnding sent kept) (room : 0 < capacity)
    (shape : Ongoing isEnd sent ∨ ∃ last, EndsWith isEnd sent last)
    (tells : Tells isEnd isEnding sent isOpen kept fits tell closing) :
    (r.poll isEnd capacity sent isOpen tell closing).Waits isEnd isEnding sent kept ∨
      (r.poll isEnd capacity sent isOpen tell closing).Stopped isEnding fits ∧
        ((∃ last, EndsWith isEnd sent last) ∨ isOpen = false) := by
  rcases poll_cases isEnd capacity sent isOpen tell closing waits.unfinished with
    ⟨behind, lagged⟩ | ⟨value, found, received⟩ | ⟨_, _, pending⟩ | ⟨caught, isClosed, closed⟩
  · left
    rw [lagged]
    refine ⟨waits.unfinished, waits.quiet, Nat.sub_le _ _, .inl ?_⟩
    -- the ending is the last value, so it is among those still there
    rcases shape with ongoing | ⟨last, ends⟩
    · exact fun a member => ongoing a (List.mem_of_mem_take member)
    · obtain ⟨before, rfl, quiet, _⟩ := ends
      rw [List.length_append, List.length_singleton] at behind
      simp only [List.length_append, List.length_singleton]
      rw [List.take_append_of_le_length (by omega)]
      exact fun a member => quiet a (List.mem_of_mem_take member)
  · obtain ⟨inside, here⟩ := List.getElem?_eq_some_iff.mp found
    rw [received]
    cases isLast : isEnd value with
    | false =>
      left
      refine ⟨rfl, waits.quiet.append (tells.goesOn value isLast), inside, ?_⟩
      refine waits.abreast.imp_left fun ongoing => ?_
      rw [List.take_succ_eq_append_getElem inside, here]
      exact ongoing.concat isLast
    | true =>
      right
      have ends : EndsWith isEnd sent value := by
        rcases shape with ongoing | ⟨last, ends⟩
        · rw [ongoing value (List.mem_of_getElem? found)] at isLast
          cases isLast
        · rwa [ends.of_getElem? found isLast]
      obtain ⟨last, told, right⟩ := tells.ends value ends
      exact ⟨⟨rfl, last, waits.quiet.endsWith_append told, right⟩, .inl ⟨value, ends⟩⟩
  · rw [pending]
    exact .inl waits
  · right
    have abreast := waits.abreast
    rw [List.take_of_length_le caught] at abreast
    obtain ⟨last, told, right⟩ := tells.closes isClosed abreast
    rw [closed]
    exact ⟨⟨rfl, last, waits.quiet.endsWith_append told, right⟩, .inr isClosed⟩

theorem poll_of_isOver (isOver : r.isOver = true) :
    r.poll isEnd capacity sent isOpen tell closing = r := by
  simp [Reader.poll, isOver]

/-- On a closed channel every round stops the reader or takes it forward. -/
theorem poll_of_closed (isEnd : α → Bool) (sent : List α) (tell : α → List β) (closing : List β)
    (going : r.isOver = false) (room : 0 < capacity) :
    (r.poll isEnd capacity sent false tell closing).isOver = true ∨
      r.position < sent.length ∧
        r.position < (r.poll isEnd capacity sent false tell closing).position := by
  rcases poll_cases isEnd capacity sent false tell closing going with
    ⟨behind, lagged⟩ | ⟨value, found, received⟩ | ⟨_, isOpen, _⟩ | ⟨_, _, closed⟩
  · right
    rw [lagged]
    simp only
    omega
  · right
    rw [received]
    exact ⟨(List.getElem?_eq_some_iff.mp found).1, Nat.lt_succ_self _⟩
  · cases isOpen
  · left
    rw [closed]

/-- A reader of a closed channel stops. -/
theorem exists_over (isEnd : α → Bool) (sent : List α) (tell : α → List β) (closing : List β)
    (room : 0 < capacity) (r : Reader β) :
    ∃ n, ((Reader.poll isEnd capacity sent false tell closing)^[n] r).isOver = true := by
  -- the induction is on what the channel still holds for the reader
  induction remaining : sent.length - r.position using Nat.strongRecOn generalizing r with
  | ind left ih =>
    cases isOver : r.isOver with
    | true => exact ⟨0, isOver⟩
    | false =>
      rcases poll_of_closed isEnd sent tell closing isOver room with stopped | ⟨inside, forward⟩
      · exact ⟨1, stopped⟩
      · have less : sent.length - (r.poll isEnd capacity sent false tell closing).position <
            left := by omega
        obtain ⟨n, stopped⟩ := ih _ less _ rfl
        exact ⟨n + 1, stopped⟩

end Reader

end Triton.Lib
