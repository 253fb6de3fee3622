/-
# Coalesced rejections

An anonymous rejection is audited at once when it is the first of its key, and again
when a window has passed since the last one that was. The rejections in between are
counted, and the next line that is written carries the count. Nothing is lost on the
way: every rejection of a key is a line, is in the count of a later line, or is still
held.
-/

import Triton.Core.RateLimit
import Triton.Lib.History
import Triton.Lib.Run

namespace Triton.Core

open Triton.Lib

structure WindowState where
  /-- When the last line was written. -/
  opened : Instant
  suppressed : ℕ
  deriving DecidableEq, Repr

structure RejectionWindow where
  window : ℚ
  state : Table String WindowState

/-- What a call does to the state of its own key. The answer is the number of rejections
that the line stands for besides its own, if there is a line. -/
def WindowState.next (window : ℚ) (now : Instant) : Option WindowState → Option ℕ × WindowState
  | some w =>
    if durationSince now w.opened < window then
      (none, { w with suppressed := w.suppressed + 1 })
    else (some w.suppressed, ⟨now, 0⟩)
  | none => (some 0, ⟨now, 0⟩)

/-- The rejections that no line has carried out yet. -/
def WindowState.held (state : Option WindowState) : ℕ := (state.map WindowState.suppressed).getD 0

namespace RejectionWindow

def new (window : ℚ) : RejectionWindow := ⟨window, ∅⟩

/-- Should this rejection be audited? -/
def admitRejection (w : RejectionWindow) (key : String) (now : Instant) :
    Option ℕ × RejectionWindow :=
  if w.window = 0 then (some 0, w)
  else
    let (answer, state) := WindowState.next w.window now (w.state.lookup key)
    (answer, { w with state := w.state.insert key state })

end RejectionWindow

/-! ## Histories of calls -/

/-- A call, with its reading of the clock. -/
structure Rejection where
  key : String
  now : Instant
  deriving DecidableEq, Repr

/-- A call and its answer. -/
structure Verdict where
  call : Rejection
  answer : Option ℕ
  deriving DecidableEq, Repr

/-- The verdicts on the calls of one key. -/
def own (key : String) (log : List Verdict) : List Verdict := log.filter (·.call.key == key)

/-- When lines were written. -/
def emissions (verdicts : List Verdict) : List Instant :=
  (verdicts.filter (·.answer.isSome)).map (·.call.now)

/-- The rejections that the lines report besides their own. -/
def reported (verdicts : List Verdict) : ℕ := (verdicts.map (·.answer.getD 0)).sum

/-- The window of a process, and everything it was asked. -/
structure Coalescing where
  window : RejectionWindow
  log : List Verdict

namespace Coalescing

def start (window : ℚ) : Coalescing := ⟨.new window, []⟩

def step (s : Coalescing) (call : Rejection) : Coalescing :=
  let (answer, window) := s.window.admitRejection call.key call.now
  ⟨window, s.log ++ [⟨call, answer⟩]⟩

/-- What is kept for a key. -/
def stateOf (s : Coalescing) (key : String) : Option WindowState := s.window.state.lookup key

end Coalescing

/-- A call is answered with a line when it is the first of its key, and when a window
has passed since the last line. -/
def Prompt (window : ℚ) (before : List Verdict) (verdict : Verdict) : Prop :=
  (own verdict.call.key before = [] → verdict.answer.isSome = true) ∧
    ∀ last, (emissions (own verdict.call.key before)).getLast? = some last →
      last + window ≤ verdict.call.now → verdict.answer.isSome = true

/-- What the lines of a key tell. -/
structure Accounted (window : ℚ) (calls : List Rejection) (key : String) (s : Coalescing) :
    Prop where
  total : (calls.filter (·.key == key)).length =
    (emissions (own key s.log)).length + reported (own key s.log) +
      WindowState.held (s.stateOf key)
  apart : (emissions (own key s.log)).Pairwise fun earlier later => earlier + window ≤ later
  /-- Other keys do not matter. -/
  alone : own key s.log =
    (run Coalescing.step (.start window) (calls.filter (·.key == key))).log

/-! ## One key -/

/-- What the verdicts on one key and the state that is kept for it have to do with each
other. -/
structure Tracks (window : ℚ) (verdicts : List Verdict) (state : Option WindowState) : Prop where
  /-- The window was opened with the last line. -/
  opened : state.map WindowState.opened = (emissions verdicts).getLast?
  unseen : state = none ↔ verdicts = []
  apart : (emissions verdicts).Pairwise fun earlier later => earlier + window ≤ later
  total : verdicts.length =
    (emissions verdicts).length + reported verdicts + WindowState.held state

section Key

variable {window : ℚ} {verdicts : List Verdict} {state : Option WindowState} {w : WindowState}

theorem Tracks.nil (window : ℚ) : Tracks window [] none where
  opened := rfl
  unseen := iff_of_true rfl rfl
  apart := .nil
  total := rfl

/-- The three answers to a call, when coalescing is on. -/
theorem WindowState.next_cases (on : 0 < window) (state : Option WindowState) (now : Instant) :
    (state = none ∧ next window now state = (some 0, ⟨now, 0⟩)) ∨
    ∃ w, state = some w ∧
      ((now < w.opened + window ∧
        next window now state = (none, { w with suppressed := w.suppressed + 1 })) ∨
       (w.opened + window ≤ now ∧ next window now state = (some w.suppressed, ⟨now, 0⟩))) := by
  cases state with
  | none => exact .inl ⟨rfl, rfl⟩
  | some w =>
    refine .inr ⟨w, rfl, ?_⟩
    have within_iff : durationSince now w.opened < window ↔ now < w.opened + window := by
      rw [durationSince, max_lt_iff, and_iff_left on, sub_lt_iff_lt_add']
    by_cases inside : durationSince now w.opened < window
    · exact .inl ⟨within_iff.mp inside, if_pos inside⟩
    · exact .inr ⟨not_lt.mp (mt within_iff.mpr inside), if_neg inside⟩

/-- The last line of a key is not before its other lines. -/
theorem Tracks.le_opened (tracks : Tracks window verdicts (some w)) (on : 0 < window)
    {earlier : Instant} (member : earlier ∈ emissions verdicts) : earlier ≤ w.opened := by
  have opened := tracks.opened
  rw [Option.map_some, eq_comm, List.getLast?_eq_some_iff] at opened
  obtain ⟨front, lines⟩ := opened
  have apart := tracks.apart
  rw [lines] at member apart
  rcases List.mem_append.mp member with before | last
  · have gap := (List.pairwise_append.mp apart).2.2 earlier before w.opened (by simp)
    linarith
  · exact (List.mem_singleton.mp last).le

/-- A call that is answered with a line, which carries out what was held. -/
theorem Tracks.emit (tracks : Tracks window verdicts state) {call : Rejection}
    (later : ∀ earlier ∈ emissions verdicts, earlier + window ≤ call.now) :
    Tracks window (verdicts ++ [⟨call, some (WindowState.held state)⟩]) (some ⟨call.now, 0⟩) := by
  have lines : emissions (verdicts ++ [⟨call, some (WindowState.held state)⟩]) =
      emissions verdicts ++ [call.now] := by simp [emissions]
  constructor
  case opened =>
    rw [lines]
    simp
  case unseen => simp
  case apart =>
    rw [lines, List.pairwise_append]
    refine ⟨tracks.apart, List.pairwise_singleton _ _, fun earlier member line last => ?_⟩
    rw [List.mem_singleton.mp last]
    exact later earlier member
  case total =>
    rw [lines, List.length_append, List.length_append, tracks.total]
    simp [reported, WindowState.held]
    omega

/-- A call of the key. -/
theorem Tracks.next (tracks : Tracks window verdicts state) (on : 0 < window) (call : Rejection) :
    Tracks window (verdicts ++ [⟨call, (WindowState.next window call.now state).1⟩])
      (some (WindowState.next window call.now state).2) := by
  rcases WindowState.next_cases on state call.now with
    ⟨rfl, answered⟩ | ⟨w, rfl, ⟨_, answered⟩ | ⟨late, answered⟩⟩
  · rw [answered]
    apply tracks.emit
    rw [tracks.unseen.mp rfl]
    simp [emissions]
  · rw [answered]
    have lines : emissions (verdicts ++ [⟨call, none⟩]) = emissions verdicts := by simp [emissions]
    constructor
    case opened =>
      rw [lines]
      exact tracks.opened
    case unseen => simp
    case apart =>
      rw [lines]
      exact tracks.apart
    case total =>
      have before := tracks.total
      simp only [WindowState.held, Option.map_some, Option.getD_some] at before ⊢
      rw [lines, List.length_append, before]
      simp [reported]
      omega
  · rw [answered]
    apply tracks.emit
    intro earlier member
    have := tracks.le_opened on member
    linarith

/-- A call that does not get a line is not the first of its key, and comes within a
window of the last line. -/
theorem Tracks.prompt (tracks : Tracks window verdicts state) (on : 0 < window) (now : Instant) :
    (verdicts = [] → (WindowState.next window now state).1.isSome = true) ∧
      ∀ last, (emissions verdicts).getLast? = some last → last + window ≤ now →
        (WindowState.next window now state).1.isSome = true := by
  rcases WindowState.next_cases on state now with
    ⟨rfl, answered⟩ | ⟨w, rfl, ⟨early, answered⟩ | ⟨late, answered⟩⟩
  · rw [answered]
    exact ⟨fun _ => rfl, fun _ _ _ => rfl⟩
  · rw [answered]
    constructor
    · intro first
      cases tracks.unseen.mpr first
    · intro last line late
      rw [← tracks.opened] at line
      cases line
      exact absurd late (not_le.mpr early)
  · rw [answered]
    exact ⟨fun _ => rfl, fun _ _ _ => rfl⟩

end Key

/-! ## Whole histories -/

namespace Coalescing

variable {s : Coalescing} {key : String}

/-- One call, when coalescing is on. -/
theorem step_eq (on : 0 < s.window.window) (call : Rejection) :
    s.step call =
      ⟨{ s.window with
          state := s.window.state.insert call.key
            (WindowState.next s.window.window call.now (s.stateOf call.key)).2 },
        s.log ++ [⟨call, (WindowState.next s.window.window call.now (s.stateOf call.key)).1⟩]⟩ := by
  rw [step, RejectionWindow.admitRejection, if_neg on.ne']
  rfl

/-- A call shows up at its own key only. -/
theorem own_step (on : 0 < s.window.window) (call : Rejection) (key : String) :
    (own key (s.step call).log, (s.step call).stateOf key) =
      if call.key = key then
        (own key s.log ++ [⟨call, (WindowState.next s.window.window call.now (s.stateOf key)).1⟩],
          some (WindowState.next s.window.window call.now (s.stateOf key)).2)
      else (own key s.log, s.stateOf key) := by
  rw [step_eq on]
  split
  case isTrue same =>
    subst same
    simp [own, stateOf]
  case isFalse other =>
    simp [own, stateOf, other, AList.lookup_insert_ne (Ne.symm other)]

/-- Every history keeps its accounts, key by key. -/
structure Kept (window : ℚ) (s : Coalescing) : Prop where
  window_eq : s.window.window = window
  tracks : ∀ key, Tracks window (own key s.log) (s.stateOf key)
  prompt : Obeys (Prompt window) s.log

theorem Kept.step {window : ℚ} (on : 0 < window) (s : Coalescing) (call : Rejection)
    (kept : s.Kept window) : (s.step call).Kept window := by
  obtain ⟨rfl, tracks, prompt⟩ := kept
  constructor
  case window_eq => rw [step_eq on]
  case tracks =>
    intro key
    have after := own_step on call key
    split at after
    case isTrue =>
      obtain ⟨verdicts, state⟩ := Prod.mk.inj after
      rw [verdicts, state]
      exact (tracks key).next on call
    case isFalse =>
      obtain ⟨verdicts, state⟩ := Prod.mk.inj after
      rw [verdicts, state]
      exact tracks key
  case prompt =>
    rw [step_eq on]
    exact Obeys.concat_iff.mpr ⟨prompt, (tracks call.key).prompt on call.now⟩

/-- The calls of a key are answered as if there were no others. -/
theorem own_run_eq {t : Coalescing} (on : 0 < s.window.window)
    (window : s.window.window = t.window.window) (state : s.stateOf key = t.stateOf key)
    (log : own key s.log = t.log) (calls : List Rejection) :
    own key (run step s calls).log = (run step t (calls.filter (·.key == key))).log := by
  induction calls generalizing s t with
  | nil => exact log
  | cons call calls ih =>
    have after := own_step on call key
    by_cases here : call.key = key
    · subst here
      rw [if_pos rfl] at after
      obtain ⟨verdicts, next⟩ := Prod.mk.inj after
      rw [List.filter_cons_of_pos (by simp), run_cons, run_cons]
      have alone := step_eq (window ▸ on) call
      apply ih
      · rwa [step_eq on]
      · rwa [step_eq on, alone]
      · rw [next, alone, window, state]
        simp [stateOf]
      · rw [verdicts, alone, log, window, state]
    · rw [if_neg here] at after
      obtain ⟨verdicts, same⟩ := Prod.mk.inj after
      rw [List.filter_cons_of_neg (by simpa using here), run_cons]
      apply ih
      · rwa [step_eq on]
      · rwa [step_eq on]
      · rwa [same]
      · rwa [verdicts]

theorem length_log_run (s : Coalescing) (calls : List Rejection) :
    (run step s calls).log.length = s.log.length + calls.length := by
  induction calls generalizing s with
  | nil => rfl
  | cons call calls ih =>
    rw [run_cons, ih, step]
    simp only [List.length_append, List.length_cons, List.length_nil]
    omega

end Coalescing

/-- Of every history of calls with any keys: each call of a key is a line, is reported by
a line or is still held; lines of a key are a window apart; the first call of a key and
every call a window after the last line get a line; and the calls of other keys change
nothing in this. -/
theorem rejections_accounted {window : ℚ} (on : 0 < window) (calls : List Rejection) :
    Obeys (Prompt window) (run Coalescing.step (.start window) calls).log ∧
      ∀ key, Accounted window calls key (run Coalescing.step (.start window) calls) := by
  have started : (Coalescing.start window).Kept window :=
    { window_eq := rfl, tracks := fun _ => .nil window, prompt := .nil }
  have kept := run_keeps (Coalescing.Kept.step on) started calls
  refine ⟨kept.prompt, fun key => ?_⟩
  have tracks := kept.tracks key
  have alone := @Coalescing.own_run_eq (.start window) key (.start window) on rfl rfl rfl calls
  have counted := Coalescing.length_log_run (.start window) (calls.filter (·.key == key))
  rw [← alone, tracks.total] at counted
  exact { total := by simpa [Coalescing.start] using counted.symm, apart := tracks.apart, alone }

/-- Of three calls a second apart, with a window of two seconds, the third reports the
second. -/
theorem third_rejection_reports_second :
    (run Coalescing.step (.start 2) [⟨"rest", 0⟩, ⟨"rest", 1⟩, ⟨"rest", 2⟩]).log.map
        Verdict.answer = [some 0, none, some 1] ∧
      Accounted 2 [⟨"rest", 0⟩, ⟨"rest", 1⟩, ⟨"rest", 2⟩] "rest"
        (run Coalescing.step (.start 2) [⟨"rest", 0⟩, ⟨"rest", 1⟩, ⟨"rest", 2⟩]) :=
  ⟨by decide +kernel, (rejections_accounted (by norm_num) _).2 "rest"⟩

end Triton.Core
