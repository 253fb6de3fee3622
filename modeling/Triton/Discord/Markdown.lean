/-
# Text that Discord reads as Markdown

Every message content is Markdown, and some words in it call people. The adapter means
to show what a producer wrote and not to let it act: it puts a backslash before each
metacharacter, or it puts the text into a code fence.

A message is read here the way Discord reads it. A backslash takes the meaning from the
character after it, and between three backticks and the next three nothing has a
meaning; backticks that are never closed open nothing. A text is inert when no
metacharacter and no mention of the producer's is read outside a fence, and no fence is
closed by the producer.
-/

import Triton.Lib.Marked

namespace Triton.Discord

open Triton.Lib

def metacharacters : List Char :=
  ['\\', '*', '_', '~', '`', '>', '|', '#', '-', '+', '.', '!', '[', ']', '(', ')']

def isMeta (c : Char) : Bool := metacharacters.contains c

def escapeChar (c : Char) : Marked :=
  if isMeta c then [('\\', false), (c, true)] else [(c, true)]

/-- A producer's text with the adapter's backslashes. -/
def mdEscape (s : String) : Marked := s.toList.flatMap escapeChar

def mentionTriggers : List String := ["@everyone", "@here", "<@"]

/-- A mention of the producer's begins here. -/
def startsMention (m : Marked) : Bool :=
  mentionTriggers.any fun t => (Marked.produced t).isPrefixOf m

/-- No three backticks in a row, after so many of them. -/
def tripleFree : ℕ → Marked → Bool
  | _, [] => true
  | ticks, x :: rest =>
    if x.1 = '`' then ticks < 2 && tripleFree (ticks + 1) rest else tripleFree 0 rest

/-- Where the reader stands. Backticks in a row are counted, and inside a fence it is
noted whether one of them is the producer's. -/
inductive Mode where
  | prose (ticks : ℕ)
  | escaped
  | fence (ticks : ℕ) (foreign : Bool)

def inert : Mode → Marked → Bool
  | _, [] => true
  | .escaped, _ :: rest => inert (.prose 0) rest
  | .prose ticks, x :: rest =>
    if x.2 && (isMeta x.1 || startsMention (x :: rest)) then false
    else if x.1 = '\\' then inert .escaped rest
    else if x.1 = '`' then
      if ticks < 2 then inert (.prose (ticks + 1)) rest
      -- Three backticks are a fence only when three more follow somewhere.
      else if tripleFree 0 rest then inert (.prose 0) rest
      else inert (.fence 0 false) rest
    else inert (.prose 0) rest
  | .fence ticks foreign, x :: rest =>
    if x.1 = '`' then
      if ticks < 2 then inert (.fence (ticks + 1) (foreign || x.2)) rest
      else !(foreign || x.2) && inert (.prose 0) rest
    else inert (.fence 0 false) rest

/-- No text of the producer's has a meaning in this message. -/
def Inert (m : Marked) : Prop := inert (.prose 0) m = true

instance (m : Marked) : Decidable (Inert m) := inferInstanceAs (Decidable (_ = true))

/-! ## Pieces of a message -/

/-- No mention of the producer's. -/
def mentionFree : Marked → Bool
  | [] => true
  | x :: rest => !startsMention (x :: rest) && mentionFree rest

/-- A text of the producer's without a mention. -/
def isCalm (s : String) : Bool := !mentionTriggers.any fun t => Text.contains s t

/-- A text of the producer's without a metacharacter. -/
def isPlain (s : String) : Bool := !s.toList.any isMeta

/-- No metacharacter of the producer's. -/
def metaFree (m : Marked) : Bool := m.all fun x => !(x.2 && isMeta x.1)

/-- A character that neither escapes nor fences. -/
def isQuiet (c : Char) : Bool := c != '\\' && c != '`'

/-- The adapter's characters do nothing to what stands beside them. -/
def Neutral (m : Marked) : Prop := ∀ x ∈ m, x.2 = false → isQuiet x.1 = true

/-- Each metacharacter of the producer's has its backslash. A cut can leave a backslash
at the end. -/
inductive Guarded : Marked → Prop where
  | nil : Guarded []
  | own {c : Char} {m : Marked} (quiet : isQuiet c = true) (rest : Guarded m) :
      Guarded ((c, false) :: m)
  | plain {c : Char} {m : Marked} (harmless : isMeta c = false) (rest : Guarded m) :
      Guarded ((c, true) :: m)
  | escaped {c : Char} {m : Marked} (meaning : isMeta c = true) (rest : Guarded m) :
      Guarded (('\\', false) :: (c, true) :: m)
  | dangling : Guarded [('\\', false)]

/-- The end of a message, or a character of the adapter's that does nothing. -/
inductive Boundary : Marked → Prop where
  | nil : Boundary []
  | own {c : Char} (quiet : isQuiet c = true) (m : Marked) : Boundary ((c, false) :: m)

variable {c : Char} {m rest : Marked}

theorem isQuiet_of_isMeta (harmless : isMeta c = false) : isQuiet c = true := by
  simp only [isMeta, metacharacters, List.contains_cons, Bool.or_eq_false_iff] at harmless
  simp [isQuiet, bne, harmless]

theorem not_tick_of_isQuiet (quiet : isQuiet c = true) : c ≠ '`' := by
  rintro rfl
  exact absurd quiet (by decide)

theorem not_backslash_of_isQuiet (quiet : isQuiet c = true) : c ≠ '\\' := by
  rintro rfl
  exact absurd quiet (by decide)

namespace Guarded

theorem own_append {words : String} (quiet : words.toList.all isQuiet = true) {m : Marked}
    (rest : Guarded m) : Guarded (Marked.own words ++ m) := by
  rw [Marked.own]
  generalize words.toList = chars at quiet
  induction chars with
  | nil => exact rest
  | cons c chars ih =>
    rw [List.all_cons, Bool.and_eq_true] at quiet
    exact .own quiet.1 (ih quiet.2)

theorem mdEscape_append (s : String) {m : Marked} (rest : Guarded m) :
    Guarded (mdEscape s ++ m) := by
  rw [mdEscape]
  induction s.toList with
  | nil => exact rest
  | cons c chars ih =>
    rw [List.flatMap_cons, List.append_assoc, escapeChar]
    cases meaning : isMeta c with
    | true => exact .escaped meaning ih
    | false => exact .plain meaning ih

/-- Cutting off the end leaves a backslash at most. -/
theorem of_isPrefix {front m : Marked} (shape : Guarded m) (cut : front <+: m) :
    Guarded front := by
  induction shape generalizing front with
  | nil => rw [List.prefix_nil.mp cut]; exact .nil
  | own quiet _ ih =>
    rcases List.prefix_cons_iff.mp cut with rfl | ⟨kept, rfl, shorter⟩
    · exact .nil
    · exact .own quiet (ih shorter)
  | plain harmless _ ih =>
    rcases List.prefix_cons_iff.mp cut with rfl | ⟨kept, rfl, shorter⟩
    · exact .nil
    · exact .plain harmless (ih shorter)
  | escaped meaning _ ih =>
    rcases List.prefix_cons_iff.mp cut with rfl | ⟨kept, rfl, shorter⟩
    · exact .nil
    · rcases List.prefix_cons_iff.mp shorter with rfl | ⟨left, rfl, shortest⟩
      · exact .dangling
      · exact .escaped meaning (ih shortest)
  | dangling =>
    rcases List.prefix_cons_iff.mp cut with rfl | ⟨kept, rfl, shorter⟩
    · exact .nil
    · rw [List.prefix_nil.mp shorter]
      exact .dangling

end Guarded

namespace Neutral

theorem append {m n : Marked} (first : Neutral m) (second : Neutral n) : Neutral (m ++ n) :=
  fun x member => (List.mem_append.mp member).elim (first x) (second x)

theorem own {words : String} (quiet : words.toList.all isQuiet = true) :
    Neutral (Marked.own words) :=
  fun _ member _ => List.all_eq_true.mp quiet _ (Marked.mem_own member).2

theorem produced (s : String) : Neutral (Marked.produced s) := by
  intro x member mine
  obtain ⟨c, _, rfl⟩ := List.mem_map.mp member
  cases mine

theorem flatMap {α : Type} {items : List α} {f : α → Marked} (each : ∀ a, Neutral (f a)) :
    Neutral (items.flatMap f) := by
  intro x member
  obtain ⟨a, _, inside⟩ := List.mem_flatMap.mp member
  exact each a x inside

theorem of_subset {m n : Marked} (shape : Neutral n) (fewer : m ⊆ n) : Neutral m :=
  fun x member => shape x (fewer member)

end Neutral

/-! ## Mentions -/

theorem isPrefixOf_produced_append {text : List Char} (boundary : Boundary rest) :
    (text.map (·, true)).isPrefixOf (m ++ rest) = (text.map (·, true)).isPrefixOf m := by
  induction m generalizing text with
  | nil =>
    cases boundary <;> cases text <;> simp [List.isPrefixOf]
  | cons x m ih =>
    cases text with
    | nil => simp
    | cons c text => simp [List.isPrefixOf, ih]

/-- A mention does not run over the end of a piece. -/
theorem startsMention_append (boundary : Boundary rest) :
    startsMention (m ++ rest) = startsMention m := by
  simp only [startsMention, Marked.produced, isPrefixOf_produced_append boundary]

@[simp]
theorem startsMention_own (c : Char) (m : Marked) : startsMention ((c, false) :: m) = false := by
  simp [startsMention, mentionTriggers, Marked.produced, List.isPrefixOf]

/-- No mention begins with a metacharacter. -/
theorem startsMention_meta (meaning : isMeta c = true) (m : Marked) :
    startsMention ((c, true) :: m) = false := by
  have first : c ≠ '@' ∧ c ≠ '<' := by
    constructor <;> rintro rfl <;> exact absurd meaning (by decide)
  simp [startsMention, mentionTriggers, Marked.produced, List.isPrefixOf, first.1.symm,
    first.2.symm]

theorem beq_pair (c d : Char) (p q : Bool) : ((c, p) == (d, q)) = (c == d && p == q) := rfl

theorem isPrefixOf_mdEscape {trigger chars : List Char}
    (harmless : ∀ c ∈ trigger, isMeta c = false) :
    (trigger.map (·, true)).isPrefixOf (chars.flatMap escapeChar) = trigger.isPrefixOf chars := by
  induction trigger generalizing chars with
  | nil => simp
  | cons c trigger ih =>
    have first : isMeta c = false := harmless c List.mem_cons_self
    have later : ∀ d ∈ trigger, isMeta d = false := fun d member =>
      harmless d (List.mem_cons_of_mem c member)
    cases chars with
    | nil => rfl
    | cons d chars =>
      rw [List.flatMap_cons, escapeChar]
      cases meaning : isMeta d with
      | true =>
        have differs : c ≠ d := by
          rintro rfl
          exact Bool.false_ne_true (first.symm.trans meaning)
        simp [List.isPrefixOf, beq_pair, differs]
      | false => simp [List.isPrefixOf, beq_pair, ih later]

theorem startsMention_mdEscape (chars : List Char) :
    startsMention (chars.flatMap escapeChar) =
      mentionTriggers.any fun t => t.toList.isPrefixOf chars := by
  have clean : ∀ t ∈ mentionTriggers, (t.toList.any isMeta) = false := by decide
  have harmless : ∀ t ∈ mentionTriggers, ∀ c ∈ t.toList, isMeta c = false :=
    fun t member c inside =>
      Bool.eq_false_iff.mpr (List.any_eq_false.mp (clean t member) c inside)
  rw [startsMention, Bool.eq_iff_iff, List.any_eq_true, List.any_eq_true]
  refine exists_congr fun t => and_congr_right fun member => ?_
  rw [Marked.produced, isPrefixOf_mdEscape (harmless t member)]

/-- Escaping leaves a mention as it is, since no mention holds a metacharacter. -/
theorem mentionFree_mdEscape (s : String) : mentionFree (mdEscape s) = isCalm s := by
  simp only [mdEscape, isCalm, Text.contains]
  induction s.toList with
  | nil => decide
  | cons c chars ih =>
    have here := startsMention_mdEscape (c :: chars)
    have split : mentionFree ((c :: chars).flatMap escapeChar) =
        (!startsMention ((c :: chars).flatMap escapeChar) &&
          mentionFree (chars.flatMap escapeChar)) := by
      rw [List.flatMap_cons, escapeChar]
      cases meaning : isMeta c with
      | true => simp [mentionFree, startsMention_meta meaning]
      | false => simp [mentionFree]
    rw [split, here, ih]
    simp only [mentionTriggers, List.any_cons, List.any_nil, List.tails, Bool.not_or, Bool.or_false]
    ac_rfl

theorem mentionFree_append (boundary : Boundary rest) :
    mentionFree (m ++ rest) = (mentionFree m && mentionFree rest) := by
  induction m with
  | nil => simp [mentionFree]
  | cons x m ih =>
    rw [List.cons_append, mentionFree, mentionFree, ih, ← List.cons_append,
      startsMention_append boundary, Bool.and_assoc]

/-- The adapter mentions nobody. -/
theorem mentionFree_own_append (words : String) (m : Marked) :
    mentionFree (Marked.own words ++ m) = mentionFree m := by
  rw [Marked.own]
  induction words.toList with
  | nil => rfl
  | cons c chars ih => simpa [mentionFree] using ih

theorem mentionFree_produced (s : String) : mentionFree (Marked.produced s) = isCalm s := by
  have starts (chars : List Char) : startsMention (chars.map (·, true)) =
      mentionTriggers.any fun t => t.toList.isPrefixOf chars := by
    have same (trigger chars : List Char) :
        (trigger.map (·, true)).isPrefixOf (chars.map (·, true)) = trigger.isPrefixOf chars := by
      induction trigger generalizing chars with
      | nil => simp
      | cons c trigger ih =>
        cases chars with
        | nil => rfl
        | cons d chars => simp [List.isPrefixOf, beq_pair, ih]
    simp only [startsMention, Marked.produced, same]
  simp only [Marked.produced, isCalm, Text.contains]
  induction s.toList with
  | nil => decide
  | cons c chars ih =>
    rw [List.map_cons, mentionFree, ih, ← List.map_cons (f := (·, true)), starts]
    simp only [mentionTriggers, List.any_cons, List.any_nil, List.tails, Bool.not_or, Bool.or_false]
    ac_rfl

theorem metaFree_append (m n : Marked) : metaFree (m ++ n) = (metaFree m && metaFree n) :=
  List.all_append

theorem metaFree_own (words : String) : metaFree (Marked.own words) = true := by
  simp [metaFree, Marked.own]

theorem metaFree_produced (s : String) : metaFree (Marked.produced s) = isPlain s := by
  simp [metaFree, Marked.produced, isPlain, Function.comp_def, List.all_eq_not_any_not]

/-! ## Reading a piece -/

/-- The adapter's own words between pieces. -/
theorem inert_own (quiet : isQuiet c = true) (ticks : ℕ) (m : Marked) :
    inert (.prose ticks) ((c, false) :: m) = inert (.prose 0) m := by
  simp [inert, not_backslash_of_isQuiet quiet, not_tick_of_isQuiet quiet]

theorem inert_plain (harmless : isMeta c = false) (m : Marked) :
    inert (.prose 0) ((c, true) :: m) =
      (!startsMention ((c, true) :: m) && inert (.prose 0) m) := by
  have quiet := isQuiet_of_isMeta harmless
  simp only [inert, harmless, Bool.false_or, Bool.true_and, not_backslash_of_isQuiet quiet,
    not_tick_of_isQuiet quiet, if_false]
  cases startsMention ((c, true) :: m) <;> simp

theorem inert_guarded (shape : Guarded m) (boundary : Boundary rest) :
    inert (.prose 0) (m ++ rest) = (mentionFree m && inert (.prose 0) rest) := by
  induction shape with
  | nil => simp [mentionFree]
  | own quiet _ ih => simp [inert_own quiet, mentionFree, ih]
  | @plain c m harmless _ ih =>
    rw [List.cons_append, inert_plain harmless, ih, mentionFree, ← List.cons_append,
      startsMention_append boundary, Bool.and_assoc]
  | escaped meaning _ ih =>
    simp [inert, mentionFree, startsMention_meta meaning, ih]
  | dangling =>
    cases boundary with
    | nil => simp [inert, mentionFree]
    | own quiet m =>
      simp [inert, mentionFree, not_backslash_of_isQuiet quiet, not_tick_of_isQuiet quiet]

theorem inert_bare (shape : Neutral m) (boundary : Boundary rest) :
    inert (.prose 0) (m ++ rest) =
      ((mentionFree m && metaFree m) && inert (.prose 0) rest) := by
  induction m with
  | nil => simp [mentionFree, metaFree]
  | cons x m ih =>
    have later := ih fun y member => shape y (List.mem_cons_of_mem x member)
    obtain ⟨c, foreign⟩ := x
    cases foreign with
    | false =>
      have quiet : isQuiet c = true := shape (c, false) List.mem_cons_self rfl
      simp [inert_own quiet, later, mentionFree, metaFree]
    | true =>
      cases meaning : isMeta c with
      | true => simp [inert, metaFree, meaning]
      | false =>
        rw [List.cons_append, inert_plain meaning, later, mentionFree, ← List.cons_append,
          startsMention_append boundary]
        simp [metaFree, meaning, Bool.and_assoc]

/-! ## Fences -/

theorem tripleFree_append (boundary : Boundary rest) (ticks : ℕ) :
    tripleFree ticks (m ++ rest) = (tripleFree ticks m && tripleFree 0 rest) := by
  induction m generalizing ticks with
  | nil =>
    cases boundary with
    | nil => simp [tripleFree]
    | own quiet m => simp [tripleFree, not_tick_of_isQuiet quiet]
  | cons x m ih =>
    by_cases tick : x.1 = '`'
    · simp [tripleFree, tick, ih, Bool.and_assoc]
    · simp [tripleFree, tick, ih]

/-- A backtick of the producer's stands behind a backslash, so no two meet. -/
theorem tripleFree_guarded (shape : Guarded m) {ticks : ℕ} (few : ticks ≤ 1) :
    tripleFree ticks m = true := by
  induction shape generalizing ticks with
  | nil => rfl
  | own quiet _ ih => simpa [tripleFree, not_tick_of_isQuiet quiet] using ih (Nat.zero_le 1)
  | plain harmless _ ih =>
    have quiet := isQuiet_of_isMeta harmless
    simpa [tripleFree, not_tick_of_isQuiet quiet] using ih (Nat.zero_le 1)
  | @escaped c m _ _ ih =>
    -- The backslash resets the count, so at most one backtick is counted behind it.
    by_cases tick : c = '`'
    · simpa [tripleFree, tick] using ih (Nat.le_refl 1)
    · simpa [tripleFree, tick] using ih (Nat.zero_le 1)
  | dangling => simp [tripleFree]

theorem tripleFree_of_metaFree (shape : Neutral m) (clean : metaFree m = true) :
    tripleFree 0 m = true := by
  induction m with
  | nil => rfl
  | cons x m ih =>
    have inside : Neutral m := fun y member => shape y (List.mem_cons_of_mem x member)
    obtain ⟨c, foreign⟩ := x
    have tick : c ≠ '`' := by
      rintro rfl
      cases foreign with
      | false => exact absurd (shape _ List.mem_cons_self rfl) (by decide)
      | true => exact absurd (List.all_eq_true.mp clean _ List.mem_cons_self) (by decide)
    have later : metaFree m = true := by
      simp only [metaFree, List.all_cons, Bool.and_eq_true] at clean
      exact clean.2
    simpa [tripleFree, tick] using ih inside later

/-- Inside a fence, a body with three backticks closes it. -/
theorem inert_fence {body : Marked} (shape : Neutral body) (boundary : Boundary rest) {ticks : ℕ}
    (few : ticks ≤ 2) :
    inert (.fence ticks (0 < ticks)) (body ++ rest) =
      (tripleFree ticks body && inert (.fence 0 false) rest) := by
  induction body generalizing ticks with
  | nil =>
    cases boundary with
    | nil => simp [inert, tripleFree]
    | own quiet m => simp [inert, tripleFree, not_tick_of_isQuiet quiet]
  | cons x body ih =>
    have inside : Neutral body := fun y member => shape y (List.mem_cons_of_mem x member)
    obtain ⟨c, foreign⟩ := x
    by_cases tick : c = '`'
    · cases foreign with
      | false => exact absurd tick (not_tick_of_isQuiet (shape (c, false) List.mem_cons_self rfl))
      | true =>
        by_cases more : ticks < 2
        · have counted := ih inside (Nat.succ_le_of_lt more)
          simp only [Nat.zero_lt_succ, decide_true] at counted
          simp [inert, tripleFree, tick, more, counted]
        · simp [inert, tripleFree, tick, more]
    · have fresh := ih inside (Nat.zero_le 2)
      simp only [Nat.lt_irrefl, decide_false] at fresh
      simp [inert, tripleFree, tick, fresh]

def fenceStart : Marked := Marked.own "```diff\n"

def fenceEnd : Marked := Marked.own "\n```"

/-- A fence opens when it is closed somewhere. -/
theorem inert_fenceStart (m : Marked) :
    inert (.prose 0) (fenceStart ++ m) =
      if tripleFree 0 m then inert (.prose 0) m else inert (.fence 0 false) m := by
  simp only [fenceStart, Marked.own]
  simp [inert, tripleFree]

theorem inert_fenced {body : Marked} (shape : Neutral body) :
    inert (.prose 0) (fenceStart ++ (body ++ (fenceEnd ++ rest))) =
      (tripleFree 0 body && inert (.prose 0) rest) := by
  have boundary : Boundary (fenceEnd ++ rest) := .own (by decide) _
  have closed : tripleFree 0 (body ++ (fenceEnd ++ rest)) = false := by
    rw [tripleFree_append boundary]
    simp [fenceEnd, Marked.own, tripleFree]
  have inside := inert_fence shape boundary (Nat.zero_le 2)
  simp only [Nat.lt_irrefl, decide_false] at inside
  rw [inert_fenceStart, closed, if_neg Bool.false_ne_true, inside]
  simp [fenceEnd, Marked.own, inert]

/-- The end of a fence, cut before its last backtick. -/
theorem inert_take_fenceEnd (kept : Fin 4) (boundary : Boundary rest) :
    inert (.prose 0) (fenceEnd.take kept ++ rest) = inert (.prose 0) rest ∧
      tripleFree 0 (fenceEnd.take kept ++ rest) = tripleFree 0 rest ∧
      Boundary (fenceEnd.take kept ++ rest) := by
  match kept with
  | ⟨0, _⟩ => exact ⟨rfl, rfl, boundary⟩
  | ⟨1, _⟩ | ⟨2, _⟩ | ⟨3, _⟩ =>
    refine ⟨?_, ?_, .own (by decide) _⟩
    all_goals
      cases boundary with
      | nil => simp [fenceEnd, Marked.own, inert, tripleFree]
      | own quiet m =>
        simp [fenceEnd, Marked.own, inert, tripleFree, not_backslash_of_isQuiet quiet,
          not_tick_of_isQuiet quiet]

/-- A fence that lost its end opens nothing, so its body is read like bare text. -/
theorem inert_cutFence {body : Marked} (shape : Neutral body) (kept : Fin 4)
    (boundary : Boundary rest) (unclosed : tripleFree 0 rest = true) :
    inert (.prose 0) (fenceStart ++ (body ++ (fenceEnd.take kept ++ rest))) =
      ((mentionFree body && metaFree body) && inert (.prose 0) rest) := by
  obtain ⟨ending, ticks, joint⟩ := inert_take_fenceEnd kept boundary
  have triples : tripleFree 0 (body ++ (fenceEnd.take kept ++ rest)) = tripleFree 0 body := by
    rw [tripleFree_append joint, ticks, unclosed, Bool.and_true]
  rw [inert_fenceStart, triples]
  cases closes : tripleFree 0 body with
  | true => rw [if_pos rfl, inert_bare shape joint, ending]
  | false =>
    -- The producer closes the fence, and its backticks are metacharacters besides.
    have inside := inert_fence shape joint (Nat.zero_le 2)
    simp only [Nat.lt_irrefl, decide_false] at inside
    have marked : metaFree body = false :=
      Bool.eq_false_iff.mpr fun clean =>
        Bool.false_ne_true (closes.symm.trans (tripleFree_of_metaFree shape clean))
    rw [if_neg Bool.false_ne_true, inside, closes, marked]
    simp

end Triton.Discord
