/-
# What a template says

A template is read in two passes: the optional parts are cut out at the brackets,
and the placeholders are found in each part. Here the reading is described by rules,
and filling by what it does to each part that was read. The values that are put in
are not read again, since filling starts from what was read.
-/

import Triton.Correlation.Filling

namespace Triton.Correlation.Message

open Triton.Lib

/-! ## The rules of reading -/

/-- The pieces of a text: a placeholder wherever one begins, else the character. -/
inductive Reads : List Char → List Piece → Prop
  | nil : Reads [] []
  | literal {c : Char} {rest : List Char} {pieces : List Piece}
      (plain : ∀ name after, IsName name → c :: rest ≠ braced name after)
      (later : Reads rest pieces) : Reads (c :: rest) (.literal c :: pieces)
  | field {name : String} {rest : List Char} {pieces : List Piece} (valid : IsName name)
      (later : Reads rest pieces) : Reads (braced name rest) (.field name :: pieces)

/-- A text with brackets in it: what is before, inside and behind them. -/
def bracketed (before part rest : List Char) : List Char :=
  before ++ ['[', '['] ++ (part ++ [']', ']'] ++ rest)

/-- The parts of a template, each with whether it is optional. An optional part goes
from the first opening brackets to the first closing ones behind them; brackets that
are not closed are text. -/
inductive Parses : List Char → List (List Piece × Bool) → Prop
  | plain {template : List Char} {pieces : List Piece}
      (unbracketed : ∀ before part rest, template ≠ bracketed before part rest)
      (text : Reads template pieces) : Parses template [(pieces, false)]
  | optional {before part rest : List Char} {pieces inner : List Piece}
      {parts : List (List Piece × Bool)}
      (opens : ¬ ['[', '['] <:+: before ++ ['[']) (closes : ¬ [']', ']'] <:+: part ++ [']'])
      (text : Reads before pieces) (inside : Reads part inner) (later : Parses rest parts) :
      Parses (bracketed before part rest) ((pieces, false) :: (inner, true) :: parts)

theorem reads_scan (text : List Char) : Reads text (scan 0 text) := by
  induction text using piece_induction with
  | nil => exact .nil
  | literal c rest plain ih =>
    rw [scan_literal plain]
    refine .literal (fun name after valid whole => ?_) ih
    rw [whole, placeholderAt_eq_some_iff.mpr ⟨valid, after, rfl⟩] at plain
    cases plain
  | field name rest valid ih =>
    rw [scan_braced valid]
    exact .field valid ih

theorem Reads.eq_scan {text : List Char} {pieces : List Piece} (reads : Reads text pieces) :
    pieces = scan 0 text := by
  induction reads with
  | nil => rfl
  | @literal c rest pieces plain later ih =>
    have free : placeholderAt (c :: rest) = none := by
      rw [Option.eq_none_iff_forall_ne_some]
      intro name found
      obtain ⟨valid, after, whole⟩ := placeholderAt_eq_some_iff.mp found
      exact plain name after valid whole
    rw [scan_literal free, ih]
  | field valid later ih => rw [scan_braced valid, ih]

/-! ## The cuts at the brackets -/

theorem breakAt_eq_none_iff {x : Char} {text : List Char} :
    breakAt [x, x] text = none ↔ ¬ [x, x] <:+: text := by
  induction text with
  | nil => simp [breakAt]
  | cons c rest ih =>
    rw [breakAt, List.infix_cons_iff, not_or, ← ih, ← List.isPrefixOf_iff_prefix]
    cases [x, x].isPrefixOf (c :: rest) <;> simp

/-- A separator that a text begins with is there however the text goes on. -/
theorem isPrefixOf_cons_append {x c : Char} (before after : List Char) :
    [x, x].isPrefixOf (c :: (before ++ [x, x] ++ after)) =
      [x, x].isPrefixOf (c :: (before ++ [x])) := by
  cases before <;> simp [List.isPrefixOf_cons_cons]

variable {before template : List Char}

theorem breakAt_first {x : Char} (first : ¬ [x, x] <:+: before ++ [x]) (after : List Char) :
    breakAt [x, x] (before ++ [x, x] ++ after) = some (before, after) := by
  induction before with
  | nil => simp [breakAt]
  | cons c before ih =>
    rw [List.cons_append, List.infix_cons_iff, not_or] at first
    obtain ⟨notHere, notLater⟩ := first
    have here : [x, x].isPrefixOf (c :: (before ++ [x])) = false := by
      rw [← Bool.not_eq_true, List.isPrefixOf_iff_prefix]
      exact notHere
    rw [List.cons_append, List.cons_append, breakAt, isPrefixOf_cons_append, here, ih notLater]
    rfl

/-- A cut is at the first separator. -/
theorem first_of_breakAt {x : Char} {text after : List Char}
    (cut : breakAt [x, x] text = some (before, after)) : ¬ [x, x] <:+: before ++ [x] := by
  induction text generalizing before with
  | nil => cases cut
  | cons c rest ih =>
    rw [breakAt] at cut
    split at cut
    case isTrue =>
      cases cut
      intro found
      have short := found.length_le
      simp at short
    case isFalse other =>
      obtain ⟨⟨front, back⟩, later, same⟩ := Option.map_eq_some_iff.mp cut
      cases same
      rw [append_of_breakAt later, isPrefixOf_cons_append, List.isPrefixOf_iff_prefix] at other
      rw [List.cons_append, List.infix_cons_iff, not_or]
      exact ⟨other, ih later⟩

/-- No separator begins before the cut. -/
theorem length_le_of_breakAt {x : Char} {after front back : List Char}
    (cut : breakAt [x, x] (front ++ [x, x] ++ back) = some (before, after)) :
    before.length ≤ front.length := by
  by_contra longer
  apply first_of_breakAt cut
  have whole := append_of_breakAt cut
  have earlier : front ++ [x, x] <+: before ++ [x] := by
    apply List.prefix_of_prefix_length_le (List.prefix_append _ back)
    · rw [whole]
      exact ⟨[x] ++ after, by simp⟩
    · simp only [List.length_append, List.length_cons, List.length_nil]
      omega
  exact (List.suffix_append front [x, x]).isInfix.trans earlier.isInfix

/-- Brackets around a part are found: there is a cut at opening ones, and closing ones
behind it. -/
theorem cuts_of_bracketed (before part rest : List Char) :
    ∃ front inside, breakAt ['[', '['] (bracketed before part rest) = some (front, inside) ∧
      breakAt [']', ']'] inside ≠ none := by
  cases cut : breakAt ['[', '['] (bracketed before part rest) with
  | none =>
    refine absurd ?_ (breakAt_eq_none_iff.mp cut)
    exact ⟨before, part ++ [']', ']'] ++ rest, rfl⟩
  | some found =>
    obtain ⟨front, inside⟩ := found
    refine ⟨front, inside, rfl, fun unclosed => ?_⟩
    have whole := append_of_breakAt cut
    have lengths := congrArg List.length whole
    have order := length_le_of_breakAt cut
    -- the cut is not behind these brackets, so they close inside
    have tail : part ++ [']', ']'] ++ rest <:+ bracketed before part rest :=
      List.suffix_append _ _
    have cutTail : inside <:+ bracketed before part rest := whole ▸ List.suffix_append _ _
    have behind : part ++ [']', ']'] ++ rest <:+ inside := by
      apply List.suffix_of_suffix_length_le tail cutTail
      simp only [bracketed, List.length_append, List.length_cons, List.length_nil] at lengths ⊢
      omega
    apply breakAt_eq_none_iff.mp unclosed
    exact List.IsInfix.trans ⟨part, rest, rfl⟩ behind.isInfix

theorem bracketed_of_cuts {inside part rest : List Char}
    (opened : breakAt ['[', '['] template = some (before, inside))
      (closed : breakAt [']', ']'] inside = some (part, rest)) :
    template = bracketed before part rest := by
  rw [append_of_breakAt opened, append_of_breakAt closed]
  rfl

/-- A text without closed brackets is one part. -/
theorem segments_of_unbracketed
    (unbracketed : ∀ before part rest, template ≠ bracketed before part rest) :
    segments template = mandatory template := by
  rw [segments_eq]
  split
  · rfl
  · rename_i before inside opened
    split
    · rfl
    · rename_i part rest closed
      exact absurd (bracketed_of_cuts opened closed) (unbracketed before part rest)

theorem exists_parses (template : List Char) : ∃ parts, Parses template parts := by
  induction template using segments.induct with
  | case1 template opened =>
    refine ⟨_, .plain (fun before part rest whole => ?_) (reads_scan template)⟩
    obtain ⟨front, inside, cut, _⟩ := cuts_of_bracketed before part rest
    rw [← whole, opened] at cut
    cases cut
  | case2 template before inside opened closed =>
    refine ⟨_, .plain (fun before part rest whole => ?_) (reads_scan template)⟩
    obtain ⟨front, inside, cut, closes⟩ := cuts_of_bracketed before part rest
    rw [← whole, opened] at cut
    cases cut
    exact closes closed
  | case3 template before inside opened part rest closed ih =>
    obtain ⟨parts, parses⟩ := ih
    rw [bracketed_of_cuts opened closed]
    exact ⟨_, .optional (first_of_breakAt opened) (first_of_breakAt closed) (reads_scan before)
      (reads_scan part) parses⟩

theorem bracketed_cuts {part : List Char} (opens : ¬ ['[', '['] <:+: before ++ ['['])
      (closes : ¬ [']', ']'] <:+: part ++ [']']) (rest : List Char) :
    breakAt ['[', '['] (bracketed before part rest) = some (before, part ++ [']', ']'] ++ rest) ∧
      breakAt [']', ']'] (part ++ [']', ']'] ++ rest) = some (part, rest) :=
  ⟨breakAt_first opens _, breakAt_first closes rest⟩

/-- There is one way to read a template. -/
theorem Parses.unique {parts others : List (List Piece × Bool)} (first : Parses template parts)
    (second : Parses template others) : others = parts := by
  induction first generalizing others with
  | plain unbracketed text =>
    cases second with
    | plain _ again => rw [again.eq_scan, text.eq_scan]
    | optional => exact absurd rfl (unbracketed _ _ _)
  | @optional before part rest pieces inner parts opens closes text inside later ih =>
    generalize whole : bracketed before part rest = template at second
    cases second with
    | plain unbracketed _ => exact absurd whole.symm (unbracketed _ _ _)
    | @optional before' part' rest' _ _ _ opens' closes' text' inside' later' =>
      have cuts := bracketed_cuts opens closes rest
      have cuts' := bracketed_cuts opens' closes' rest'
      rw [whole, cuts'.1] at cuts
      obtain ⟨rfl, behind⟩ := Prod.mk.inj (Option.some.inj cuts.1)
      rw [← behind, cuts'.2] at cuts
      obtain ⟨rfl, rfl⟩ := Prod.mk.inj (Option.some.inj cuts.2)
      rw [ih later', text.eq_scan, text'.eq_scan, inside.eq_scan, inside'.eq_scan]

/-- Whatever is gathered from the parts of the code is gathered from the parts that the
rules give. An empty part makes the only difference, so nothing may come from it. -/
theorem flatMap_segments {β : Type} {parts : List (List Piece × Bool)}
    (parses : Parses template parts) (gather : List Piece × Bool → List β)
    (nothing : gather ([], false) = []) :
    ((segments template).map fun segment => (scan 0 segment.1, segment.2)).flatMap gather =
      parts.flatMap gather := by
  rw [List.flatMap_map]
  have plainPart (text : List Char) :
      ((mandatory text).flatMap fun segment => gather (scan 0 segment.1, segment.2)) =
        gather (scan 0 text, false) := by
    unfold mandatory
    split
    · rename_i empty
      rw [List.isEmpty_iff.mp empty, scan_nil, nothing]
      rfl
    · simp
  induction parses with
  | plain unbracketed text =>
    rw [segments_of_unbracketed unbracketed, plainPart, text.eq_scan]
    simp
  | @optional before part rest pieces inner parts opens closes text inside later ih =>
    obtain ⟨opened, closed⟩ := bracketed_cuts opens closes rest
    rw [segments_eq, opened]
    dsimp only
    rw [closed]
    dsimp only
    rw [List.flatMap_append, plainPart, List.flatMap_cons, ih, text.eq_scan, inside.eq_scan,
      List.flatMap_cons, List.flatMap_cons]

/-! ## Filling by the rules -/

/-- A loop that adds the names of each item adds all of them. -/
theorem foldl_names {α : Type} {step : List String → α → List String} {names : α → List String}
    (spec : ∀ found item, step found item = (names item).foldl addOnce found) (items : List α)
    (found : List String) : items.foldl step found = (items.flatMap names).foldl addOnce found := by
  rw [List.foldl_flatMap]
  congr 1
  funext found item
  exact spec found item

theorem placeholders_eq (template : String) :
    placeholders template = ((scan 0 template.toList).flatMap Piece.names).eraseDups := by
  rw [placeholders, ← List.nil_append (List.flatMap _ _), ← foldl_addOnce_eq List.nodup_nil]
  apply foldl_names
  intro found piece
  cases piece <;> rfl

theorem requiredPlaceholders_eq {template : String} {parts : List (List Piece × Bool)}
    (parses : Parses template.toList parts) :
    requiredPlaceholders template = (outside parts).eraseDups := by
  rw [outside, ← flatMap_segments parses partNames rfl, List.flatMap_map,
    ← List.nil_append (List.flatMap _ _), ← foldl_addOnce_eq List.nodup_nil]
  apply foldl_names
  rintro found ⟨part, optional⟩
  cases optional
  · apply foldl_names
    intro found piece
    cases piece <;> rfl
  · rfl

/-- Filling follows the rules: either every name outside the optional parts has a value,
and the parts are put together with their values, or the names that lack one are
reported. -/
theorem template_filling_spec (template : String) (value : String → Option String) :
    ∃ parts, Parses template.toList parts ∧
      (∀ others, Parses template.toList others → others = parts) ∧
      requiredPlaceholders template = (outside parts).eraseDups ∧
      (requiredPlaceholders template).Nodup ∧
      fillTemplate template value =
        if ∀ name ∈ outside parts, given value name = true then
          .ok (String.ofList (parts.flatMap (kept value)))
        else .error (.missing
          ((requiredPlaceholders template).filter fun name => !given value name)) := by
  obtain ⟨parts, parses⟩ := exists_parses template.toList
  have required := requiredPlaceholders_eq parses
  refine ⟨parts, parses, fun _ => parses.unique, required, required ▸ nodup_eraseDups _, ?_⟩
  have text : (readParts template).flatMap (kept value) = parts.flatMap (kept value) :=
    flatMap_segments parses (kept value) rfl
  have names : outside (readParts template) = outside parts :=
    flatMap_segments parses partNames rfl
  rw [fillTemplate_eq, text, names, lacking, eraseDups_filter, required]
  congr 1
  simp

/-! ## Filling under new names -/

/-- The names of an error under new names, each once. -/
def MessageError.renamedOnce (rename : String → String) : MessageError → MessageError
  | .empty => .empty
  | .missing names => .missing (names.map rename).eraseDups

/-- Filling a template under new names is filling it with the values of the new names,
up to the names that are reported; and its placeholders are the new names. -/
theorem renaming_commutes_with_filling (rename : String → String)
    (names : ∀ name, IsName name → IsName (rename name)) (template : String)
    (value : String → Option String) :
    fillTemplate (renamePlaceholders rename template) value =
        (fillTemplate template (value ∘ rename)).mapError (MessageError.renamedOnce rename) ∧
      placeholders (renamePlaceholders rename template) =
        ((placeholders template).map rename).eraseDups := by
  constructor
  · rw [fillTemplate_renamePlaceholders names, fillTemplate_eq]
    split
    · rfl
    · rw [Except.mapError, MessageError.renamedOnce, eraseDups_map_eraseDups]
  · rw [placeholders_eq, placeholders_eq, renamePlaceholders_eq, String.toList_ofList,
      scan_renameChars names, flatMap_names_renamed, eraseDups_map_eraseDups]

theorem isName_x : IsName "x" where
  nonempty := by decide
  chars c member := by
    rw [show "x".toList = ['x'] from rfl, List.mem_singleton] at member
    rw [member]
    rfl

/-- A template with two names that become one. -/
theorem merged_names_commute :
    IsName "x" ∧
      fillTemplate (renamePlaceholders (fun _ => "x") "\x7bcity\x7d, \x7bday\x7d")
          (fun _ => none) =
        (fillTemplate "\x7bcity\x7d, \x7bday\x7d" fun _ => none).mapError
          (MessageError.renamedOnce fun _ => "x") ∧
      placeholders (renamePlaceholders (fun _ => "x") "\x7bcity\x7d, \x7bday\x7d") =
        ((placeholders "\x7bcity\x7d, \x7bday\x7d").map fun _ => "x").eraseDups :=
  ⟨isName_x, renaming_commutes_with_filling (fun _ => "x") (fun _ _ => isName_x)
    "\x7bcity\x7d, \x7bday\x7d" fun _ => none⟩

end Triton.Correlation.Message
