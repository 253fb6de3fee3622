/-
# Filling and renaming templates

A template is a sequence of characters and placeholders. Filling goes through it
piece by piece, so it is described by what each piece shows and which name it
lacks. No bracket stands in a placeholder, so new names change neither the
optional parts nor the text around them.
-/

import Triton.Correlation.Message
import Triton.Lib.EraseDups

namespace Triton.Correlation.Message

open Triton.Lib

/-! ## Templates piece by piece -/

/-- A name that can stand in a placeholder. -/
structure IsName (name : String) : Prop where
  nonempty : name.toList ≠ []
  chars : ∀ c ∈ name.toList, isNameChar c = true

/-- A placeholder with a text after it. -/
def braced (name : String) (rest : List Char) : List Char := '{' :: (name.toList ++ '}' :: rest)

variable {name : String}

theorem takeWhile_name (valid : IsName name) (rest : List Char) :
    (name.toList ++ '}' :: rest).takeWhile isNameChar = name.toList := by
  rw [List.takeWhile_append_of_pos valid.chars, List.takeWhile_cons_of_neg (by decide),
    List.append_nil]

theorem placeholderAt_eq_some_iff {text : List Char} :
    placeholderAt text = some name ↔ IsName name ∧ ∃ rest, text = braced name rest := by
  constructor
  · intro found
    unfold placeholderAt at found
    split at found
    case h_2 => cases found
    case h_1 rest =>
      dsimp only at found
      split at found
      case isTrue => cases found
      case isFalse closed =>
        cases found
        simp only [Bool.or_eq_true, List.isEmpty_iff, bne_iff_ne, ne_eq, not_or, not_not] at closed
        obtain ⟨nonempty, close⟩ := closed
        obtain ⟨tail, whole⟩ := List.takeWhile_prefix isNameChar (l := rest)
        have behind : rest.drop (rest.takeWhile isNameChar).length = tail := by
          nth_rewrite 2 [← whole]
          exact List.drop_left
        rw [behind] at close
        obtain ⟨after, rfl⟩ := List.head?_eq_some_iff.mp close
        refine ⟨⟨by rwa [String.toList_ofList], ?_⟩, after, ?_⟩
        · intro c member
          rw [String.toList_ofList] at member
          exact List.mem_takeWhile_imp member
        · rw [braced, String.toList_ofList, whole]
  · rintro ⟨valid, rest, rfl⟩
    have nonempty : name.toList.isEmpty = false := by simpa using valid.nonempty
    simp [braced, placeholderAt, takeWhile_name valid, nonempty]

@[simp] theorem scan_nil (skip : ℕ) : scan skip [] = [] := by cases skip <;> rfl

theorem scan_append (skipped rest : List Char) :
    scan skipped.length (skipped ++ rest) = scan 0 rest := by
  induction skipped with
  | nil => rfl
  | cons c skipped ih => exact ih

theorem scan_literal {c : Char} {rest : List Char} (plain : placeholderAt (c :: rest) = none) :
    scan 0 (c :: rest) = .literal c :: scan 0 rest := by
  rw [scan, plain]

theorem scan_braced (valid : IsName name) (rest : List Char) :
    scan 0 (braced name rest) = .field name :: scan 0 rest := by
  have found := placeholderAt_eq_some_iff.mpr ⟨valid, rest, rfl⟩
  have inside : name.toList ++ '}' :: rest = (name.toList ++ ['}']) ++ rest := by simp
  have length : name.length + 1 = (name.toList ++ ['}']).length := by
    rw [List.length_append, String.length_toList, List.length_singleton]
  rw [braced] at found ⊢
  rw [scan, found]
  dsimp only
  rw [inside, length, scan_append]

/-- Induction along the pieces of a text. -/
theorem piece_induction {motive : List Char → Prop} (nil : motive [])
    (literal : ∀ c rest, placeholderAt (c :: rest) = none → motive rest → motive (c :: rest))
    (field : ∀ name rest, IsName name → motive rest → motive (braced name rest)) :
    ∀ text, motive text := by
  intro text
  induction size : text.length using Nat.strong_induction_on generalizing text with
  | _ n ih =>
    cases text with
    | nil => exact nil
    | cons c rest =>
      cases found : placeholderAt (c :: rest) with
      | none => exact literal c rest found (ih rest.length (by simp [← size]) rest rfl)
      | some name =>
        obtain ⟨valid, after, whole⟩ := placeholderAt_eq_some_iff.mp found
        rw [whole] at size ⊢
        refine field name after valid (ih after.length ?_ after rfl)
        simp only [braced, List.length_cons, List.length_append] at size
        omega

/-! ## Renaming -/

def Piece.renamed (rename : String → String) : Piece → Piece
  | .literal c => .literal c
  | .field name => .field (rename name)

def renameChars (rename : String → String) (text : List Char) : List Char :=
  (scan 0 text).flatMap fun piece => (piece.written rename).toList

theorem renamePlaceholders_eq (rename : String → String) (template : String) :
    renamePlaceholders rename template = String.ofList (renameChars rename template.toList) := by
  have joined : ∀ (pieces : List Piece) (out : String),
      (pieces.foldl (fun out piece => out ++ piece.written rename) out).toList =
        out.toList ++ pieces.flatMap fun piece => (piece.written rename).toList := by
    intro pieces
    induction pieces with
    | nil => simp
    | cons piece pieces ih =>
      intro out
      rw [List.foldl_cons, ih, String.toList_append, List.flatMap_cons, List.append_assoc]
  rw [← String.toList_inj, renamePlaceholders, joined, renameChars]
  simp

section Rename

variable {rename : String → String}

@[simp] theorem renameChars_nil : renameChars rename [] = [] := rfl

theorem renameChars_literal {c : Char} {rest : List Char}
    (plain : placeholderAt (c :: rest) = none) :
    renameChars rename (c :: rest) = c :: renameChars rename rest := by
  rw [renameChars, scan_literal plain, List.flatMap_cons, Piece.written, String.toList_singleton]
  rfl

theorem renameChars_braced {name : String} (valid : IsName name) (rest : List Char) :
    renameChars rename (braced name rest) = braced (rename name) (renameChars rename rest) := by
  rw [renameChars, scan_braced valid, List.flatMap_cons]
  simp [Piece.written, braced, renameChars]

/-- Up to the first brace nothing changes. -/
theorem isPrefixOf_renameChars {front : List Char} (free : '{' ∉ front) (text : List Char) :
    front.isPrefixOf (renameChars rename text) = front.isPrefixOf text := by
  induction text using piece_induction generalizing front with
  | nil => rfl
  | literal c rest plain ih =>
    rw [renameChars_literal plain]
    cases front with
    | nil => rfl
    | cons d front =>
      rw [List.isPrefixOf_cons_cons, List.isPrefixOf_cons_cons,
        ih fun member => free (List.mem_cons_of_mem _ member)]
  | field name rest valid ih =>
    rw [renameChars_braced valid]
    cases front with
    | nil => rfl
    | cons d front =>
      have differs : (d == '{') = false :=
        beq_false_of_ne fun same => free (same ▸ List.mem_cons_self)
      simp [braced, List.isPrefixOf_cons_cons, differs]

theorem placeholderAt_renameChars {c : Char} {rest : List Char}
    (plain : placeholderAt (c :: rest) = none) :
    placeholderAt (c :: renameChars rename rest) = none := by
  rw [Option.eq_none_iff_forall_ne_some]
  intro name found
  obtain ⟨valid, after, whole⟩ := placeholderAt_eq_some_iff.mp found
  obtain ⟨rfl, inside⟩ := List.cons.inj whole
  have closed : name.toList ++ '}' :: after = (name.toList ++ ['}']) ++ after := by simp
  have free : '{' ∉ name.toList ++ ['}'] := by
    intro member
    rcases List.mem_append.mp member with letter | last
    · exact absurd (valid.chars _ letter) (by decide)
    · exact absurd last (by decide)
  have same : (name.toList ++ ['}']).isPrefixOf (renameChars rename rest) =
      (name.toList ++ ['}']).isPrefixOf rest := isPrefixOf_renameChars free rest
  rw [inside, closed, List.isPrefixOf_iff_prefix.mpr (List.prefix_append _ _)] at same
  obtain ⟨tail, text⟩ := List.isPrefixOf_iff_prefix.mp same.symm
  have placeholder : placeholderAt ('{' :: rest) = some name :=
    placeholderAt_eq_some_iff.mpr ⟨valid, tail, by simp [braced, ← text]⟩
  rw [plain] at placeholder
  cases placeholder

/-- The pieces of a renamed text are the renamed pieces. -/
theorem scan_renameChars (names : ∀ name, IsName name → IsName (rename name)) (text : List Char) :
    scan 0 (renameChars rename text) = (scan 0 text).map (Piece.renamed rename) := by
  induction text using piece_induction with
  | nil => rfl
  | literal c rest plain ih =>
    rw [renameChars_literal plain, scan_literal (placeholderAt_renameChars plain),
      scan_literal plain, ih]
    rfl
  | field name rest valid ih =>
    rw [renameChars_braced valid, scan_braced (names name valid), scan_braced valid, ih]
    rfl

/-- A text that begins with none of the two starts like its renamed form. -/
theorem head?_renameChars (text : List Char) : (renameChars rename text).head? = text.head? := by
  cases text using piece_induction with
  | nil => rfl
  | literal c rest plain => rw [renameChars_literal plain]; rfl
  | field name rest valid => rw [renameChars_braced valid]; rfl

/-! ### Optional parts -/

theorem breakAt_append {x : Char} {front : List Char} (free : x ∉ front) (rest : List Char) :
    breakAt [x, x] (front ++ rest) =
      (breakAt [x, x] rest).map fun cut => (front ++ cut.1, cut.2) := by
  induction front with
  | nil => exact Option.map_id'.symm
  | cons c front ih =>
    obtain ⟨differs, free⟩ := not_or.mp (mt List.mem_cons.mpr free)
    have other : [x, x].isPrefixOf (c :: (front ++ rest)) = false := by
      simp [List.isPrefixOf_cons_cons, beq_false_of_ne differs]
    rw [List.cons_append, breakAt, other, ih free]
    cases breakAt [x, x] rest <;> rfl

/-- The parts of a template, without the proofs of the cuts. -/
theorem segments_eq (template : List Char) :
    segments template =
      match breakAt ['[', '['] template with
      | none => mandatory template
      | some (before, inside) =>
        match breakAt [']', ']'] inside with
        | none => mandatory template
        | some (part, rest) => mandatory before ++ (part, true) :: segments rest := by
  rw [segments]
  split
  case h_1 opened => rw [opened]
  case h_2 before inside opened =>
    rw [opened]
    dsimp only
    split
    case h_1 closed => rw [closed]
    case h_2 part rest closed => rw [closed]

/-- What is cut off behind a character does not make a placeholder of it. -/
theorem placeholderAt_front {c : Char} {front behind : List Char}
    (plain : placeholderAt (c :: (front ++ behind)) = none) :
    placeholderAt (c :: front) = none := by
  rw [Option.eq_none_iff_forall_ne_some] at plain ⊢
  intro name found
  obtain ⟨valid, after, whole⟩ := placeholderAt_eq_some_iff.mp found
  refine plain name (placeholderAt_eq_some_iff.mpr ⟨valid, after ++ behind, ?_⟩)
  rw [← List.cons_append, whole]
  simp [braced]

theorem placeholderAt_of_ne {c : Char} (differs : c ≠ '{') (rest : List Char) :
    placeholderAt (c :: rest) = none := by
  rw [Option.eq_none_iff_forall_ne_some]
  intro name found
  obtain ⟨_, _, whole⟩ := placeholderAt_eq_some_iff.mp found
  exact differs (List.cons.inj whole).1

/-- A character that stands in no placeholder. -/
structure Outside (x : Char) : Prop where
  noName : isNameChar x = false
  noOpen : x ≠ '{'
  noClose : x ≠ '}'

theorem Outside.notMem_braced {x : Char} (outside : Outside x) {name : String}
    (valid : IsName name) : x ∉ braced name [] := by
  simp only [braced, List.mem_cons, List.mem_append, List.not_mem_nil, or_false, not_or]
  refine ⟨outside.noOpen, fun member => ?_, outside.noClose⟩
  have letter := valid.chars x member
  rw [outside.noName] at letter
  cases letter

theorem breakAt_renameChars {x : Char} (outside : Outside x)
    (names : ∀ name, IsName name → IsName (rename name)) (text : List Char) :
    breakAt [x, x] (renameChars rename text) =
      (breakAt [x, x] text).map fun cut =>
        (renameChars rename cut.1, renameChars rename cut.2) := by
  induction text using piece_induction with
  | nil => rfl
  | literal c rest plain ih =>
    have start : [x, x].isPrefixOf (c :: renameChars rename rest) =
        [x, x].isPrefixOf (c :: rest) := by
      have free : '{' ∉ [x] := by simpa using Ne.symm outside.noOpen
      rw [List.isPrefixOf_cons_cons, List.isPrefixOf_cons_cons, isPrefixOf_renameChars free]
    rw [renameChars_literal plain, breakAt, breakAt, start]
    split
    case isTrue here =>
      obtain ⟨after, whole⟩ := List.isPrefixOf_iff_prefix.mp here
      obtain ⟨rfl, rfl⟩ := List.cons.inj whole
      have second : renameChars rename (x :: after) = x :: renameChars rename after :=
        renameChars_literal (placeholderAt_of_ne outside.noOpen after)
      simp [second]
    case isFalse =>
      rw [ih]
      cases cut : breakAt [x, x] rest with
      | none => rfl
      | some found =>
        obtain ⟨before, after⟩ := found
        have shape := append_of_breakAt cut
        rw [List.append_assoc] at shape
        rw [shape] at plain
        simp [renameChars_literal (placeholderAt_front plain)]
  | field name rest valid ih =>
    have front (other : String) (text : List Char) :
        braced other text = braced other [] ++ text := by simp [braced]
    rw [renameChars_braced valid, front, front name,
      breakAt_append (outside.notMem_braced (names name valid)),
      breakAt_append (outside.notMem_braced valid), ih]
    cases breakAt [x, x] rest with
    | none => rfl
    | some cut =>
      simp only [Option.map_some]
      rw [← front, ← front, renameChars_braced valid]

theorem outside_open : Outside '[' := ⟨by decide, by decide, by decide⟩

theorem outside_close : Outside ']' := ⟨by decide, by decide, by decide⟩

theorem isEmpty_renameChars (text : List Char) :
    (renameChars rename text).isEmpty = text.isEmpty := by
  rw [Bool.eq_iff_iff, List.isEmpty_iff, List.isEmpty_iff, ← List.head?_eq_none_iff,
    head?_renameChars, List.head?_eq_none_iff]

theorem mandatory_renameChars (part : List Char) :
    mandatory (renameChars rename part) =
      (mandatory part).map fun segment => (renameChars rename segment.1, segment.2) := by
  unfold mandatory
  rw [isEmpty_renameChars]
  split <;> rfl

/-- Renaming goes on inside each part. -/
theorem segments_renameChars (names : ∀ name, IsName name → IsName (rename name))
    (template : List Char) :
    segments (renameChars rename template) =
      (segments template).map fun segment => (renameChars rename segment.1, segment.2) := by
  induction template using segments.induct with
  | case1 template opened =>
    rw [segments_eq, segments_eq template, breakAt_renameChars outside_open names, opened]
    exact mandatory_renameChars template
  | case2 template before inside opened closed =>
    rw [segments_eq, segments_eq template, breakAt_renameChars outside_open names, opened]
    dsimp only [Option.map_some]
    rw [breakAt_renameChars outside_close names, closed]
    exact mandatory_renameChars template
  | case3 template before inside opened part rest closed ih =>
    rw [segments_eq, segments_eq template, breakAt_renameChars outside_open names, opened]
    dsimp only [Option.map_some]
    rw [breakAt_renameChars outside_close names, closed]
    dsimp only [Option.map_some]
    rw [ih, mandatory_renameChars, List.map_append, List.map_cons]

end Rename

/-! ## Filling -/

def Piece.names : Piece → List String
  | .literal _ => []
  | .field name => [name]

/-- A name has a value that is not blank. -/
def given (value : String → Option String) (name : String) : Bool :=
  (value name).any fun v => !(Text.trim v).isEmpty

/-- A piece with its value in place of the name. -/
def Piece.replaced (value : String → Option String) : Piece → List Char
  | .literal c => [c]
  | .field name => (Text.trim ((value name).getD "")).toList

/-- The names of a part that must have values. -/
def partNames (part : List Piece × Bool) : List String :=
  if part.2 then [] else part.1.flatMap Piece.names

/-- The names outside every optional part, as often as they appear. -/
def outside (parts : List (List Piece × Bool)) : List String := parts.flatMap partNames

/-- What is left of a part: nothing of an optional one that lacks a value, else its
pieces with their values. -/
def kept (value : String → Option String) (part : List Piece × Bool) : List Char :=
  if part.2 && (part.1.flatMap Piece.names).any (!given value ·) then []
  else part.1.flatMap (Piece.replaced value)

/-- The parts that the code reads. -/
def readParts (template : String) : List (List Piece × Bool) :=
  (segments template.toList).map fun segment => (scan 0 segment.1, segment.2)

/-- The names without a value. -/
def lacking (value : String → Option String) (names : List String) : List String :=
  names.filter fun name => !given value name

theorem any_not_given (value : String → Option String) (names : List String) :
    names.any (!given value ·) = !(lacking value names).isEmpty := by
  rw [Bool.eq_iff_iff]
  simp [lacking]

theorem isEmpty_eraseDups (names : List String) : names.eraseDups.isEmpty = names.isEmpty := by
  cases names <;> simp [List.eraseDups_cons]

theorem foldl_addOnce_eq {seen : List String} (nodup : seen.Nodup) (names : List String) :
    names.foldl addOnce seen = (seen ++ names).eraseDups := by
  induction names generalizing seen with
  | nil => rw [List.foldl_nil, List.append_nil, eraseDups_of_nodup nodup]
  | cons name names ih =>
    have one : addOnce seen name = (seen ++ [name]).eraseDups :=
      (eraseDups_concat nodup name).symm
    rw [List.foldl_cons, one, ih (nodup_eraseDups _), eraseDups_eraseDups_append,
      List.append_assoc, List.singleton_append]

theorem foldl_addOnce_eraseDups (seen names : List String) :
    names.foldl addOnce seen.eraseDups = (seen ++ names).eraseDups := by
  rw [foldl_addOnce_eq (nodup_eraseDups seen), eraseDups_eraseDups_append]

theorem addOnce_eraseDups (seen : List String) (name : String) :
    addOnce seen.eraseDups name = (seen ++ [name]).eraseDups :=
  foldl_addOnce_eraseDups seen [name]

/-- A loop that adds a text and notes names, each once. -/
theorem foldl_noting {α : Type} {step : String × List String → α → String × List String}
    (text : α → List Char) (names : α → List String)
    (spec : ∀ out seen item, step (out, seen.eraseDups) item =
      (out ++ String.ofList (text item), (seen ++ names item).eraseDups)) (items : List α) :
    items.foldl step ("", []) =
      (String.ofList (items.flatMap text), (items.flatMap names).eraseDups) := by
  induction items using List.reverseRecOn with
  | nil => rfl
  | append_singleton items item ih =>
    rw [List.foldl_append, ih, List.foldl_cons, List.foldl_nil, spec, ← String.ofList_append]
    simp

theorem fillPart_eq (value : String → Option String) (part : List Char) :
    fillPart value part = (String.ofList ((scan 0 part).flatMap (Piece.replaced value)),
      (lacking value ((scan 0 part).flatMap Piece.names)).eraseDups) := by
  rw [lacking, List.filter_flatMap]
  apply foldl_noting
  rintro out seen (c | name)
  · simp [Piece.replaced, Piece.names]
  · cases read : value name with
    | none =>
      have nothing : Text.trim "" = "" := rfl
      simp [read, nothing, Piece.replaced, Piece.names, given, addOnce_eraseDups]
    | some v =>
      cases blank : (Text.trim v).isEmpty with
      | true =>
        have nothing := String.isEmpty_iff.mp blank
        simp [read, nothing, Option.filter_some, Piece.replaced, Piece.names, given,
          addOnce_eraseDups]
      | false => simp [read, blank, Option.filter_some, Piece.replaced, Piece.names, given]

/-- The filled template: either all names that are lacking, each once, or the
text. -/
theorem fillTemplate_eq (template : String) (value : String → Option String) :
    fillTemplate template value =
      if (lacking value (outside (readParts template))).isEmpty then
        .ok (String.ofList ((readParts template).flatMap (kept value)))
      else .error (.missing (lacking value (outside (readParts template))).eraseDups) := by
  have text : (readParts template).flatMap (kept value) = (segments template.toList).flatMap
      fun segment => kept value (scan 0 segment.1, segment.2) := List.flatMap_map ..
  have names : lacking value (outside (readParts template)) = (segments template.toList).flatMap
      fun segment => lacking value (partNames (scan 0 segment.1, segment.2)) := by
    rw [lacking, outside, List.filter_flatMap, readParts, List.flatMap_map]
    rfl
  rw [fillTemplate, foldl_noting (fun segment => kept value (scan 0 segment.1, segment.2))
    fun segment => lacking value (partNames (scan 0 segment.1, segment.2)), text, names]
  · simp only [isEmpty_eraseDups]
  · rintro out seen ⟨part, optional⟩
    simp only [fillPart_eq, kept, partNames, isEmpty_eraseDups, any_not_given]
    cases optional
    · simp [foldl_addOnce_eraseDups, eraseDups_append_eraseDups]
    · cases (lacking value ((scan 0 part).flatMap Piece.names)).isEmpty <;> simp [lacking]

theorem resolve_templateArgs (template : String) (input : String → Option String) :
    resolve (templateArgs template) input = (fillTemplate template input).bind complete := rfl

/-! ### Filling a renamed template -/

def MessageError.renamed (rename : String → String) : MessageError → MessageError
  | .empty => .empty
  | .missing names => .missing (names.map rename)

section Rename

variable {rename : String → String} {value : String → Option String}

def renamedPart (rename : String → String) (part : List Piece × Bool) : List Piece × Bool :=
  (part.1.map (Piece.renamed rename), part.2)

theorem flatMap_names_renamed (pieces : List Piece) :
    (pieces.map (Piece.renamed rename)).flatMap Piece.names =
      (pieces.flatMap Piece.names).map rename := by
  rw [List.flatMap_map, List.map_flatMap]
  congr 1
  funext piece
  cases piece <;> rfl

theorem lacking_map (names : List String) :
    lacking value (names.map rename) = (lacking (value ∘ rename) names).map rename :=
  List.filter_map

theorem kept_renamedPart (part : List Piece × Bool) :
    kept value (renamedPart rename part) = kept (value ∘ rename) part := by
  have text : (part.1.map (Piece.renamed rename)).flatMap (Piece.replaced value) =
      part.1.flatMap (Piece.replaced (value ∘ rename)) := by
    rw [List.flatMap_map]
    congr 1
    funext piece
    cases piece <;> rfl
  rw [kept, kept, renamedPart, flatMap_names_renamed, text, List.any_map]
  rfl

theorem outside_renamed (parts : List (List Piece × Bool)) :
    outside (parts.map (renamedPart rename)) = (outside parts).map rename := by
  rw [outside, outside, List.flatMap_map, List.map_flatMap]
  congr 1
  funext part
  rw [partNames, partNames, renamedPart, flatMap_names_renamed]
  split <;> rfl

variable (names : ∀ name, IsName name → IsName (rename name))

include names

theorem readParts_renamePlaceholders (template : String) :
    readParts (renamePlaceholders rename template) =
      (readParts template).map (renamedPart rename) := by
  rw [readParts, renamePlaceholders_eq, String.toList_ofList, segments_renameChars names, readParts,
    List.map_map, List.map_map]
  congr 1
  funext segment
  simp [renamedPart, scan_renameChars names]

/-- Filling a renamed template is filling the template with what the new names
have, and reporting the new names, each once. -/
theorem fillTemplate_renamePlaceholders (template : String) :
    fillTemplate (renamePlaceholders rename template) value =
      if (lacking (value ∘ rename) (outside (readParts template))).isEmpty then
        .ok (String.ofList ((readParts template).flatMap (kept (value ∘ rename))))
      else .error (.missing
        ((lacking (value ∘ rename) (outside (readParts template))).map rename).eraseDups) := by
  rw [fillTemplate_eq, readParts_renamePlaceholders names, outside_renamed, lacking_map,
    List.isEmpty_map, List.flatMap_map, funext kept_renamedPart]

theorem resolve_renamePlaceholders (injective : Function.Injective rename) (template : String)
    (value : String → Option String) :
    resolve (templateArgs (renamePlaceholders rename template)) value =
      (resolve (templateArgs template) (value ∘ rename)).mapError
        (MessageError.renamed rename) := by
  rw [resolve_templateArgs, resolve_templateArgs, fillTemplate_renamePlaceholders names,
    fillTemplate_eq]
  split
  · simp only [Except.mapError, Except.bind, complete]
    split <;> rfl
  · rw [← eraseDups_map_eraseDups,
      eraseDups_of_nodup (List.Nodup.map injective (nodup_eraseDups _))]
    rfl

end Rename

end Triton.Correlation.Message
