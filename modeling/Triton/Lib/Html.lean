/-
# Reading HTML

A reader walks over a document and keeps where it stands: in text, in a tag, after the
equals sign of an attribute, or inside a value. It is content with a document when every
`href` value is one that is allowed, and when what was produced elsewhere stays in text
or inside a value: it opens no tag and ends no value.

Text is kept from being read as markup by entities. Escaping and reading the entities
again gives back the text.
-/

import Triton.Lib.Marked

namespace Triton.Lib.Html

/-- Where the reader stands. Names and values are kept with their last character
first. -/
inductive Place where
  | text
  | tag (name : List Char)
  | equals (name : List Char)
  | value (quote : Option Char) (name soFar : List Char)
  deriving DecidableEq

namespace Place

def step : Place → Char → Place
  | .text, c => if c = '<' then .tag [] else .text
  | .tag name, c =>
    if c = '>' then .text
    else if Text.isWhitespace c then .tag []
    else if c = '=' then .equals name
    else .tag (c :: name)
  | .equals name, c =>
    if c = '"' ∨ c = '\'' then .value (some c) name []
    else if c = '>' then .text
    else if Text.isWhitespace c then .equals name
    else .value none name [c]
  | .value (some quote) name soFar, c =>
    if c = quote then .tag [] else .value (some quote) name (c :: soFar)
  | .value none name soFar, c =>
    if c = '>' then .text
    else if Text.isWhitespace c then .tag []
    else .value none name (c :: soFar)

/-- The character is read in text or in a value and leaves the reader there. -/
def keeps (place : Place) (c : Char) : Bool :=
  match place, place.step c with
  | .text, .text => true
  | .value .., .value .. => true
  | _, _ => false

def isHref (name : List Char) : Bool := name.map Char.toLower == ['f', 'e', 'r', 'h']

/-- The value of an `href` that ends with this character. -/
def ended (place : Place) (c : Char) : Option (List Char) :=
  match place, place.step c with
  | .equals name, .text => if isHref name then some [] else none
  | .value _ name soFar, .tag _ => if isHref name then some soFar.reverse else none
  | .value _ name soFar, .text => if isHref name then some soFar.reverse else none
  | _, _ => none

/-- Where the reader stands after a text. -/
def after (place : Place) (m : Marked) : Place := m.foldl (fun now x => now.step x.1) place

def Quoted : Place → Prop
  | .value (some quote) _ _ => quote = '"' ∨ quote = '\''
  | _ => True

/-- The reader takes two characters for quotes. -/
theorem quoted_after {place : Place} (quoted : place.Quoted) (m : Marked) :
    (place.after m).Quoted := by
  refine List.foldlRecOn m _ quoted fun now quoted x _ => ?_
  unfold step
  repeat' split
  all_goals trivial

end Place

variable (allowed : List Char → Bool)

/-- The reader finds nothing wrong from here on. -/
def fine : Place → Marked → Bool
  | _, [] => true
  | place, x :: rest =>
    (!x.2 || place.keeps x.1) && (place.ended x.1).all allowed && fine (place.step x.1) rest

theorem fine_append (place : Place) (m n : Marked) :
    fine allowed place (m ++ n) = (fine allowed place m && fine allowed (place.after m) n) := by
  induction m generalizing place with
  | nil => rfl
  | cons x m ih => simp [fine, ih, Place.after, Bool.and_assoc]

variable {allowed} in
theorem fine_of_isPrefix {place : Place} {front m : Marked} (whole : fine allowed place m = true)
    (cut : front <+: m) : fine allowed place front = true := by
  obtain ⟨rest, rfl⟩ := cut
  rw [fine_append, Bool.and_eq_true] at whole
  exact whole.1

/-- From one place to another, nothing is found. -/
def Passes (place next : Place) (m : Marked) : Prop :=
  ∀ rest, fine allowed place (m ++ rest) = fine allowed next rest

/-- Markup in which all is well from one text to the next. -/
abbrev Calm (m : Marked) : Prop := Passes allowed .text .text m

variable {allowed}

namespace Passes

variable {place next last : Place} {m n : Marked}

theorem append (first : Passes allowed place next m) (second : Passes allowed next last n) :
    Passes allowed place last (m ++ n) := by
  intro rest
  rw [List.append_assoc, first, second]

theorem clip (passes : Passes allowed place next m) (budget : ℕ) :
    fine allowed place (m.clip budget) = true := by
  have whole := passes []
  rw [List.append_nil] at whole
  exact fine_of_isPrefix whole (Marked.clip_isPrefix budget m)

/-- Markup of one's own is read once and for all. It is allowed no link. -/
theorem own {s : String}
    (reads : place.after (Marked.own s) = next ∧
      fine (fun _ => false) place (Marked.own s) = true) :
    Passes allowed place next (Marked.own s) := by
  suffices found : fine allowed place (Marked.own s) = true by
    intro rest
    rw [fine_append, reads.1, found, Bool.true_and]
  have found := reads.2
  clear reads
  generalize Marked.own s = m at found
  induction m generalizing place with
  | nil => rfl
  | cons x m ih =>
    simp only [fine, Bool.and_eq_true] at found ⊢
    refine ⟨⟨found.1.1, ?_⟩, ih found.2⟩
    have none := found.1.2
    cases ending : place.ended x.1 with
    | none => rfl
    | some value =>
      rw [ending] at none
      cases none

end Passes

namespace Calm

variable {m n : Marked}

theorem nil : Calm allowed [] := fun _ => rfl

theorem flatMap {α : Type} {items : List α} {f : α → Marked}
    (each : ∀ a ∈ items, Calm allowed (f a)) : Calm allowed (items.flatMap f) := by
  induction items with
  | nil => exact nil
  | cons a items ih =>
    obtain ⟨first, rest⟩ := List.forall_mem_cons.mp each
    rw [List.flatMap_cons]
    exact first.append (ih rest)

/-- Without a bracket, text is text. -/
theorem of_text (plain : ∀ x ∈ m, x.1 ≠ '<') : Calm allowed m := by
  intro rest
  induction m with
  | nil => rfl
  | cons x m ih =>
    have here : x.1 ≠ '<' := plain x List.mem_cons_self
    have later := ih fun y member => plain y (List.mem_cons_of_mem x member)
    simp [fine, Place.step, Place.keeps, Place.ended, here, later]

end Calm

/-- A value between double quotes. -/
theorem fine_value {v : Marked} (unquoted : ∀ x ∈ v, x.1 ≠ '"') (name soFar : List Char)
    (rest : Marked) :
    fine allowed (.value (some '"') name soFar) (v ++ ('"', false) :: rest) =
      ((!Place.isHref name || allowed (soFar.reverse ++ v.map Prod.fst)) &&
        fine allowed (.tag []) rest) := by
  induction v generalizing soFar with
  | nil => cases href : Place.isHref name <;> simp [fine, Place.step, Place.ended, href]
  | cons x v ih =>
    have here : x.1 ≠ '"' := unquoted x List.mem_cons_self
    have later := ih fun y member => unquoted y (List.mem_cons_of_mem x member)
    simp [fine, Place.step, Place.keeps, Place.ended, here, later]

/-- A value that does not end. -/
theorem fine_open_value {v : Marked} {quote : Char} (unended : ∀ x ∈ v, x.1 ≠ quote)
    (name soFar : List Char) : fine allowed (.value (some quote) name soFar) v = true := by
  induction v generalizing soFar with
  | nil => rfl
  | cons x v ih =>
    have here : x.1 ≠ quote := unended x List.mem_cons_self
    have later := ih fun y member => unended y (List.mem_cons_of_mem x member)
    simp [fine, Place.step, Place.keeps, Place.ended, here, later]

def anchorStart : Marked := Marked.own "<a href=\""

/-- A link is fine when its address is allowed. -/
theorem fine_anchor {v : Marked} (unquoted : ∀ x ∈ v, x.1 ≠ '"') (rest : Marked) :
    fine allowed .text (anchorStart ++ (v ++ ('"', false) :: rest)) =
      (allowed (v.map Prod.fst) && fine allowed (.tag []) rest) := by
  have start : Passes allowed .text (.value (some '"') ['f', 'e', 'r', 'h'] []) anchorStart :=
    .own (by decide)
  rw [start, fine_value unquoted]
  simp [Place.isHref]

/-! ## Entities -/

def entity (c : Char) : List Char :=
  if c = '&' then "&amp;".toList
  else if c = '<' then "&lt;".toList
  else if c = '>' then "&gt;".toList
  else [c]

/-- A character has an entity or stands for itself. -/
theorem entity_cases {holds : Char → Prop} (amp : holds '&') (lt : holds '<') (gt : holds '>')
    (plain : ∀ c, entity c = [c] → c ≠ '&' → c ≠ '<' → c ≠ '>' → holds c) (c : Char) : holds c := by
  by_cases isAmp : c = '&'
  · exact isAmp ▸ amp
  by_cases isLt : c = '<'
  · exact isLt ▸ lt
  by_cases isGt : c = '>'
  · exact isGt ▸ gt
  exact plain c (by simp [entity, isAmp, isLt, isGt]) isAmp isLt isGt

def attrEntity (c : Char) : List Char := if c = '"' then "&quot;".toList else entity c

/-- Escaped for text. -/
def escapeHtml (s : String) : Marked := (s.toList.flatMap entity).map (·, true)

/-- Escaped for a value between double quotes. -/
def escapeAttr (s : String) : Marked := (s.toList.flatMap attrEntity).map (·, true)

def unescape : List Char → List Char
  | '&' :: 'a' :: 'm' :: 'p' :: ';' :: rest => '&' :: unescape rest
  | '&' :: 'l' :: 't' :: ';' :: rest => '<' :: unescape rest
  | '&' :: 'g' :: 't' :: ';' :: rest => '>' :: unescape rest
  | '&' :: 'q' :: 'u' :: 'o' :: 't' :: ';' :: rest => '"' :: unescape rest
  | c :: rest => c :: unescape rest
  | [] => []

theorem unescape_cons {c : Char} (solid : c ≠ '&') (rest : List Char) :
    unescape (c :: rest) = c :: unescape rest := by
  rw [unescape] <;> intros <;> simp_all

theorem unescape_entity (c : Char) (rest : List Char) :
    unescape (entity c ++ rest) = c :: unescape rest := by
  induction c using entity_cases with
  | amp | lt | gt => rfl
  | plain c bare solid _ _ => rw [bare, List.singleton_append, unescape_cons solid]

/-- A reader of entities that reads each as its character gives back the text. -/
theorem unescape_flatMap {written : Char → List Char}
    (reads : ∀ c rest, unescape (written c ++ rest) = c :: unescape rest) (chars : List Char) :
    unescape (chars.flatMap written) = chars := by
  induction chars with
  | nil => rfl
  | cons c chars ih => rw [List.flatMap_cons, reads, ih]

theorem unescape_escapeAttr (chars : List Char) : unescape (chars.flatMap attrEntity) = chars := by
  refine unescape_flatMap (fun c rest => ?_) chars
  rw [attrEntity]
  split
  · subst c; rfl
  · exact unescape_entity c rest

theorem ne_bracket_of_mem_entity {c d : Char} (member : d ∈ entity c) : d ≠ '<' := by
  rintro rfl
  induction c using entity_cases with
  | amp | lt | gt => exact absurd member (by decide)
  | plain c bare _ solid _ =>
    rw [bare] at member
    exact solid (List.mem_singleton.mp member).symm

theorem ne_quote_of_mem_attrEntity {c d : Char} (member : d ∈ attrEntity c) : d ≠ '"' := by
  rintro rfl
  rw [attrEntity] at member
  split at member
  · exact absurd member (by decide)
  · rename_i solid
    induction c using entity_cases with
    | amp | lt | gt => exact absurd member (by decide)
    | plain c bare _ _ _ =>
      rw [bare] at member
      exact solid (List.mem_singleton.mp member).symm

theorem plain_escapeHtml (s : String) : ∀ x ∈ escapeHtml s, x.1 ≠ '<' := by
  intro x member
  obtain ⟨d, inside, rfl⟩ := List.mem_map.mp member
  obtain ⟨c, _, among⟩ := List.mem_flatMap.mp inside
  exact ne_bracket_of_mem_entity among

theorem calm_escapeHtml (s : String) : Calm allowed (escapeHtml s) :=
  .of_text (plain_escapeHtml s)

theorem unquoted_escapeAttr (s : String) : ∀ x ∈ escapeAttr s, x.1 ≠ '"' := by
  intro x member
  obtain ⟨d, inside, rfl⟩ := List.mem_map.mp member
  obtain ⟨c, _, among⟩ := List.mem_flatMap.mp inside
  exact ne_quote_of_mem_attrEntity among

end Triton.Lib.Html
