/-
# The form of a widget

The widget of a card fills the template of a form on the client. It gets the
template as parts and has its own rules for trimming and for what is missing. Its
texts are sequences of UTF-16 units. It composes the message that the server would
compose from the same values, and misses the same names.
-/

import Triton.Correlation.Filling
import Triton.Lib.Utf16

namespace Triton.A2ui.Widget

open Triton.Lib Triton.Correlation Message

/-- The white space of the widget's own trimming, which is that of the server and
not that of the script language. -/
def isSpace (u : UInt16) : Bool :=
  let n := u.toNat
  n == 0x09 || n == 0x0A || n == 0x0B || n == 0x0C || n == 0x0D || n == 0x20 || n == 0x85 ||
    n == 0xA0 || n == 0x1680 || (0x2000 ≤ n && n ≤ 0x200A) || n == 0x2028 || n == 0x2029 ||
    n == 0x202F || n == 0x205F || n == 0x3000

def trim (text : Units) : Units := Utf16.trimWhile isSpace text

/-- A member of a part as a text. The parts of a template hold nothing else. -/
def textOf (value : Value) : Units := Utf16.encode (value.asStr.getD "")

/-- The own properties of the object with the values of the inputs. -/
abbrev Values := Units → Option Units

/-- The text so far, and the names that are missing. -/
abbrev Progress := Units × List Units

def missOnce (missing : List Units) (name : Units) : List Units :=
  if missing.contains name then missing else missing ++ [name]

/-- One part that is not optional. `ph`, when given, stands in for a name that is
missing. -/
def fillOne (values : Values) (ph : Option (Units → Units)) : Progress → Value → Progress
  | (out, missing), p =>
    match p.get "text", p.get "field" with
    | some text, _ => (out ++ textOf text, missing)
    | none, some field =>
      let name := textOf field
      let v := trim ((values name).getD [])
      if v.isEmpty then (out ++ (ph.map (· name)).getD [], missOnce missing name)
      else (out ++ v, missing)
    | none, none => (out, missing)

/-- A part of a template. An optional one is decided by the values alone. -/
def fillStep (values : Values) (ph : Option (Units → Units)) : Progress → Value → Progress
  | (out, missing), p =>
    match (p.get "optional").bind Value.asArray with
    | some items =>
      let (o, m) := items.foldl (fillOne values none) ([], [])
      (if m.isEmpty then out ++ o else out, missing)
    | none => fillOne values ph (out, missing) p

structure Filled where
  text : Units
  missing : List Units
  deriving DecidableEq

def fill (parts : Value) (values : Values) (ph : Option (Units → Units)) : Filled :=
  let (out, missing) := (parts.asArray.getD []).foldl (fillStep values ph) ([], [])
  ⟨trim out, missing⟩

/-! ## Agreement with the server -/

/-- The object holds what the server reads under each name. -/
def Holds (values : Values) (value : String → Option String) : Prop :=
  ∀ name, values (Utf16.encode name) = (value name).map Utf16.encode

theorem isSpace_of_mem_units {c : Char} {u : UInt16} (member : u ∈ Utf16.units c) :
    isSpace u = Text.isWhitespace c := by
  unfold Utf16.units at member
  have bound := Utf16.toNat_lt_planes c
  split at member
  case isTrue small =>
    rw [List.mem_singleton.mp member]
    simp only [isSpace, Text.isWhitespace, Utf16.toNat_small small]
    grind
  case isFalse large =>
    have plain : Text.isWhitespace c = false := by
      simp [Text.isWhitespace]
      omega
    rw [plain]
    simp only [List.mem_cons, List.not_mem_nil, or_false] at member
    rcases member with rfl | rfl
    · simp only [isSpace]
      rw [Utf16.toNat_small (by omega)]
      simp
      omega
    · simp only [isSpace]
      rw [Utf16.toNat_small (by omega)]
      simp
      omega

theorem trim_encode (s : String) : trim (Utf16.encode s) = Utf16.encode (Text.trim s) :=
  Utf16.trimWhile_encode (fun _ _ => isSpace_of_mem_units) s

theorem missOnce_map_encode (names : List String) (name : String) :
    missOnce (names.map Utf16.encode) (Utf16.encode name) =
      (addOnce names name).map Utf16.encode := by
  have known : (names.map Utf16.encode).contains (Utf16.encode name) = names.contains name := by
    rw [Bool.eq_iff_iff, List.contains_iff_mem, List.contains_iff_mem,
      List.mem_map_of_injective fun _ _ => Utf16.encode_inj.mp]
  unfold missOnce addOnce
  rw [known]
  split
  · rfl
  · rw [List.map_append]
    rfl

/-- Only an optional part is read as one. -/
theorem notOptional_of_mem_flat {part : List Char} {p : Value} (member : p ∈ flat part) :
    (p.get "optional").bind Value.asArray = none := by
  have plain_text : ∀ run, ∀ p ∈ textPart run, (p.get "optional").bind Value.asArray = none := by
    intro run p member
    unfold textPart at member
    split at member
    · cases member
    · cases List.mem_singleton.mp member
      rfl
  have along : ∀ (pieces : List Piece) (out : List Value) (run : String),
      (∀ p ∈ out, (p.get "optional").bind Value.asArray = none) →
      ∀ p ∈ (pieces.foldl flatStep (out, run)).1, (p.get "optional").bind Value.asArray = none := by
    intro pieces
    induction pieces with
    | nil => exact fun out run plain => plain
    | cons piece pieces ih =>
      intro out run plain
      cases piece with
      | literal c => exact ih out _ plain
      | field name =>
        refine ih _ _ fun p member => ?_
        simp only [List.mem_append, List.mem_singleton] at member
        rcases member with (old | text) | rfl
        · exact plain p old
        · exact plain_text run p text
        · rfl
  rcases List.mem_append.mp member with done | last
  · exact along (scan 0 part) [] "" (by simp) p done
  · exact plain_text _ p last

theorem foldl_fillStep_flat (values : Values) (ph : Option (Units → Units)) (part : List Char)
    (state : Progress) :
    (flat part).foldl (fillStep values ph) state = (flat part).foldl (fillOne values ph) state := by
  refine List.foldl_ext _ _ _ fun progress p member => ?_
  rw [fillStep, notOptional_of_mem_flat member]

/-- The widget's progress stands for that of the server. -/
def progress (text : List Char) (names : List String) : Progress :=
  (text.flatMap Utf16.units, names.map Utf16.encode)

section Agreement

variable {values : Values} {value : String → Option String} (holds : Holds values value)

theorem fillOne_textPart (ph : Option (Units → Units)) (state : Progress) (run : String) :
    (textPart run).foldl (fillOne values ph) state = (state.1 ++ Utf16.encode run, state.2) := by
  unfold textPart
  split
  case isTrue empty =>
    rw [String.isEmpty_iff] at empty
    simp [empty]
  case isFalse => rfl

include holds

theorem trim_value (name : String) :
    trim ((values (Utf16.encode name)).getD []) =
      Utf16.encode (Text.trim ((value name).getD "")) := by
  rw [← trim_encode, holds name]
  cases value name <;> rfl

/-- A name is filled with the same text, and missing alike. -/
theorem fillOne_fieldPart (text : List Char) (seen : List String) (name : String) :
    fillOne values none (progress text seen.eraseDups) (fieldPart name) =
      progress (text ++ (Piece.field name).replaced value)
        (seen ++ lacking value [name]).eraseDups := by
  have read : fillOne values none (progress text seen.eraseDups) (fieldPart name) =
      if (trim ((values (Utf16.encode name)).getD [])).isEmpty then
        ((progress text seen.eraseDups).1 ++ [],
          missOnce (progress text seen.eraseDups).2 (Utf16.encode name))
      else ((progress text seen.eraseDups).1 ++ trim ((values (Utf16.encode name)).getD []),
        (progress text seen.eraseDups).2) := rfl
  have told : given value name = !(Text.trim ((value name).getD "")).isEmpty := by
    unfold given
    cases value name <;> rfl
  rw [read, trim_value holds, Piece.replaced, lacking, List.filter_singleton, told]
  generalize Text.trim ((value name).getD "") = v
  have visible : (Utf16.encode v).isEmpty = v.isEmpty := by
    rw [Bool.eq_iff_iff, List.isEmpty_iff, Utf16.encode_eq_nil_iff, String.isEmpty_iff]
  rw [visible]
  cases blank : v.isEmpty with
  | true => simp [String.isEmpty_iff.mp blank, progress, missOnce_map_encode, addOnce_eraseDups]
  | false => simp [progress, Utf16.encode]

theorem foldl_flat (pieces : List Piece) (out : List Value) (run : String) (state : Progress)
    (text : List Char) (seen : List String)
    (before : (out ++ textPart run).foldl (fillOne values none) state =
      progress text seen.eraseDups) :
    let (done, open_) := pieces.foldl flatStep (out, run)
    (done ++ textPart open_).foldl (fillOne values none) state =
      progress (text ++ pieces.flatMap (Piece.replaced value))
        (seen ++ lacking value (pieces.flatMap Piece.names)).eraseDups := by
  induction pieces generalizing out run text seen with
  | nil => simpa [lacking] using before
  | cons piece pieces ih =>
    rw [List.flatMap_cons, List.flatMap_cons, lacking, List.filter_append, ← List.append_assoc,
      ← List.append_assoc]
    cases piece with
    | literal c =>
      refine ih out (run.push c) _ _ ?_
      rw [List.foldl_append, fillOne_textPart] at before ⊢
      rw [Utf16.encode_push, ← List.append_assoc, progress]
      rw [progress, Prod.mk.injEq] at before
      rw [before.1, before.2]
      simp [Piece.replaced, Piece.names]
    | field name =>
      refine ih (out ++ textPart run ++ [fieldPart name]) "" _ _ ?_
      rw [List.foldl_append, fillOne_textPart, List.foldl_append, before, List.foldl_cons,
        fillOne_fieldPart holds]
      simp [Piece.names, lacking]

theorem fillOne_flat (part : List Char) (text : List Char) (seen : List String) :
    (flat part).foldl (fillOne values none) (progress text seen.eraseDups) =
      progress (text ++ (scan 0 part).flatMap (Piece.replaced value))
        (seen ++ lacking value ((scan 0 part).flatMap Piece.names)).eraseDups := by
  apply foldl_flat holds
  simp [textPart]

theorem foldl_segmentParts (segment : List Char × Bool) (text : List Char) (seen : List String) :
    (segmentParts segment).foldl (fillStep values none) (progress text seen.eraseDups) =
      progress (text ++ kept value (scan 0 segment.1, segment.2))
        (seen ++ lacking value (partNames (scan 0 segment.1, segment.2))).eraseDups := by
  obtain ⟨part, optional⟩ := segment
  cases optional with
  | false =>
    rw [segmentParts, foldl_fillStep_flat, fillOne_flat holds]
    rfl
  | true =>
    have inside := fillOne_flat holds part [] []
    have step : (segmentParts (part, true)).foldl (fillStep values none)
        (progress text seen.eraseDups) =
        let (o, m) := (flat part).foldl (fillOne values none) ([], [])
        (if m.isEmpty then (progress text seen.eraseDups).1 ++ o
          else (progress text seen.eraseDups).1, (progress text seen.eraseDups).2) := rfl
    rw [List.nil_append, List.nil_append] at inside
    rw [step, show (([], []) : Progress) = progress [] ([] : List String).eraseDups from rfl,
      inside]
    simp only [progress, kept, partNames, any_not_given, List.isEmpty_map, isEmpty_eraseDups]
    cases (lacking value ((scan 0 part).flatMap Piece.names)).isEmpty <;> simp [lacking]

theorem fill_templateParts (template : String) :
    fill (templateParts template) values none =
      ⟨Utf16.encode (Text.trim (String.ofList ((readParts template).flatMap (kept value)))),
        (lacking value (outside (readParts template))).eraseDups.map Utf16.encode⟩ := by
  have along : ∀ (parts : List (List Char × Bool)) (text : List Char) (seen : List String),
      (parts.flatMap segmentParts).foldl (fillStep values none) (progress text seen.eraseDups) =
        progress
          (text ++ (parts.map fun part => (scan 0 part.1, part.2)).flatMap (kept value))
          (seen ++ lacking value
            (outside (parts.map fun part => (scan 0 part.1, part.2)))).eraseDups := by
    intro parts
    induction parts with
    | nil => intro text seen; simp [outside, lacking]
    | cons segment parts ih =>
      intro text seen
      rw [List.flatMap_cons, List.foldl_append, foldl_segmentParts holds, ih]
      simp [outside, lacking]
  have whole := along (segments template.toList) [] []
  rw [List.nil_append, List.nil_append] at whole
  change (segments template.toList |>.flatMap segmentParts).foldl (fillStep values none) ([], []) =
    _ at whole
  rw [← trim_encode, Utf16.encode_ofList, fill, templateParts]
  simp only [Value.asArray, Option.getD_some, whole]
  rfl

end Agreement

/-- The widget composes the message of the server: it misses the same names in the
same order, and when none is missing its text is the trimmed message. -/
theorem widget_composes_message (template : String) {values : Values}
    {value : String → Option String} (holds : Holds values value) :
    (∀ text, fillTemplate template value = .ok text →
        fill (templateParts template) values none = ⟨Utf16.encode (Text.trim text), []⟩) ∧
      ∀ error, fillTemplate template value = .error error →
        ∃ names, error = .missing names ∧ names ≠ [] ∧
          (fill (templateParts template) values none).missing = names.map Utf16.encode := by
  rw [fill_templateParts holds, fillTemplate_eq]
  cases names : lacking value (outside (readParts template)) with
  | nil => simp
  | cons name rest => simp [List.eraseDups_cons]

/-- A request with a reason that may be left out. -/
def sampleTemplate : String := "Retire \x7ba\x7d[[: \x7bwhy\x7d]]"

/-- The reason is blank. -/
def sampleValue (name : String) : Option String :=
  if name = "a" then some " A" else if name = "why" then some "\u00a0" else none

def sampleValues (key : Units) : Option Units :=
  if key = Utf16.encode "a" then some (Utf16.encode " A")
  else if key = Utf16.encode "why" then some (Utf16.encode "\u00a0")
  else none

theorem sampleValues_holds : Holds sampleValues sampleValue := by
  intro name
  simp only [sampleValues, sampleValue, Utf16.encode_inj]
  split
  · rfl
  · split <;> rfl

theorem segments_sample : segments sampleTemplate.toList =
    [("Retire \x7ba\x7d".toList, false), (": \x7bwhy\x7d".toList, true)] := by
  have opened : breakAt ['[', '['] sampleTemplate.toList =
      some ("Retire \x7ba\x7d".toList, ": \x7bwhy\x7d]]".toList) := by decide
  have closed : breakAt [']', ']'] ": \x7bwhy\x7d]]".toList =
      some (": \x7bwhy\x7d".toList, []) := by decide
  have behind : segments [] = [] := by rw [segments_eq]; rfl
  rw [segments_eq, opened]
  dsimp only
  rw [closed]
  dsimp only
  rw [behind]
  rfl

theorem fillTemplate_sample : fillTemplate sampleTemplate sampleValue = .ok "Retire A" := by
  rw [fillTemplate, segments_sample]
  rfl

theorem widget_leaves_blank_reason_out :
    fill (templateParts sampleTemplate) sampleValues none =
      ⟨Utf16.encode (Text.trim "Retire A"), []⟩ :=
  (widget_composes_message sampleTemplate sampleValues_holds).1 _ fillTemplate_sample

end Triton.A2ui.Widget
