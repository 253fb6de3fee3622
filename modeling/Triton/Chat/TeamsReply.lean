/-
# The reply of the Teams courier

The courier turns the result of a turn into a card, or into a text when there is
nothing to put on a card. A text comes from the surface of the result, and from
the result itself when it has none.

A task whose result was too large to keep is told to a late reader by a result
made of its stored text. That result has a surface member which is no surface,
and a single member which is no text, so what the user reads is the JSON of it.
-/

import Triton.A2ui.Extract
import Triton.Lib.Compact
import Triton.Lib.Utf8
import Triton.Tasks.Endings

namespace Triton.Chat.Msteams

open Triton.Lib Triton.A2ui Triton.Tasks

/-! ## Texts -/

def textMaxBytes : ℕ := 24576

def truncationSentinel : String :=
  "\n\n*(Content truncated for chat display. View full report for complete details.)*"

def textBudget : ℕ := textMaxBytes - Text.len truncationSentinel

/-- The beginning of a text that leaves room for the sentinel. -/
def cutText (s : String) : String := String.ofList (Text.takeBytes textBudget s.toList)

def clampPlainText (s : String) : String :=
  if Text.len s ≤ textMaxBytes then s else cutText s ++ truncationSentinel

/-- A result without a surface as a text: its only member or itself if that is a
text, else its JSON. -/
def bareText (numberText : Number → String) (value : Value) : String :=
  match value with
  | .object [(_, .string s)] => s
  | .string s => s
  | _ => value.compact numberText

/-! ## Markdown that asks for a card -/

def trimStart (s : String) : String := String.ofList (s.toList.dropWhile Text.isWhitespace)

/-- The lines of a text, without their endings. -/
def linesOf (s : String) : List String :=
  let pieces := Text.split '\n' s
  let pieces := if pieces.getLast? = some "" then pieces.dropLast else pieces
  pieces.map fun line => (Text.stripTail line "\r").getD line

def headingLevel (line : String) : Option ℕ :=
  let text := (trimStart line).toList
  let level := (text.takeWhile (· = '#')).length
  if 1 ≤ level ∧ level ≤ 6 ∧ (text.drop level).head? = some ' ' then some level else none

def isTableRow (line : String) : Bool :=
  let text := Text.trim line
  Text.startsWith text "|" && 1 < Text.len text

def splitRow (line : String) : List String :=
  let text := Text.trimStartMatches '|' (Text.trim line)
  (Text.split '|' ((Text.stripTail text "|").getD text)).map Text.trim

def isTableSeparator (line : String) : Bool :=
  isTableRow line && (splitRow line).all fun cell =>
    let cell := (Text.trimEndMatches ':' (Text.trimStartMatches ':' cell)).toList
    !cell.isEmpty && cell.all (· = '-')

/-- A heading, or a table row with a separator below it. -/
def isRichMarkdown (md : String) : Bool :=
  let lines := linesOf md
  lines.zipIdx.any fun (line, i) =>
    (headingLevel line).isSome || (isTableRow line && (lines[i + 1]?).any isTableSeparator)

/-! ## Replies -/

/-- The adapter's work on a decoded surface, one function for each thing it takes
from it. `render` fails on a surface without text, `sign` drops a control whose
token gets too long. -/
structure SurfaceMapper (Control Card : Type) where
  explain : Value → String
  isAllowedLink : String → Bool
  interactive : Surface → List Control
  render : Surface → Option String
  elements : Surface → List Value
  sign : Control → Option String
  reportImage : String → Value → Option String
  reportChart : String → Value → Option String → Option Value
  compose : String → Option (String × List (String × String)) → List (Control × String) →
    Option String → Option Value → List Value → Card

/-- A reply is a card around a text, or a text. -/
inductive Reply (Card : Type) where
  | card (text : String) (content : Card)
  | message (text : String)

def Reply.text {Card : Type} : Reply Card → String
  | .card text _ => text
  | .message text => text

namespace SurfaceMapper

variable {Control Card : Type} (mapper : SurfaceMapper Control Card) (numberText : Number → String)

/-- The decoder of the surface types with the adapter's link rule. -/
def codec : Codec where
  fromValue := decodeSurface mapper.explain
  buildEnvelope surface _ := V09.build surface
  isAllowedLink := mapper.isAllowedLink

def surfaceOf (result : Value) : Option Surface := (extractSurface mapper.codec result).toOption

def reportFromResult (result : Value) : Option (String × Value) :=
  (mapper.surfaceOf result).bind fun surface =>
    surface.components.findSome? fun
      | .report reportId args _ _ _ => some (reportId, args)
      | _ => none

def dashboardFromResult (result : Value) : Option (String × List (String × String)) :=
  (mapper.surfaceOf result).bind fun surface =>
    surface.components.findSome? fun
      | .dashboard title tiles => some (title, tiles.map fun tile => (tile.label, tile.value))
      | _ => none

/-- `none` without a surface, `some none` for a surface without text. -/
def tryRenderSurface (result : Value) : Option (Option String) :=
  (mapper.surfaceOf result).map mapper.render

/-- The card for a result; `none` when a text serves. -/
def cardForResult (result : Value) (imageUrl : Option String) (chart : Option Value) :
    Option (Reply Card) :=
  let specs := ((mapper.surfaceOf result).map mapper.interactive).getD []
  let dashboard := mapper.dashboardFromResult result
  let text := (mapper.tryRenderSurface result).join.getD ""
  let elements := ((mapper.surfaceOf result).map mapper.elements).getD []
  let rich := isRichMarkdown text || !elements.isEmpty
  let bare := dashboard.isNone && imageUrl.isNone && !rich
  if specs.isEmpty && bare then none
  else
    let signed := specs.filterMap fun spec => (mapper.sign spec).map (spec, ·)
    if signed.isEmpty && bare then none
    else some (.card text (mapper.compose text dashboard signed imageUrl chart elements))

def textReplyMessage (result : Value) : String :=
  match mapper.tryRenderSurface result with
  | some (some text) => text
  | some none => "(no content)"
  | none => clampPlainText (bareText numberText result)

/-- The reply to a turn. `imageHint` is the picture of a report that was asked for
directly. -/
def buildReplyBody (imageHint : Option String) (result : Value) : Reply Card :=
  let report := mapper.reportFromResult result
  let imageUrl := imageHint.or (report.bind fun r => mapper.reportImage r.1 r.2)
  let chart := report.bind fun r => mapper.reportChart r.1 r.2 imageUrl
  (mapper.cardForResult result imageUrl chart).getD
    (.message (mapper.textReplyMessage numberText result))

end SurfaceMapper

/-! ## The reply to a late reader -/

/-- The JSON of a stand-in up to the text, which follows escaped. -/
def standInHead : List Char := "\x7b\"surface\":\x7b\"text\":\"".toList

def standInTail : List Char := "\"\x7d\x7d".toList

def standInChars (text : List Char) : List Char := standInHead ++ (escape text ++ standInTail)

/-- The JSON of a stand-in. -/
def standInText (text : String) : String := String.ofList (standInChars text.toList)

/-- The beginning that the stand-in of a stand-in, and so on, has in common. -/
def nested : ℕ → List Char
  | 0 => []
  | depth + 1 => standInHead ++ escape (nested depth)

/-- So many bytes of it. -/
def nestedFront (budget : ℕ) : List Char := Text.takeBytes budget (nested budget)

/-- The text begins like its own stand-in, as far as the channel shows either. Then it is
too long for the channel, or ends like a text that was. -/
def Survives (text : String) : Prop :=
  (nestedFront textBudget <+: text.toList ∧ textMaxBytes < Text.len text) ∨
    text = String.ofList (nestedFront textBudget) ++ truncationSentinel

theorem compact_standIn (numberText : Number → String) (text : String) :
    (standIn text).compact numberText = standInText text := by
  have outer : escape "surface".toList = "surface".toList := by decide +kernel
  have inner : escape "text".toList = "text".toList := by decide +kernel
  have head : standInHead =
      '{' :: '"' :: ("surface".toList ++ '"' :: ':' :: '{' :: '"' ::
        ("text".toList ++ '"' :: ':' :: ['"'])) := by
    decide +kernel
  have tail : standInTail = ['"', '}', '}'] := by decide +kernel
  rw [standIn, Value.compact, standInText, standInChars, head, tail]
  simp only [Value.compactChars, Value.compactMembers, commas, List.intercalate_singleton, quote,
    outer, inner, List.cons_append, List.append_assoc, List.nil_append]

namespace SurfaceMapper

variable {Control Card : Type} (mapper : SurfaceMapper Control Card) (numberText : Number → String)

/-- The stand-in's surface member is no surface: it has no components. -/
theorem surfaceOf_standIn (text : String) : mapper.surfaceOf (standIn text) = none := by
  have unread : Surface.fromValue (.object [("text", .string text)]) = none := by
    simp [Surface.fromValue, Record.mandatory, Value.get, Members.get, List.lookup_cons]
  simp [surfaceOf, extractSurface, standIn, Value.get, Members.get, codec, decodeSurface, unread,
    Except.toOption]

theorem buildReplyBody_standIn (imageHint : Option String) (text : String) :
    (mapper.buildReplyBody numberText imageHint (standIn text)).text =
      if imageHint.isSome then "" else clampPlainText (standInText text) := by
  have bare : bareText numberText (standIn text) = standInText text :=
    compact_standIn numberText text
  have plain : isRichMarkdown "" = false := by decide
  have noReport : mapper.reportFromResult (standIn text) = none := by
    rw [reportFromResult, surfaceOf_standIn, Option.bind_none]
  have noDashboard : mapper.dashboardFromResult (standIn text) = none := by
    rw [dashboardFromResult, surfaceOf_standIn, Option.bind_none]
  have unrendered : mapper.tryRenderSurface (standIn text) = none := by
    rw [tryRenderSurface, surfaceOf_standIn, Option.map_none]
  cases imageHint with
  | none =>
    simp [buildReplyBody, noReport, cardForResult, noDashboard, unrendered, surfaceOf_standIn,
      plain, textReplyMessage, bare, Reply.text]
  | some url =>
    simp [buildReplyBody, noReport, cardForResult, noDashboard, unrendered, surfaceOf_standIn,
      Reply.text]

end SurfaceMapper

/-- The JSON of a stand-in is longer than the text in it. -/
theorem len_lt_standInText (text : String) : Text.len text < Text.len (standInText text) := by
  have grows := utf8Len_le_escape text.toList
  have head : 0 < String.utf8Len standInHead := by decide +kernel
  rw [len_eq_utf8Len, len_eq_utf8Len (standInText text), standInText, standInChars,
    String.toList_ofList, String.utf8Len_append, String.utf8Len_append]
  omega

theorem clampPlainText_of_long {s : String} (long : textMaxBytes < Text.len s) :
    clampPlainText s = cutText s ++ truncationSentinel :=
  if_neg (Nat.not_le.mpr long)

/-! ### Texts that begin like their own stand-in -/

theorem nested_begins (depth : ℕ) : nested depth <+: nested (depth + 1) := by
  induction depth with
  | zero => exact List.nil_prefix
  | succ depth ih => exact List.prefix_append_right_inj standInHead |>.mpr (escape_mono ih)

theorem le_utf8Len_nested (depth : ℕ) : depth ≤ String.utf8Len (nested depth) := by
  induction depth with
  | zero => exact Nat.zero_le _
  | succ depth ih =>
    have head : 0 < String.utf8Len standInHead := by decide +kernel
    have grows := utf8Len_le_escape (nested depth)
    rw [nested, String.utf8Len_append]
    omega

theorem printable_nested (depth : ℕ) : ∀ c ∈ nested depth, 32 ≤ c.toNat ∧ c.toNat < 128 := by
  induction depth with
  | zero => simp [nested]
  | succ depth ih =>
    have head : standInHead.all (fun c => 32 ≤ c.toNat && c.toNat < 128) = true := by
      decide +kernel
    intro c member
    rcases List.mem_append.mp member with fixed | escaped
    · simpa using List.all_eq_true.mp head c fixed
    · obtain ⟨d, inner, here⟩ := List.mem_flatMap.mp escaped
      have printable := ih d inner
      have visible : d ≠ '\n' ∧ d ≠ '\r' ∧ d ≠ '\t' := by
        refine ⟨?_, ?_, ?_⟩ <;> rintro rfl <;> exact absurd printable (by decide)
      have kept : c = '\\' ∨ c = d := by
        unfold escapeChar at here
        grind
      rcases kept with rfl | rfl
      · decide
      · exact printable

theorem utf8Len_nestedFront (budget : ℕ) : String.utf8Len (nestedFront budget) = budget := by
  have narrow : ∀ c ∈ nested budget, c.utf8Size = 1 := fun c member =>
    Char.utf8Size_eq_one_iff.mpr
      (UInt32.le_iff_toNat_le.mpr (Nat.le_of_lt_succ (printable_nested budget c member).2))
  exact utf8Len_takeBytes_of_narrow narrow (le_utf8Len_nested budget)

/-- The cut of a stand-in shows no more of the text than its beginning. -/
theorem takeBytes_standInChars {budget n : ℕ} {text : List Char}
    (begins : nestedFront budget <+: text) (few : n ≤ budget + 1) :
    Text.takeBytes n (standInChars text) = Text.takeBytes n (nested (budget + 1)) := by
  obtain ⟨rest, rfl⟩ := begins
  obtain ⟨more, whole⟩ := takeBytes_isPrefix budget (nested budget)
  have fills : n ≤ String.utf8Len (standInHead ++ escape (nestedFront budget)) := by
    have head : 0 < String.utf8Len standInHead := by decide +kernel
    have grows := utf8Len_le_escape (nestedFront budget)
    rw [utf8Len_nestedFront] at grows
    rw [String.utf8Len_append]
    omega
  have split : ∀ others, escape (nestedFront budget ++ others) =
      escape (nestedFront budget) ++ escape others := fun _ => List.flatMap_append
  calc Text.takeBytes n (standInChars (nestedFront budget ++ rest))
      = Text.takeBytes n (standInHead ++ escape (nestedFront budget)) := by
        rw [standInChars, split, List.append_assoc, ← List.append_assoc, takeBytes_append fills]
    _ = Text.takeBytes n (nested (budget + 1)) := by
        rw [nested, ← whole, ← nestedFront, split, ← List.append_assoc, takeBytes_append fills]

/-- What a text has in common with its stand-in is fixed, character by character. -/
theorem takeBytes_standInChars_eq {budget : ℕ} {text : List Char}
    (begins : Text.takeBytes budget (standInChars text) <+: text) :
    Text.takeBytes budget (standInChars text) = nestedFront budget := by
  have shared : ∀ n ≤ budget, Text.takeBytes n (standInChars text) = nestedFront n := by
    intro n within
    induction n with
    | zero => exact takeBytes_append (Nat.zero_le (String.utf8Len [])) (standInChars text)
    | succ n ih =>
      have known := ih (by omega)
      refine takeBytes_standInChars (known ▸ ?_) le_rfl
      exact (takeBytes_mono (by omega) _).trans begins
  exact shared budget le_rfl

theorem cutText_standInText {text : String} (begins : nestedFront textBudget <+: text.toList) :
    cutText (standInText text) = String.ofList (nestedFront textBudget) := by
  obtain ⟨more, longer⟩ := nested_begins textBudget
  rw [cutText, standInText, String.toList_ofList, takeBytes_standInChars begins (Nat.le_succ _),
    ← longer, takeBytes_append (le_utf8Len_nested _), nestedFront]

/-- The JSON and the text are shown alike exactly when the text begins like the JSON. -/
theorem clampPlainText_standInText_iff (text : String) :
    clampPlainText (standInText text) = clampPlainText text ↔ Survives text := by
  have longer := len_lt_standInText text
  constructor
  · intro same
    have long : textMaxBytes < Text.len (standInText text) := by
      -- uncut, the JSON would have to be the shorter text in it
      by_contra short
      rw [clampPlainText, clampPlainText, if_pos (Nat.not_lt.mp short), if_pos (by omega)] at same
      exact absurd (congrArg Text.len same) (by omega)
    rw [clampPlainText_of_long long] at same
    by_cases exceeds : textMaxBytes < Text.len text
    · rw [clampPlainText_of_long exceeds] at same
      have cut := congrArg String.toList ((String.append_left_inj _).mp same)
      rw [cutText, standInText, cutText, String.toList_ofList, String.toList_ofList,
        String.toList_ofList] at cut
      have begins := takeBytes_isPrefix textBudget text.toList
      rw [← cut] at begins
      exact .inl ⟨takeBytes_standInChars_eq begins ▸ begins, exceeds⟩
    · rw [clampPlainText, if_pos (Nat.not_lt.mp exceeds)] at same
      have chars := congrArg String.toList same
      rw [String.toList_append, cutText, standInText, String.toList_ofList,
        String.toList_ofList] at chars
      have begins := takeBytes_standInChars_eq ⟨_, chars⟩
      rw [cutText, standInText, String.toList_ofList, begins] at same
      exact .inr same.symm
  · intro survives
    have fills := utf8Len_nestedFront textBudget
    rcases survives with ⟨⟨rest, whole⟩, exceeds⟩ | marked
    · have front : cutText text = String.ofList (nestedFront textBudget) := by
        rw [cutText, ← whole, takeBytes_append fills.ge, takeBytes_eq_self_iff.mpr fills.le]
      rw [clampPlainText_of_long (exceeds.trans longer), clampPlainText_of_long exceeds, front,
        cutText_standInText ⟨rest, whole⟩]
    · have begins : nestedFront textBudget <+: text.toList := by
        rw [marked, String.toList_append, String.toList_ofList]
        exact List.prefix_append _ _
      have room : textBudget + Text.len truncationSentinel = textMaxBytes := by decide +kernel
      have full : Text.len text = textMaxBytes := by
        rw [marked, Utf8.len_append, len_eq_utf8Len, String.toList_ofList, fills, room]
      rw [clampPlainText_of_long (full ▸ longer), cutText_standInText begins, clampPlainText,
        if_pos full.le, marked]

theorem clampPlainText_eq_empty_iff (text : String) : clampPlainText text = "" ↔ text = "" := by
  have marked : truncationSentinel ≠ "" := by decide +kernel
  unfold clampPlainText
  split
  · rfl
  · rename_i long
    constructor
    · intro empty
      exact absurd (String.append_eq_empty_iff.mp empty).2 marked
    · intro empty
      have short : Text.len "" = 0 := rfl
      rw [empty, short] at long
      exact absurd (Nat.zero_le _) long

/-- A completed task of which only the text was kept. A late reader is told of it
by a result, and the text of the courier's reply to that is the stored text, cut
as the channel cuts, in the stated cases only: with the picture of a report beside
it, if it is empty; else, if it survives its own stand-in. -/
theorem late_reply_text_iff {Control Card : Type} (mapper : SurfaceMapper Control Card)
    (numberText : Number → String) (imageHint : Option String) (rec : TaskRecord) (text : String)
    (completed : rec.state = .completed) (dropped : rec.result = none)
    (kept : rec.resultText = some text) :
    ∃ result, storedEnding rec = some (.done result) ∧
      ((mapper.buildReplyBody numberText imageHint result).text = clampPlainText text ↔
        if imageHint.isSome then text = "" else Survives text) := by
  have told : storedEnding rec = some (.done (standIn text)) := by
    simp only [storedEnding, completed, dropped, kept, Option.getD_none, Option.getD_some]
  refine ⟨standIn text, told, ?_⟩
  rw [SurfaceMapper.buildReplyBody_standIn]
  cases imageHint with
  | none =>
    rw [Option.isSome_none, if_neg Bool.false_ne_true, if_neg Bool.false_ne_true]
    exact clampPlainText_standInText_iff text
  | some url =>
    rw [Option.isSome_some, if_pos rfl, if_pos rfl, eq_comm]
    exact clampPlainText_eq_empty_iff text

/-! ### Texts that survive, and one that does not -/

/-- A mapper that takes nothing from a surface. -/
def plainMapper : SurfaceMapper Unit Unit where
  explain _ := "invalid surface"
  isAllowedLink _ := false
  interactive _ := []
  render _ := none
  elements _ := []
  sign _ := none
  reportImage _ _ := none
  reportChart _ _ _ := none
  compose _ _ _ _ _ _ := ()

def completedWith (text : String) : TaskRecord :=
  { TaskRecord.new 0 "t1" "c1" "report" none with state := .completed, resultText := some text }

def nestedText : String := String.ofList (nestedFront textBudget) ++ truncationSentinel

theorem nested_text_arrives :
    ∃ result, storedEnding (completedWith nestedText) = some (.done result) ∧
      (plainMapper.buildReplyBody (fun _ => "0") none result).text = clampPlainText nestedText := by
  obtain ⟨result, told, arrives⟩ := late_reply_text_iff plainMapper (fun _ => "0") none
    (completedWith nestedText) nestedText rfl rfl rfl
  exact ⟨result, told, arrives.mpr (.inr rfl)⟩

/-- A result with a short text and something long beside it. -/
def padded (pad : String) : Value := .object [("pad", .string pad), ("text", .string "hi")]

def sampleRunner : Runner where
  taskMaxMs := 600000
  render value := ((value.get "text").bind Value.asStr).getD ""
  jsonLen value := some (Text.len (value.compact fun _ => "0"))

/-- The store after a runner has finished its task with a padded result. -/
def finishedWith (pad : String) : TaskStore :=
  (TaskStore.memory.put 0 none
    { TaskRecord.new 0 "t1" "c1" "report" none with state := .working }).1.finish
      sampleRunner 1 none "t1" (.ok (padded pad))

/-- Too much for a stored result. -/
def longPad : String := String.ofList (List.replicate resultJsonMaxBytes 'a')

theorem len_lt_compact_padded (pad : String) (numberText : Number → String) :
    Text.len pad < Text.len ((padded pad).compact numberText) := by
  have grows := utf8Len_le_escape pad.toList
  have brace := Char.utf8Size_pos '{'
  rw [len_eq_utf8Len, len_eq_utf8Len (Value.compact _ _), Value.compact, String.toList_ofList]
  simp only [padded, Value.compactChars, Value.compactMembers, commas, List.intercalate,
    List.intersperse, List.flatten_cons, quote, String.utf8Len_append, String.utf8Len_cons]
  omega

theorem len_longPad : Text.len longPad = resultJsonMaxBytes := Utf8.len_replicate (by decide) _

/-- Of a task that ended with a long result only the text is stored. -/
theorem get_finishedWith {pad : String} (long : resultJsonMaxBytes ≤ Text.len pad) :
    (finishedWith pad).get 1 "t1" = some { completedWith "hi" with updatedMs := 1 } := by
  have longer := len_lt_compact_padded pad fun _ => "0"
  have dropped : (sampleRunner.jsonLen (padded pad)).any (· ≤ resultJsonMaxBytes) = false := by
    rw [sampleRunner, Option.any_some, decide_eq_false_iff_not]
    omega
  rw [finishedWith, TaskStore.finish, dropped]
  rfl

/-- The stored text is `hi`, and what a late reader gets is JSON. -/
theorem late_reply_shows_json :
    ∃ rec result, (finishedWith longPad).get 1 "t1" = some rec ∧ rec.state = .completed ∧
      rec.result = none ∧ rec.resultText = some "hi" ∧
      storedEnding rec = some (.done result) ∧
      (plainMapper.buildReplyBody (fun _ => "0") none result).text =
        "\x7b\"surface\":\x7b\"text\":\"hi\"\x7d\x7d" ∧
      clampPlainText "hi" = "hi" := by
  have stored := get_finishedWith len_longPad.ge
  have reply : clampPlainText (standInText "hi") =
      "\x7b\"surface\":\x7b\"text\":\"hi\"\x7d\x7d" := by
    decide +kernel
  have whole : clampPlainText "hi" = "hi" := by decide +kernel
  have told : storedEnding { completedWith "hi" with updatedMs := 1 } =
      some (.done (standIn "hi")) := rfl
  have shown : (plainMapper.buildReplyBody (fun _ => "0") none (standIn "hi")).text =
      "\x7b\"surface\":\x7b\"text\":\"hi\"\x7d\x7d" := by
    rw [SurfaceMapper.buildReplyBody_standIn]
    exact reply
  exact ⟨{ completedWith "hi" with updatedMs := 1 }, standIn "hi", stored, rfl, rfl, rfl, told,
    shown, whole⟩

end Triton.Chat.Msteams
