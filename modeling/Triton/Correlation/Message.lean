/-
# Messages that a control sends

A chip, a row action or a form submit sends one complete message. The message of
a form is a template: the names in single braces are filled from the inputs, and
a part in double square brackets is kept only when all its names are filled.
Anything else in braces is text.
-/

import Triton.Lib.Record
import Triton.Lib.Text

namespace Triton.Correlation.Message

open Triton.Lib

def sendMessageTool : String := "__send_message"

def textArgs (text : String) : Value := Record.object [("m", Record.str text)]

def templateArgs (template : String) : Value := Record.object [("tpl", Record.str template)]

inductive MessageError where
  | empty
  | missing (names : List String)
  deriving DecidableEq, Repr

def isNameChar (c : Char) : Bool := c.isAlphanum || c == '_' || c == '.' || c == '-'

inductive Piece where
  | literal (c : Char)
  | field (name : String)
  deriving DecidableEq, Repr

/-- The name of the placeholder a text begins with. -/
def placeholderAt : List Char → Option String
  | '{' :: rest =>
    let name := rest.takeWhile isNameChar
    if name.isEmpty || (rest.drop name.length).head? != some '}' then none
    else some (String.ofList name)
  | _ => none

/-- The characters and placeholders of a text. The number counts the characters
that still belong to the placeholder read last. -/
def scan : ℕ → List Char → List Piece
  | _, [] => []
  | skip + 1, _ :: rest => scan skip rest
  | 0, c :: rest =>
    match placeholderAt (c :: rest) with
    | some name => .field name :: scan (name.length + 1) rest
    | none => .literal c :: scan 0 rest

/-- The text before and after the first occurrence of a separator. -/
def breakAt (separator : List Char) : List Char → Option (List Char × List Char)
  | [] => none
  | c :: rest =>
    if separator.isPrefixOf (c :: rest) then some ([], (c :: rest).drop separator.length)
    else (breakAt separator rest).map fun (before, after) => (c :: before, after)

theorem append_of_breakAt {separator text before after : List Char}
    (cut : breakAt separator text = some (before, after)) :
    text = before ++ separator ++ after := by
  induction text generalizing before with
  | nil => cases cut
  | cons c rest ih =>
    rw [breakAt] at cut
    split at cut
    case isTrue here =>
      cases cut
      obtain ⟨tail, whole⟩ := List.isPrefixOf_iff_prefix.mp here
      rw [← whole, List.drop_left, List.nil_append]
    case isFalse =>
      obtain ⟨⟨first, second⟩, later, same⟩ := Option.map_eq_some_iff.mp cut
      cases same
      rw [ih later]
      rfl

theorem length_breakAt {separator text before after : List Char} (nonempty : separator ≠ [])
    (found : breakAt separator text = some (before, after)) : after.length < text.length := by
  have long := List.length_pos_of_ne_nil nonempty
  rw [append_of_breakAt found, List.length_append, List.length_append]
  omega

/-- A part that is not optional, unless it is empty. -/
def mandatory (part : List Char) : List (List Char × Bool) :=
  if part.isEmpty then [] else [(part, false)]

/-- The parts of a template, each with whether it is optional. Brackets that are
not closed are text. -/
def segments (template : List Char) : List (List Char × Bool) :=
  match _opened : breakAt ['[', '['] template with
  | none => mandatory template
  | some (before, inside) =>
    match _closed : breakAt [']', ']'] inside with
    | none => mandatory template
    | some (part, rest) => mandatory before ++ (part, true) :: segments rest
termination_by template.length
decreasing_by
  have inner := length_breakAt (List.cons_ne_nil _ _) _opened
  have outer := length_breakAt (List.cons_ne_nil _ _) _closed
  omega

def addOnce (names : List String) (name : String) : List String :=
  if names.contains name then names else names ++ [name]

/-- The names in a template, each once, in the order of first appearance. -/
def placeholders (template : String) : List String :=
  (scan 0 template.toList).foldl (fun names piece =>
    match piece with
    | .literal _ => names
    | .field name => addOnce names name) []

/-- The text of a part, and the names in it that have no value. -/
def fillPart (value : String → Option String) (part : List Char) : String × List String :=
  (scan 0 part).foldl (fun (out, missing) piece =>
    match piece with
    | .literal c => (out.push c, missing)
    | .field name =>
      match (value name).filter fun v => !(Text.trim v).isEmpty with
      | some v => (out ++ Text.trim v, missing)
      | none => (out, addOnce missing name)) ("", [])

/-- Fill every placeholder. Names without a value are reported, unless they stand
in an optional part, which is then left out. -/
def fillTemplate (template : String) (value : String → Option String) :
    Except MessageError String :=
  let (out, missing) := (segments template.toList).foldl (fun (out, missing) (part, optional) =>
    let (filled, partMissing) := fillPart value part
    if optional then (if partMissing.isEmpty then out ++ filled else out, missing)
    else (out ++ filled, partMissing.foldl addOnce missing)) ("", [])
  if missing.isEmpty then .ok out else .error (.missing missing)

/-- The names outside every optional part. -/
def requiredPlaceholders (template : String) : List String :=
  (segments template.toList).foldl (fun names (part, optional) =>
    if optional then names
    else (scan 0 part).foldl (fun names piece =>
      match piece with
      | .literal _ => names
      | .field name => addOnce names name) names) []

/-- A piece as it stands in a template, under a new name. -/
def Piece.written (rename : String → String) : Piece → String
  | .literal c => String.singleton c
  | .field name => "\x7b" ++ rename name ++ "\x7d"

/-- Rename every placeholder and leave the rest of the template as it is. -/
def renamePlaceholders (rename : String → String) (template : String) : String :=
  (scan 0 template.toList).foldl (fun out piece => out ++ piece.written rename) ""

/-- A run of text as a part of a parsed template, unless it is empty. -/
def textPart (run : String) : List Value :=
  if run.isEmpty then [] else [Record.object [("text", Record.str run)]]

def fieldPart (name : String) : Value := Record.object [("field", Record.str name)]

/-- The parts so far and the run of text that is open. -/
def flatStep : List Value × String → Piece → List Value × String
  | (out, run), .literal c => (out, run.push c)
  | (out, run), .field name => (out ++ textPart run ++ [fieldPart name], "")

/-- A part without optional parts in it, as data. -/
def flat (part : List Char) : List Value :=
  let (out, run) := (scan 0 part).foldl flatStep ([], "")
  out ++ textPart run

def segmentParts : List Char × Bool → List Value
  | (part, true) => [Record.object [("optional", some (.array (flat part)))]]
  | (part, false) => flat part

/-- The template as data, for a client that fills it itself. -/
def templateParts (template : String) : Value :=
  .array ((segments template.toList).flatMap segmentParts)

/-- A text as a message: trimmed, and not blank. -/
def complete (text : String) : Except MessageError String :=
  if (Text.trim text).isEmpty then .error .empty else .ok (Text.trim text)

/-- The message of a verified payload, completed from the inputs. -/
def resolve (args : Value) (input : String → Option String) : Except MessageError String :=
  match (args.get "m").bind Value.asStr with
  | some m => complete m
  | none =>
    match (args.get "tpl").bind Value.asStr with
    | some template => (fillTemplate template input).bind complete
    | none => .error .empty

/-- The template as a reader sees it, with labels in the places of the names. -/
def previewTemplate (template : String) (label : String → Option String) : String :=
  (segments template.toList).foldl (fun out (part, _) =>
    (scan 0 part).foldl (fun out piece =>
      match piece with
      | .literal c => out.push c
      | .field name => out ++ "‹" ++ (label name).getD name ++ "›") out) ""

end Triton.Correlation.Message
