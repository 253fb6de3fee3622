/-
# Components as plain text

A channel without widgets shows a conversation component as text. A reader of text
cannot click, so what a control would send is shown as a complete line to copy, and a
link is shown as its address.
-/

import Triton.A2ui.Surface
import Triton.Correlation.Message

namespace Triton.A2ui.PlainText

open Triton.Lib Triton.Correlation

/-- The mark of a line to copy and send. -/
def sendMark : String := "› "

def lines (texts : List String) : String := "\n".intercalate texts

def isBlank (text : String) : Bool := (Text.trim text).isEmpty

def diffLine : DiffLine → String
  | .add text => "+ " ++ text ++ "\n"
  | .del text => "- " ++ text ++ "\n"
  | .ctx text => "  " ++ text ++ "\n"
  | .fold count _ => "@@ " ++ toString count ++ " unchanged lines @@\n"

def diffToText (diff : List DiffLine) : String := Text.trimEnd ("".intercalate (diff.map diffLine))

def heading (title : Option String) : List String := (title.filter fun t => !isBlank t).toList

/-- The line of a button or of a row's action. -/
def actionLine (label : String) : Action → String
  | .openUrl url => label ++ ": " ++ url
  | .sendMessage text => sendMark ++ text

/-- The line below a numbered row. -/
def rowAction : Option Action → List String
  | some (.openUrl url) => ["   " ++ url]
  | some (.sendMessage text) => ["   " ++ sendMark ++ text]
  | none => []

def listItem (it : ListItem) (i : ℕ) : List String :=
  let detail :=
    match it.detail.filter (!·.isEmpty) with
    | some d => " — " ++ d
    | none => ""
  (toString (i + 1) ++ ". " ++ it.label ++ detail) :: rowAction it.action

def list (title : Option String) (items : List ListItem) : String :=
  lines (heading title ++ items.zipIdx.flatMap fun it => listItem it.1 it.2)

/-- The cells of a row that hold something. The first stands without its label. -/
def cellTexts (columns : List TableColumn) (r : TableRow) : List String :=
  let cells := columns.filterMap fun c =>
    ((r.cells.lookup c.key).filter (!·.isEmpty)).map (c.label, ·)
  cells.zipIdx.map fun cell =>
    if cell.2 = 0 then cell.1.2 else cell.1.1 ++ ": " ++ cell.1.2

def tableRow (columns : List TableColumn) (r : TableRow) (i : ℕ) : List String :=
  (toString (i + 1) ++ ". " ++ " · ".intercalate (cellTexts columns r)) :: rowAction r.action

def table (title : Option String) (columns : List TableColumn) (rows : List TableRow) : String :=
  lines (heading title ++ rows.zipIdx.flatMap fun r => tableRow columns r.1 r.2)

def chipsText (prompt : Option String) (chips : List Chip) : String :=
  lines (heading prompt ++ chips.map fun c => sendMark ++ c.message)

/-! ## Trees -/

def countsSuffix (counts : List TreeCount) : String :=
  if counts.isEmpty then ""
  else " — " ++ " · ".intercalate (counts.map fun c => Text.trim (c.value ++ " " ++ c.label))

def indentation (depth : ℕ) : String := String.ofList (List.replicate (2 * depth) ' ')

/-- A gap with nothing inside. Such children share one line. -/
def isGapLeaf : TreeNode → Bool
  | .mk _ _ gap _ chips _ _ children => gap && children.isEmpty && chips.isEmpty

def labelOf : TreeNode → String
  | .mk label .. => label

/-- The lines of a node itself. -/
def nodeLines (depth : ℕ) (label : String) (counts : List TreeCount) (gap : Bool)
    (chips : List Chip) (action : Option Action) (caption : String) (isLeaf : Bool) :
    List String :=
  let mark := if gap then " ⚠" else ""
  let inner := indentation (depth + 1)
  let names := ", ".intercalate (chips.map Chip.label)
  let head := indentation depth ++ label ++ countsSuffix counts ++ mark
  let own :=
    if isLeaf && !chips.isEmpty then [head ++ ": " ++ names]
    else head :: if chips.isEmpty then [] else [inner ++ "· " ++ names]
  let control :=
    match action with
    | some (.openUrl url) => [inner ++ caption ++ ": " ++ url]
    | some (.sendMessage text) => [inner ++ sendMark ++ text]
    | none => []
  own ++ control

mutual

def treeNode (depth : ℕ) : TreeNode → List String
  | .mk label counts gap _ chips action actionLabel children =>
    let gaps := (children.filter isGapLeaf).map labelOf
    nodeLines depth label counts gap chips action (actionLabel.getD label) children.isEmpty ++
      treeNodes (depth + 1) children ++
      if gaps.isEmpty then [] else [indentation (depth + 1) ++ ", ".intercalate gaps ++ " ⚠"]

/-- The nodes that are no gap leaves. -/
def treeNodes (depth : ℕ) : List TreeNode → List String
  | [] => []
  | node :: rest => (if isGapLeaf node then [] else treeNode depth node) ++ treeNodes depth rest

end

def tree (title : Option String) (nodes : List TreeNode) : String :=
  lines (heading title ++ nodes.flatMap (treeNode 0))

/-! ## Notices, progress and forms -/

def notice (tone : Tone) (title : Option String) (text : String) : String :=
  let mark :=
    match tone with
    | .info => "ⓘ"
    | .warn | .attention => "⚠"
  match title.filter (!·.isEmpty) with
  | some t => mark ++ " " ++ t ++ ": " ++ text
  | none => mark ++ " " ++ text

/-- So many parts of a fraction: clamped to the unit interval, multiplied with the
rounding of doubles, and rounded to a whole number with halves away from zero. -/
def share (parts : ℕ) (bits : UInt64) : ℕ :=
  let magnitude := bits &&& 0x7FFFFFFFFFFFFFFF
  if 0x7FF0000000000000 < magnitude || magnitude = 0 || bits >>> 63 = 1 then 0
  else if 0x3FF0000000000000 ≤ bits then parts
  else
    let exponent := (bits >>> 52).toNat
    let fraction := (bits &&& 0xFFFFFFFFFFFFF).toNat
    let significand := if exponent = 0 then fraction else fraction + 0x10000000000000
    -- The product is this number times two to the power of `-scale`.
    let exact := significand * parts
    let scale := 1075 - max exponent 1
    let shift := exact.log2 - 52
    let kept := exact >>> shift
    let lost := exact % (1 <<< shift)
    let up := 0 < shift && (1 <<< shift < 2 * lost || (2 * lost = 1 <<< shift && kept % 2 = 1))
    let product := (if up then kept + 1 else kept) <<< shift
    (2 * product + (1 <<< scale)) >>> (scale + 1)

def progressBar (bits : UInt64) : String :=
  let filled := share 10 bits
  "[" ++ String.ofList (List.replicate filled '#') ++
    String.ofList (List.replicate (10 - filled) '-') ++ "] " ++ toString (share 100 bits) ++
    " %"

def progress (title : Option String) (steps : List ProgressStep) (fraction : Option UInt64) :
    String :=
  let step (s : ProgressStep) :=
    let mark :=
      match s.state with
      | .done => "✓"
      | .active => "▶"
      | .pending => "○"
    mark ++ " " ++ s.label
  lines (heading title ++ steps.map step ++ (fraction.map progressBar).toList)

def keyValue (title : Option String) (pairs : List KeyValuePair) : String :=
  lines (heading title ++ pairs.map fun p =>
    match p.before with
    | some b => p.label ++ ": " ++ b ++ " → " ++ p.value
    | none => p.label ++ ": " ++ p.value)

def header (title : String) (context stamp : Option String) : String :=
  let head :=
    match stamp.filter (!·.isEmpty) with
    | some s => title ++ " (" ++ s ++ ")"
    | none => title
  lines (head :: (context.filter (!·.isEmpty)).toList)

def preview (fields : List FormField) (template : String) : String :=
  Message.previewTemplate template fun name =>
    (fields.find? fun f => f.name == name).map FormField.label

/-- What can be chosen in each select. -/
def choiceLines (fields : List FormField) : List String :=
  fields.filterMap fun f =>
    if f.kind == .select && !f.options.isEmpty then
      some ("  " ++ f.label ++ ": " ++ " | ".intercalate (f.options.map SelectionOption.label))
    else none

def formGroup (g : FormGroup) : List String :=
  (g.label ++ ": " ++ sendMark ++ preview g.fields g.sendTemplate) :: choiceLines g.fields

def formGroups (title : Option String) (groups : List FormGroup) : String :=
  lines ((title.filter (!·.isEmpty)).toList ++ groups.flatMap formGroup)

/-- An option whose template does not fill completely is no request. -/
def selection (prompt : String) (options : List SelectionOption) (argsKey template : String) :
    String :=
  let requests := options.filterMap fun o =>
    match Message.fillTemplate template fun k => if k = argsKey then some o.value else none with
    | .ok message => some (sendMark ++ message)
    | .error _ => none
  lines ((prompt :: requests).filter fun line => !isBlank line)

def form (title : String) (fields : List FormField) (template : String) : String :=
  lines ((if title.isEmpty then [] else [title]) ++ [sendMark ++ preview fields template] ++
    choiceLines fields)

/-! ## Components -/

section Component

variable (isAllowedLink : String → Bool)

/-- The kinds that only show something, in their simplest form. -/
def prose : Component → Option String
  | .text value _ => some value
  | .narration text => some text
  | .diff diff => some (diffToText diff)
  | .dashboard title tiles =>
    some (lines (title :: tiles.map fun t => t.label ++ ": " ++ t.value))
  | .sources items =>
    some (lines (items.map fun i =>
      if isAllowedLink i.resource then i.label ++ ": " ++ i.resource else i.label))
  | _ => none

/-- The text of a component, before it is trimmed. -/
def rawText : Component → Option String
  | .list title items => some (list title items)
  | .table title columns rows => some (table title columns rows)
  | .chips prompt chips => some (chipsText prompt chips)
  | .tree title nodes _ => some (tree title nodes)
  | .notice tone title text => some (notice tone title text)
  | .progress title steps fraction => some (progress title steps fraction)
  | .keyValue title pairs => some (keyValue title pairs)
  | .header title context stamp => some (header title context stamp)
  | .formGroups title groups _ _ => some (formGroups title groups)
  | .button label _ _ (some action) _ _ => some (actionLine label action)
  | .selection prompt options _ argsKey _ (some submit) =>
    some (selection prompt options argsKey submit.template)
  | .form title fields _ _ (some template) _ => some (form title fields template)
  | .embed url title _ fallback =>
    let inside := (prose isAllowedLink fallback).or
      (((rawText fallback).map Text.trimEnd).filter (!·.isEmpty))
    let inline :=
      match inside.filter fun t => !isBlank t with
      | some t => t ++ "\n\n"
      | none => ""
    some (inline ++ title ++ ": " ++ url)
  | _ => none

/-- The text of a conversation component. -/
def degrade (c : Component) : Option String :=
  ((rawText isAllowedLink c).map Text.trimEnd).filter (!·.isEmpty)

end Component

/-- The text of a result that is no surface: a lone string, or the result as JSON. -/
def bareText (printJson : Value → String) : Value → String
  | .object [(_, .string s)] => s
  | .string s => s
  | other => printJson other

end Triton.A2ui.PlainText
