/-
# Rows of Markdown tables

The card converters take the bars at the front of a row away all at once, then one bar at
its end, and split what is left. Empty cells at the front go with their bars, so the later
cells of such a row move to the left, below the headers of other columns.
-/

import Triton.Chat.TeamsReply

namespace Triton.Chat

open Triton.Lib

/-- The other adapter takes rows apart the same way. -/
def Googlechat.splitRow (line : String) : List String := Msteams.splitRow line

namespace MdCard

open Msteams

/-- The cells of one line of a table, as they stand between its bars. -/
structure Row where
  cells : List String
  nonempty : cells ≠ []
  plain : ∀ cell ∈ cells, '|' ∉ cell.toList ∧ '\n' ∉ cell.toList

namespace Row

def text (row : Row) : String := "|" ++ "|".intercalate row.cells ++ "|"

/-- The cells from the first that is not empty. -/
def kept (row : Row) : List String := row.cells.dropWhile (· == "")

/-- Joined with bars, every piece but the first stands behind one. -/
theorem intercalate_bar (first : List Char) (rest : List (List Char)) :
    ['|'].intercalate (first :: rest) = first ++ rest.flatMap ('|' :: ·) := by
  induction rest generalizing first with
  | nil => simp
  | cons second rest ih =>
    rw [List.intercalate_cons_cons, ih]
    simp

theorem toList_text (row : Row) :
    row.text.toList = row.cells.flatMap ('|' :: ·.toList) ++ ['|'] := by
  obtain ⟨cells, nonempty, plain⟩ := row
  cases cells with
  | nil => exact absurd rfl nonempty
  | cons cell rest =>
    simp [text, String.toList_intercalate, intercalate_bar, List.flatMap_map]

/-- The bars in front of a row go with the empty cells between them. -/
theorem dropWhile_bars {cells : List String} (plain : ∀ cell ∈ cells, '|' ∉ cell.toList) :
    (cells.flatMap ('|' :: ·.toList) ++ ['|']).dropWhile (· == '|') =
      match cells.dropWhile (· == "") with
      | [] => []
      | left => ['|'].intercalate (left.map String.toList) ++ ['|'] := by
  induction cells with
  | nil => rfl
  | cons cell rest ih =>
    have later := ih fun other member => plain other (List.mem_cons_of_mem _ member)
    by_cases empty : cell = ""
    · subst empty
      exact later
    · have bar := plain cell List.mem_cons_self
      have solid : (cell == "") = false := beq_false_of_ne empty
      rw [List.dropWhile_cons, solid]
      cases chars : cell.toList with
      | nil => exact absurd (String.toList_eq_nil_iff.mp chars) empty
      | cons c more =>
        have differs : (c == '|') = false := by
          rw [chars] at bar
          exact beq_false_of_ne (Ne.symm (List.ne_of_not_mem_cons bar))
        simp [intercalate_bar, chars, differs, List.flatMap_map]

theorem trim_text (row : Row) : Text.trim row.text = row.text := by
  obtain ⟨middle, shape⟩ : ∃ middle, row.text.toList = '|' :: middle ++ ['|'] :=
    ⟨("|".intercalate row.cells).toList, by simp [text]⟩
  have front : (row.text.toList).dropWhile Text.isWhitespace = row.text.toList := by
    rw [shape]
    rfl
  rw [Text.trim, front, shape, List.rdropWhile_concat_neg _ _ _ (by decide), ← shape,
    String.ofList_toList]

theorem stripTail_bar (chars : List Char) :
    Text.stripTail (String.ofList (chars ++ ['|'])) "|" = some (String.ofList chars) := by
  simp [Text.stripTail, Text.endsWith, List.isSuffixOf_iff_suffix.mpr (List.suffix_append _ _)]

/-- What is read from a row: its cells without the empty ones at its front. -/
theorem splitRow_text (row : Row) :
    splitRow row.text = if row.kept = [] then [""] else row.kept.map Text.trim := by
  have front : Text.trimStartMatches '|' (Text.trim row.text) = String.ofList
      (match row.kept with
      | [] => []
      | left => ['|'].intercalate (left.map String.toList) ++ ['|']) := by
    rw [trim_text, Text.trimStartMatches, toList_text,
      dropWhile_bars fun cell member => (row.plain cell member).1]
    rfl
  rw [splitRow]
  simp only [front]
  cases left : row.kept with
  | nil => decide
  | cons cell rest =>
    have plain : ∀ piece ∈ (cell :: rest).map String.toList, '|' ∉ piece := by
      rw [← left]
      intro piece member
      obtain ⟨other, inside, rfl⟩ := List.mem_map.mp member
      exact (row.plain other ((List.dropWhile_sublist _).mem inside)).1
    simp only [stripTail_bar, Option.getD_some, Text.split, String.toList_ofList]
    rw [List.splitOn_intercalate _ plain (by simp)]
    simp

/-- Whether the row keeps its first cell: it is not empty. -/
def isFirm (row : Row) : Bool := row.cells.head? != some ""

theorem kept_of_isFirm {row : Row} (firm : row.isFirm = true) : row.kept = row.cells := by
  obtain ⟨cells, nonempty, plain⟩ := row
  cases cells with
  | nil => exact absurd rfl nonempty
  | cons cell rest =>
    have solid : (cell == "") = false := by simpa [isFirm] using firm
    simp [kept, solid]

theorem length_kept_lt {row : Row} (loose : row.isFirm = false) :
    row.kept.length < row.cells.length := by
  obtain ⟨cells, nonempty, plain⟩ := row
  cases cells with
  | nil => exact absurd rfl nonempty
  | cons cell rest =>
    have empty : cell = "" := by simpa [isFirm] using loose
    have shorter : (rest.dropWhile (· == "")).length ≤ rest.length :=
      (List.dropWhile_sublist _).length_le
    simpa [kept, empty] using Nat.lt_succ_of_le shorter

/-- Both converters read the cells. -/
def IsRead (row : Row) : Prop :=
  splitRow row.text = row.cells.map Text.trim ∧
    Googlechat.splitRow row.text = row.cells.map Text.trim

theorem isRead_iff (row : Row) : row.IsRead ↔ row.cells.length = 1 ∨ row.isFirm = true := by
  rw [IsRead, Googlechat.splitRow, and_self, splitRow_text]
  cases firm : row.isFirm with
  | true => simp [kept_of_isFirm firm, row.nonempty]
  | false =>
    have fewer := length_kept_lt firm
    constructor
    · intro same
      have counted := congrArg List.length same
      split at counted <;> simp at counted <;> omega
    · rintro (single | firm)
      · have none : row.kept = [] := List.length_eq_zero_iff.mp (by omega)
        obtain ⟨cell, only⟩ := List.length_eq_one_iff.mp single
        have empty : cell = "" := by simpa [isFirm, only] using firm
        rw [if_pos none, only, empty]
        decide
      · cases firm

end Row

/-! ## Tables on a card -/

def cellAt (row : List String) (c : ℕ) : String := row[c]?.getD ""

def isNumericCell (cell : String) : Bool :=
  let t := Text.trim (Text.trimEndMatches '*' (Text.trimStartMatches '*' (Text.trim cell)))
  t.isEmpty || ["—", "-", "–"].contains t ||
    (t.toList.any Char.isDigit && t.toList.all fun c =>
      c.isDigit || Text.containsChar " $€£%.,+-−()/×xd" c || Text.isWhitespace c)

/-- Numbers stand on the right. The width comes from the longest cell. -/
def columnValue (header aligns : List String) (rows : List (List String)) (c : ℕ) : Value :=
  let numeric := !rows.isEmpty && rows.all fun row => isNumericCell (cellAt row c)
  let mark := cellAt aligns c
  let align :=
    if numeric then "Right"
    else if Text.startsWith mark ":" && Text.endsWith mark ":" then "Center"
    else if Text.endsWith mark ":" then "Right"
    else "Left"
  let longest := (header :: rows).foldl (fun n row => Nat.max n (cellAt row c).length) 0
  let least := if numeric then 1 else 2
  let width := if longest / 8 < least then least else if 4 < longest / 8 then 4 else longest / 8
  Record.object [("width", some (Value.ofInt width)),
    ("horizontalCellContentAlignment", Record.str align)]

def tableCell (isHeader : Bool) (text : String) : Value :=
  let block := Record.object [("type", Record.str "TextBlock"), ("text", Record.str text),
    ("wrap", some (.bool true)), ("weight", if isHeader then Record.str "Bolder" else none)]
  Record.object [("type", Record.str "TableCell"), ("items", some (.array [block]))]

def tableRow (ncols : ℕ) (isHeader : Bool) (cells : List String) : Value :=
  Record.object [("type", Record.str "TableRow"),
    ("cells", some (.array ((List.range ncols).map fun c => tableCell isHeader (cellAt cells c)))),
    ("style", if isHeader then Record.str "emphasis" else none)]

structure Builder where
  elements : List Value := []
  separatorNext : Bool := false
  hasTable : Bool := false

namespace Builder

/-- An element is set apart from the one before it. -/
def push (out : Builder) (fields : List (String × Option Value)) (spacing : String) : Builder :=
  let apart := out.separatorNext && !out.elements.isEmpty
  let space := out.elements.getLast?.map fun last =>
    if apart || (last.get "type").bind Value.asStr == some "Table" then "Medium" else spacing
  let element := Record.object (fields ++ [("spacing", space.map .string),
    ("separator", if apart then some (.bool true) else none)])
  { out with elements := out.elements ++ [element], separatorNext := false }

def ncols (header : List String) (rows : List (List String)) : ℕ :=
  rows.foldl (fun n row => Nat.max n row.length) header.length

def table (out : Builder) (header aligns : List String) (rows : List (List String)) : Builder :=
  let n := ncols header rows
  if n = 0 then out
  else
    { out with hasTable := true }.push
      [("type", Record.str "Table"),
        ("columns", some (.array ((List.range n).map (columnValue header aligns rows)))),
        ("rows", some (.array (tableRow n true header :: rows.map (tableRow n false)))),
        ("firstRowAsHeaders", some (.bool true)), ("showGridLines", some (.bool false))]
      "Medium"

/-- The turn of the loop that reads a table: a row with a separator below it, then the
rows up to the first line that is none. -/
def readTable (out : Builder) : List String → Option (Builder × List String)
  | line :: below :: rest =>
    if isTableRow line && isTableSeparator below then
      some (out.table (splitRow line) (splitRow below) ((rest.takeWhile isTableRow).map splitRow),
        rest.dropWhile isTableRow)
    else none
  | _ => none

end Builder

/-- The text in a column of a row. -/
def textAt (row : Value) (c : ℕ) : Option String := do
  let cell ← (← (← row.get "cells").asArray)[c]?
  let item ← (← (← cell.get "items").asArray)[0]?
  (← item.get "text").asStr

theorem textAt_tableRow (n : ℕ) (isHeader : Bool) (cells : List String) (c : ℕ) :
    textAt (tableRow n isHeader cells) c = if c < n then some (cellAt cells c) else none := by
  split <;> rename_i inside <;>
    simp [textAt, tableRow, tableCell, Value.asArray, Value.asStr, Record.str, inside]

def cellText (element : Value) (r c : ℕ) : Option String := do
  textAt (← (← (← element.get "rows").asArray)[r]?) c

theorem cellText_table {header : List String} {rows : List (List String)} (out : Builder)
    (aligns : List String) (wide : Builder.ncols header rows ≠ 0) :
    ∃ element, (out.table header aligns rows).elements = out.elements ++ [element] ∧
      ∀ (r c : ℕ) (row : List String), (header :: rows)[r]? = some row →
        cellText element r c =
          if c < Builder.ncols header rows then some (cellAt row c) else none := by
  rw [Builder.table]
  simp only [if_neg wide]
  refine ⟨_, rfl, fun r c row found => ?_⟩
  cases r with
  | zero =>
    cases found
    simp [cellText, Value.asArray, textAt_tableRow]
  | succ r =>
    rw [List.getElem?_cons_succ] at found
    simp [cellText, Value.asArray, textAt_tableRow, found]

theorem Row.isTableRow_text (row : Row) : isTableRow row.text = true := by
  have starts : Text.startsWith row.text "|" = true := by simp [Text.startsWith, text]
  have long : 1 < Text.len row.text := by
    simp only [Text.len, text, String.utf8ByteSize_append]
    have one : "|".utf8ByteSize = 1 := by decide
    omega
  simp [isTableRow, trim_text, starts, long]

/-- What stands below a column's header: dashes, with a colon on either side or none. -/
structure Mark where
  left : Bool
  right : Bool
  dashes : ℕ

def Mark.text (mark : Mark) : String :=
  (if mark.left then ":" else "") ++ String.ofList (List.replicate (mark.dashes + 1) '-') ++
    (if mark.right then ":" else "")

/-- A well-formed table and the lines after it. -/
structure MdTable where
  header : Row
  below : Row
  rows : List Row
  after : List String
  marked : ∀ cell ∈ below.cells, ∃ mark : Mark, Text.trim cell = mark.text
  width : ∀ row ∈ below :: rows, row.cells.length = header.cells.length
  ends : ∀ line ∈ after.head?, isTableRow line = false

namespace MdTable

variable (table : MdTable)

def shown : List Row := table.header :: table.rows

def lines : List String :=
  table.header.text :: table.below.text :: (table.rows.map Row.text ++ table.after)

/-- The table becomes one element, with every cell in its column. -/
def Lands (out : Builder) : Prop :=
  ∃ element, (out.readTable table.lines).map (fun read => (read.1.elements, read.2)) =
      some (out.elements ++ [element], table.after) ∧
    ∀ (r c : ℕ) (row : Row) (cell : String), table.shown[r]? = some row →
      row.cells[c]? = some cell → cellText element r c = some (Text.trim cell)

theorem isMark (mark : Mark) :
    Text.trimEndMatches ':' (Text.trimStartMatches ':' mark.text) =
      String.ofList (List.replicate (mark.dashes + 1) '-') := by
  obtain ⟨left, right, dashes⟩ := mark
  have absent : ':' ∉ List.replicate (dashes + 1) '-' := fun member =>
    absurd (List.eq_of_mem_replicate member) (by decide)
  have front (back : List Char) : ((if left then ":" else "").toList ++
      List.replicate (dashes + 1) '-' ++ back).dropWhile (· == ':') =
        List.replicate (dashes + 1) '-' ++ back := by
    cases left <;> rfl
  rw [Text.trimEndMatches, Text.trimStartMatches, Mark.text, String.toList_append,
    String.toList_append, String.toList_ofList, String.toList_ofList, front]
  cases right <;> simp [Text.rdropWhile_of_notMem absent]

theorem isTableSeparator_below : isTableSeparator table.below.text = true := by
  have firm : table.below.isFirm = true := by
    rw [Row.isFirm, bne_iff_ne]
    intro empty
    obtain ⟨mark, trimmed⟩ := table.marked "" (List.mem_of_head? empty)
    have dash : '-' ∈ mark.text.toList := by simp [Mark.text]
    rw [← trimmed] at dash
    exact absurd dash (by decide)
  rw [isTableSeparator, table.below.isTableRow_text, (table.below.isRead_iff.mpr (.inr firm)).1,
    Bool.true_and, List.all_map, List.all_eq_true]
  intro cell member
  obtain ⟨mark, trimmed⟩ := table.marked cell member
  simp [trimmed, isMark]

/-- Rows of one length give as many columns. -/
theorem ncols_eq {n : ℕ} {header : List String} {rows : List (List String)}
    (width : ∀ row ∈ header :: rows, row.length = n) : Builder.ncols header rows = n := by
  rw [List.forall_mem_cons] at width
  obtain ⟨same, width⟩ := width
  rw [Builder.ncols, same]
  induction rows with
  | nil => rfl
  | cons row rest ih =>
    obtain ⟨here, later⟩ := List.forall_mem_cons.mp width
    have most : Nat.max n row.length = n := here ▸ Nat.max_self _
    rw [List.foldl_cons, most, ih later]

theorem readTable_lines (out : Builder) :
    out.readTable table.lines = some (out.table (splitRow table.header.text)
      (splitRow table.below.text) (table.rows.map fun row => splitRow row.text), table.after) := by
  have rows : ∀ line ∈ table.rows.map Row.text, isTableRow line = true := by
    intro line member
    obtain ⟨row, _, rfl⟩ := List.mem_map.mp member
    exact row.isTableRow_text
  have ended : table.after.takeWhile isTableRow = [] ∧
      table.after.dropWhile isTableRow = table.after := by
    have ends := table.ends
    cases lines : table.after with
    | nil => exact ⟨rfl, rfl⟩
    | cons line rest =>
      have none := ends line (by simp [lines])
      simp [none]
  rw [lines, Builder.readTable, table.header.isTableRow_text, table.isTableSeparator_below]
  simp [List.takeWhile_append_of_pos rows, List.dropWhile_append_of_pos rows, ended,
    Function.comp_def]

theorem length_cells {row : Row} (member : row ∈ table.shown) :
    row.cells.length = table.header.cells.length := by
  rcases List.mem_cons.mp member with rfl | member
  · rfl
  · exact table.width row (List.mem_cons_of_mem _ member)

theorem lands_of_reads (out : Builder)
    (reads : ∀ row ∈ table.shown, splitRow row.text = row.cells.map Text.trim) :
    table.Lands out := by
  have width : ∀ cells ∈ table.shown.map fun row => splitRow row.text,
      cells.length = table.header.cells.length := by
    intro cells member
    obtain ⟨row, inside, rfl⟩ := List.mem_map.mp member
    rw [reads row inside, List.length_map, table.length_cells inside]
  have ncols := ncols_eq width
  have wide := mt List.length_eq_zero_iff.mp table.header.nonempty
  rw [← ncols] at wide
  obtain ⟨element, pushed, texts⟩ := cellText_table out (splitRow table.below.text) wide
  rw [Lands, readTable_lines, Option.map_some, pushed]
  refine ⟨element, rfl, fun r c row cell found there => ?_⟩
  have member := List.mem_of_getElem? found
  have within := (List.getElem?_eq_some_iff.mp there).1
  rw [table.length_cells member, ← ncols] at within
  have mapped := congrArg (Option.map fun row : Row => splitRow row.text) found
  rw [← List.getElem?_map] at mapped
  rw [texts r c (splitRow row.text) mapped, if_pos within, reads row member, cellAt,
    List.getElem?_map, there]
  rfl

end MdTable

/-- Rows are taken apart into their cells, in both converters, exactly when they have one
cell or do not begin with an empty one, and the cells of such rows stand in their columns. -/
theorem cells_keep_columns_iff (row : Row) (table : MdTable) (out : Builder) :
    (row.IsRead ↔ row.cells.length = 1 ∨ row.isFirm = true) ∧
      (((∀ row ∈ table.shown, row.IsRead) ∧ table.Lands out) ↔
        ∀ row ∈ table.shown, row.cells.length = 1 ∨ row.isFirm = true) := by
  refine ⟨row.isRead_iff, ?_⟩
  simp only [← Row.isRead_iff, and_iff_left_iff_imp]
  exact fun reads => table.lands_of_reads out fun row member => (reads row member).1

/-- The value of a row without a name stands below the header of the names. -/
theorem empty_first_cell_moves :
    splitRow "||a|" = ["a"] ∧ Googlechat.splitRow "||a|" = ["a"] ∧
      ((Builder.readTable {} ["|name|value|", "|-|-|", "||a|"]).bind fun read =>
        read.1.elements.head?.bind fun element => cellText element 1 0) = some "a" := by
  decide +kernel

end MdCard

end Triton.Chat
