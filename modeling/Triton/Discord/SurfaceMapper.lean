/-
# Surfaces as Discord messages

The mapper turns a surface into the content of one message and rows of controls. Most
text is escaped. The labels of sources are put down as they came, and a diff stands in
a fence, where a backslash would show. Content over the limit is cut between components
where it can be, else inside the first one.
-/

import Triton.A2ui.PlainText
import Triton.Chat.Mapper
import Triton.Discord.Markdown

namespace Triton.Discord

open Triton.Lib Triton.A2ui Triton.Correlation
open Triton.Chat (RasterDashboard RenderError)

def discordContentMaxBytes : ℕ := 2000

def truncationNote : String := "*(truncated — exceeded Discord's 2000-byte content cap)*"

def truncationSentinel : String := "\n\n" ++ truncationNote

def buttonOnlyPlaceholder : String := "Choose an option:"

def discordButtonsPerRow : ℕ := 5

def discordMaxRows : ℕ := 5

def discordMaxButtons : ℕ := discordButtonsPerRow * discordMaxRows

def discordSelectMaxOptions : ℕ := 25

def discordMaxCustomId : ℕ := 100

def cardTokenTtlSecs : UInt64 := 7 * 24 * 3600

/-! ## Pieces of a message -/

/-- Escaped text between the adapter's own words. -/
structure Framed where
  before : String
  raw : String
  after : String
  quiet : before.toList.all isQuiet = true ∧ after.toList.all isQuiet = true

namespace Framed

def escape (raw : String) : Framed := ⟨"", raw, "", by decide⟩

def narration (raw : String) : Framed := ⟨"*", raw, "*", by decide⟩

def ofOwn (words : String) (quiet : words.toList.all isQuiet = true) : Framed :=
  ⟨words, "", "", quiet, by decide⟩

def note : Framed := .ofOwn truncationNote (by decide)

def text (f : Framed) : Marked := Marked.own f.before ++ (mdEscape f.raw ++ Marked.own f.after)

theorem guarded (f : Framed) : Guarded f.text := by
  have ending := Guarded.nil.own_append f.quiet.2
  rw [List.append_nil] at ending
  exact (ending.mdEscape_append f.raw).own_append f.quiet.1

end Framed

/-- Escaped texts with commas between them. -/
def escapedList : List String → Marked
  | [] => []
  | [s] => mdEscape s
  | s :: t :: rest => mdEscape s ++ (Marked.own ", " ++ escapedList (t :: rest))

/-- Texts as they came, with dots between them. -/
def sourceLabels : List String → Marked
  | [] => []
  | [s] => Marked.produced s
  | s :: t :: rest => Marked.produced s ++ (Marked.own " · " ++ sourceLabels (t :: rest))

def markedDiffLine : DiffLine → Marked
  | .add text => Marked.own "+ " ++ Marked.produced text ++ Marked.own "\n"
  | .del text => Marked.own "- " ++ Marked.produced text ++ Marked.own "\n"
  | .ctx text => Marked.own "  " ++ Marked.produced text ++ Marked.own "\n"
  | .fold count _ => Marked.own ("@@ " ++ toString count ++ " unchanged lines @@\n")

def markedDiff (diff : List DiffLine) : Marked :=
  (diff.flatMap markedDiffLine).rdropWhile fun x => Text.isWhitespace x.1

/-- What is pushed for one component, and what the gateway worker posts. -/
inductive Chunk where
  | framed (piece : Framed)
  | form (title : String) (labels : List String)
  | sources (labels : List String)
  | diff (lines : List DiffLine)
  | asIs (raw : String)

def Chunk.text : Chunk → Marked
  | .framed piece => piece.text
  | .form title labels =>
    Marked.own "**" ++ (mdEscape title ++ (Marked.own "**\n" ++ escapedList labels))
  | .sources labels => Marked.own "Sources: " ++ sourceLabels labels
  | .diff lines => fenceStart ++ (markedDiff lines ++ fenceEnd)
  | .asIs raw => Marked.produced raw

def Chunk.size (chunk : Chunk) : ℕ := chunk.text.len

/-- The front of a chunk that was cut: escaped text, text as it came, or a fence that
lost its end. -/
inductive Front where
  | guarded (text : Marked) (shape : Guarded text)
  | bare (text : Marked) (shape : Neutral text)
  | fence (body : Marked) (shape : Neutral body) (kept : Fin 4)

def Front.text : Front → Marked
  | .guarded text _ => text
  | .bare text _ => text
  | .fence body _ kept => fenceStart ++ (body ++ fenceEnd.take kept)

/-- The content of a message. After a front come the adapter's notes. -/
inductive Content where
  | whole (chunks : List Chunk)
  | cut (front : Front) (after : List Framed)

/-- What follows the first piece. -/
def following (pieces : List Marked) : Marked := pieces.flatMap (Marked.own "\n\n" ++ ·)

/-- Pieces with an empty line between them. -/
def paragraphs : List Marked → Marked
  | [] => []
  | piece :: rest => piece ++ following rest

def Content.text : Content → Marked
  | .whole chunks => paragraphs (chunks.map Chunk.text)
  | .cut front after => front.text ++ following (after.map Framed.text)

/-- One more piece. -/
def Content.add (piece : Framed) : Content → Content
  | .whole chunks => .whole (chunks ++ [.framed piece])
  | .cut front after => .cut front (after ++ [piece])

/-! ## The shapes of the pieces -/

theorem guarded_escapedList (texts : List String) : Guarded (escapedList texts) := by
  induction texts with
  | nil => exact .nil
  | cons s rest ih =>
    cases rest with
    | nil =>
      have alone := Guarded.nil.mdEscape_append s
      rwa [List.append_nil] at alone
    | cons t rest => exact (ih.own_append (by decide)).mdEscape_append s

theorem guarded_form (title : String) (labels : List String) :
    Guarded (Chunk.form title labels).text :=
  (((guarded_escapedList labels).own_append (by decide)).mdEscape_append title).own_append
    (by decide)

theorem neutral_sourceLabels (labels : List String) : Neutral (sourceLabels labels) := by
  induction labels with
  | nil => exact fun _ member => absurd member List.not_mem_nil
  | cons s rest ih =>
    cases rest with
    | nil => exact .produced s
    | cons t rest => exact (Neutral.produced s).append ((Neutral.own (by decide)).append ih)

theorem neutral_sources (labels : List String) : Neutral (Chunk.sources labels).text :=
  (Neutral.own (by decide)).append (neutral_sourceLabels labels)

theorem isQuiet_of_isDigit {c : Char} (digit : c.isDigit = true) : isQuiet c = true := by
  have tick : c ≠ '`' := by rintro rfl; exact absurd digit (by decide)
  have backslash : c ≠ '\\' := by rintro rfl; exact absurd digit (by decide)
  simp [isQuiet, tick, backslash]

theorem neutral_markedDiffLine (line : DiffLine) : Neutral (markedDiffLine line) := by
  have between (mark : String) (quiet : mark.toList.all isQuiet = true) (text : String) :
      Neutral (Marked.own mark ++ Marked.produced text ++ Marked.own "\n") :=
    ((Neutral.own quiet).append (.produced text)).append (.own (by decide))
  cases line with
  | add text | del text | ctx text => exact between _ (by decide) text
  | fold count hidden =>
    rw [markedDiffLine, Marked.own_append, Marked.own_append]
    have digits : (toString count).toList.all isQuiet = true :=
      List.all_eq_true.mpr fun c member => isQuiet_of_isDigit (Text.isDigit_of_mem_toString member)
    exact ((Neutral.own (by decide)).append (.own digits)).append (.own (by decide))

theorem neutral_markedDiff (diff : List DiffLine) : Neutral (markedDiff diff) :=
  (Neutral.flatMap neutral_markedDiffLine).of_subset (List.rdropWhile_prefix _ _).subset

theorem plain_markedDiffLine (line : DiffLine) :
    (markedDiffLine line).plain = PlainText.diffLine line := by
  cases line <;>
    simp [markedDiffLine, PlainText.diffLine, Marked.plain_append, Marked.plain_own,
      Marked.plain_produced, String.append_assoc, -Marked.own_append]

/-- Without its marks, the body of the fence is the diff as plain text. -/
theorem plain_markedDiff (diff : List DiffLine) :
    (markedDiff diff).plain = PlainText.diffToText diff := by
  have joined (texts : List (List Char)) : List.intercalate [] texts = texts.flatten := by
    induction texts with
    | nil => rfl
    | cons text rest ih =>
      cases rest with
      | nil => simp
      | cons other rest => rw [List.intercalate_cons_cons, ih]; simp
  have lines : ("".intercalate (diff.map PlainText.diffLine)).toList =
      (diff.flatMap markedDiffLine).map Prod.fst := by
    rw [String.toList_intercalate, String.toList_empty, joined, List.map_map, List.map_flatMap,
      List.flatMap_def]
    refine congrArg List.flatten (List.map_congr_left fun line _ => ?_)
    simp [← plain_markedDiffLine, Marked.plain]
  rw [PlainText.diffToText, Text.trimEnd, lines, markedDiff, Marked.plain]
  simp only [List.rdropWhile, ← List.map_reverse, List.dropWhile_map, Function.comp_def]

/-! ## The limit -/

/-- The front of a chunk that fits. A fence is cut in its body or in its end. -/
def Chunk.cut (budget : ℕ) (chunk : Chunk) : Front :=
  match chunk with
  | .framed piece =>
    .guarded (piece.text.clip budget) (piece.guarded.of_isPrefix (Marked.clip_isPrefix _ _))
  | .form title labels =>
    .guarded ((Chunk.form title labels).text.clip budget)
      ((guarded_form title labels).of_isPrefix (Marked.clip_isPrefix _ _))
  | .sources labels =>
    .bare ((Chunk.sources labels).text.clip budget)
      ((neutral_sources labels).of_subset (Marked.clip_isPrefix _ _).subset)
  | .diff lines =>
    let room := budget - fenceStart.len
    .fence ((markedDiff lines).clip room)
      ((neutral_markedDiff lines).of_subset (Marked.clip_isPrefix _ _).subset)
      (if left : room - (markedDiff lines).len < 4 then ⟨_, left⟩ else 3)
  | .asIs raw =>
    .bare ((Marked.produced raw).clip budget)
      ((Neutral.produced raw).of_subset (Marked.clip_isPrefix _ _).subset)

theorem clip_fenceEnd {room : ℕ} (short : room < 4) :
    Marked.clip room fenceEnd = fenceEnd.take room := by
  match room, short with
  | 0, _ | 1, _ | 2, _ | 3, _ => rfl

/-- What is cut is the text of the chunk, at the last boundary of a character that the
limit allows. -/
theorem Chunk.text_cut {budget : ℕ} (chunk : Chunk) (room : fenceStart.len ≤ budget)
    (exceeds : budget < chunk.size) : (chunk.cut budget).text = chunk.text.clip budget := by
  cases chunk with
  | framed piece | form title labels | sources labels | asIs raw => rfl
  | diff lines =>
    rw [Chunk.size, Chunk.text, Marked.len_append, Marked.len_append] at exceeds
    have ends : fenceEnd.len = 4 := by decide
    have short : budget - fenceStart.len - (markedDiff lines).len < 4 := by omega
    rw [Chunk.text, Marked.clip_append, if_pos room, Marked.clip_append]
    simp only [Chunk.cut, Front.text, dif_pos short]
    by_cases fits : (markedDiff lines).len ≤ budget - fenceStart.len
    · rw [if_pos fits, Marked.clip_of_len_le fits, clip_fenceEnd short]
    · have full : budget - fenceStart.len - (markedDiff lines).len = 0 := by omega
      simp [fits, full]

/-- The chunks that fit, with an empty line between them. -/
def accepted (budget : ℕ) (chunks : List Chunk) : List Chunk :=
  Text.fitting Chunk.size 2 budget 0 true chunks

def contentBudget : ℕ := discordContentMaxBytes - Text.len truncationSentinel

def truncateChunks (chunks : List Chunk) : Content :=
  match accepted contentBudget chunks, chunks with
  | [], first :: _ => .cut (first.cut contentBudget) [.note]
  | kept, _ => (Content.whole kept).add .note

/-- The content of the chunks, and whether something was cut. -/
def fit (chunks : List Chunk) : Content × Bool :=
  if (Content.whole chunks).text.len ≤ discordContentMaxBytes then (.whole chunks, false)
  else (truncateChunks chunks, true)

/-- The reply to a result that is no surface. -/
def clampPlainText (raw : String) : Content :=
  let escaped : Chunk := .framed (.escape raw)
  if escaped.size ≤ discordContentMaxBytes then .whole [escaped]
  else .cut (escaped.cut contentBudget) [.note]

/-! ## Rendering -/

structure RenderedInteraction where
  content : Content
  components : Option Value
  deferredButtons : ℕ
  deferredSelections : ℕ
  deferredForms : ℕ
  deferredDashboards : ℕ
  truncated : Bool
  dashboard : Option RasterDashboard

/-- What the loop over the components has gathered. -/
structure Gathered where
  chunks : List Chunk := []
  deferredButtons : ℕ := 0
  deferredSelections : ℕ := 0
  deferredForms : ℕ := 0
  deferredDashboards : ℕ := 0
  buttons : List Value := []
  selectRows : List Value := []
  firstDashboard : Option RasterDashboard := none

def number (n : ℕ) : Option Value := some (Value.ofInt n)

def actionRow (components : List Value) : Value :=
  Record.object [("type", number 1), ("components", some (.array components))]

def buttonValue (label token : String) : Value :=
  Record.object [("type", number 2), ("style", number 1), ("label", Record.str label),
    ("custom_id", Record.str token)]

def selectMenu (prompt token : String) (options : List SelectionOption) : Value :=
  Record.object [("type", number 3), ("custom_id", Record.str token),
    ("placeholder", Record.str prompt),
    ("options", some (.array (options.map fun o =>
      Record.object [("label", Record.str o.label), ("value", Record.str o.value)]))),
    ("min_values", number 1), ("max_values", number 1)]

/-- The mapper also takes the clock. -/
structure MapperEnv extends Chat.Libraries where
  now : Option UInt64

namespace MapperEnv

variable (env : MapperEnv) (correlationKey : Bytes) (tenant sender : String)

/-- The identity of a control, signed for its sender. -/
def customId (tool : String) (args : Value) : Except EncodeError String :=
  encodeBound (.ofHmac env.hmac) env.bodies env.now tool args correlationKey discordMaxCustomId
    ⟨"discord", tenant, sender⟩ (some cardTokenTtlSecs)

def gatherButton (g : Gathered) (label tool : String) (args : Value) : Gathered :=
  if discordMaxButtons ≤ g.buttons.length then { g with deferredButtons := g.deferredButtons + 1 }
  else
    match env.customId correlationKey tenant sender tool args with
    | .ok token => { g with buttons := g.buttons ++ [buttonValue label token] }
    | .error _ => { g with deferredButtons := g.deferredButtons + 1 }

/-- A prompt is shown only together with its menu. -/
def gatherSelection (g : Gathered) (prompt : String) (options : List SelectionOption)
    (tool argsKey : String) : Gathered :=
  if options.isEmpty || discordSelectMaxOptions < options.length then
    { g with deferredSelections := g.deferredSelections + 1 }
  else
    match env.customId correlationKey tenant sender tool
      (Record.object [(argsKey, some .null)]) with
    | .ok token =>
      { g with
        selectRows := g.selectRows ++ [actionRow [selectMenu prompt token options]]
        chunks := g.chunks ++ [.framed (.escape prompt)] }
    | .error _ => { g with deferredSelections := g.deferredSelections + 1 }

/-- The kinds that Discord has a rule of its own for. A report is drawn elsewhere. -/
def gatherNative (g : Gathered) : Component → Gathered
  | .text value _ => { g with chunks := g.chunks ++ [.framed (.escape value)] }
  | .sources items =>
    if items.isEmpty then g
    else { g with chunks := g.chunks ++ [.sources (items.map SourceItem.label)] }
  | .narration text => { g with chunks := g.chunks ++ [.framed (.narration text)] }
  | .diff diff => { g with chunks := g.chunks ++ [.diff diff] }
  | .button label tool args _ _ _ =>
    env.gatherButton correlationKey tenant sender g label tool args
  | .selection prompt options tool argsKey _ _ =>
    env.gatherSelection correlationKey tenant sender g prompt options tool argsKey
  | .form title fields _ _ _ _ =>
    { g with
      chunks := g.chunks ++ [.form title (fields.map FormField.label)]
      deferredForms := g.deferredForms + 1 }
  | .dashboard title tiles =>
    match g.firstDashboard with
    | none => { g with firstDashboard := some ⟨title, tiles⟩ }
    | some _ => { g with deferredDashboards := g.deferredDashboards + 1 }
  | _ => g

/-- One turn of the loop. -/
def gather (g : Gathered) (c : Component) : Gathered :=
  if c.isConversation then
    match PlainText.degrade env.codec.isAllowedLink c with
    | some t => { g with chunks := g.chunks ++ [.framed (.escape t)] }
    | none => g
  else env.gatherNative correlationKey tenant sender g c

end MapperEnv

/-- The rows of controls: menus first, one to a row, then buttons in what is left. -/
def Gathered.buttonRows (g : Gathered) : List (List Value) :=
  g.buttons.toChunks discordButtonsPerRow

def Gathered.rowsLeft (g : Gathered) : ℕ := discordMaxRows - g.selectRows.length

def Gathered.allRows (g : Gathered) : List Value :=
  g.selectRows.take discordMaxRows ++ (g.buttonRows.take g.rowsLeft).map actionRow

/-- The message of what was gathered. -/
def Gathered.interaction (g : Gathered) : Except RenderError RenderedInteraction :=
  if g.chunks.isEmpty && g.buttons.isEmpty && g.selectRows.isEmpty && g.firstDashboard.isNone then
    .error .emptyAfterRender
  else
    let chunks :=
      if g.chunks.isEmpty && !g.buttons.isEmpty && g.firstDashboard.isNone then
        [.framed (.ofOwn buttonOnlyPlaceholder (by decide))]
      else g.chunks
    .ok {
      content := (fit chunks).1
      components := if g.allRows.isEmpty then none else some (.array g.allRows)
      deferredButtons := g.deferredButtons + (g.buttonRows.drop g.rowsLeft).flatten.length
      deferredSelections := g.deferredSelections + (g.selectRows.length - discordMaxRows)
      deferredForms := g.deferredForms
      deferredDashboards := g.deferredDashboards
      truncated := (fit chunks).2
      dashboard := g.firstDashboard }

def MapperEnv.render (env : MapperEnv) (surface : Surface) (correlationKey : Bytes)
    (tenant sender : String) : Except RenderError RenderedInteraction :=
  (surface.components.foldl (env.gather correlationKey tenant sender) {}).interaction

/-! ## What one component adds -/

def dashboardOf : Component → Option RasterDashboard
  | .dashboard title tiles => some ⟨title, tiles⟩
  | _ => none

namespace MapperEnv

variable (env : MapperEnv) (correlationKey : Bytes) (tenant sender : String)

/-- The chunk of a component. -/
def chunkOf (c : Component) : Option Chunk :=
  (env.gather correlationKey tenant sender {} c).chunks.head?

/-- What a component adds does not depend on what came before it. -/
theorem gather_adds (g : Gathered) (c : Component) :
    (env.gather correlationKey tenant sender g c).chunks =
        g.chunks ++ (env.chunkOf correlationKey tenant sender c).toList ∧
      (env.gather correlationKey tenant sender g c).firstDashboard =
        g.firstDashboard.or (dashboardOf c) := by
  unfold chunkOf gather
  split
  · rename_i speaks
    have picture : dashboardOf c = none := by cases c <;> first | rfl | cases speaks
    cases PlainText.degrade env.codec.isAllowedLink c <;> simp [picture]
  · cases c with
    | button | selection =>
      simp only [gatherNative, gatherButton, gatherSelection, dashboardOf, Option.or_none]
      repeat' split
      all_goals simp_all
    | sources items =>
      simp only [gatherNative, dashboardOf, Option.or_none]
      split <;> simp
    | dashboard title tiles =>
      cases first : g.firstDashboard <;> simp [gatherNative, dashboardOf, first]
    | _ => simp [gatherNative, dashboardOf]

theorem foldl_gather (g : Gathered) (components : List Component) :
    (components.foldl (env.gather correlationKey tenant sender) g).chunks =
        g.chunks ++ components.filterMap (env.chunkOf correlationKey tenant sender) ∧
      (components.foldl (env.gather correlationKey tenant sender) g).firstDashboard =
        g.firstDashboard.or (components.findSome? dashboardOf) := by
  induction components generalizing g with
  | nil => simp
  | cons c rest ih =>
    obtain ⟨chunks, picture⟩ := env.gather_adds correlationKey tenant sender g c
    rw [List.foldl_cons, (ih _).1, (ih _).2, chunks, picture, List.filterMap_cons,
      List.findSome?_cons]
    cases env.chunkOf correlationKey tenant sender c <;> cases dashboardOf c <;> simp

end MapperEnv

end Triton.Discord
