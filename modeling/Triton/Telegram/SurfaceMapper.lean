/-
# Surfaces as Telegram messages

The mapper turns a surface into one message: text with a little HTML, and an inline
keyboard whose buttons carry signed tool calls. Text over the limit is cut between
components where it can be. A dashboard is handed to the caller, which sends it as a
photo with the text as its caption.

The tokens of a keyboard are signed for one sender. Everything else about a message
is the same for every sender, since how long a token is does not depend on whom it is
signed for.
-/

import Triton.A2ui.PlainText
import Triton.Chat.Mapper

namespace Triton.Telegram

open Triton.Lib Triton.A2ui Triton.Correlation
open Triton.Chat (RasterDashboard RawKind RenderError)

def telegramTextMaxBytes : ℕ := 4096

def telegramCaptionMaxBytes : ℕ := 1024

def telegramButtonsPerRow : ℕ := 8

def truncationSentinel : String :=
  "\n\n[truncated — content exceeded Telegram's 4096-byte limit]"

/-- A message needs a text even when it is there for its buttons. -/
def buttonOnlyPlaceholder : String := "Choose an option:"

def htmlEscape (s : String) : String :=
  Text.replaceChar '>' "&gt;" (Text.replaceChar '<' "&lt;" (Text.replaceChar '&' "&amp;" s))

/-! ## Chunks of text -/

def wrap : RawKind → String → String
  | .text, escaped => escaped
  | .narration, escaped => "<i>" ++ escaped ++ "</i>"

/-- One rendered component. What can be rendered again from less text keeps its
source. -/
structure PreRender where
  chunk : String
  hasHtml : Bool
  raw : Option (RawKind × String)

namespace PreRender

def ofRaw (kind : RawKind) (raw : String) : PreRender where
  chunk := wrap kind (htmlEscape raw)
  hasHtml := kind == .narration
  raw := some (kind, raw)

def preRendered (chunk : String) (hasHtml : Bool) : PreRender := ⟨chunk, hasHtml, none⟩

end PreRender

def escapeCost (c : Char) : ℕ :=
  if c = '&' then 5 else if c = '<' ∨ c = '>' then 4 else c.utf8Size

/-- The longest front whose escaped form fits. -/
def budgetRawForHtmlEscape : ℕ → List Char → List Char
  | _, [] => []
  | budget, c :: rest =>
    if budget < escapeCost c then []
    else c :: budgetRawForHtmlEscape (budget - escapeCost c) rest

/-- The chunks that fit, with an empty line between them. -/
def accepted (budget : ℕ) (chunks : List String) : List String :=
  Text.fitting Text.len 2 budget 0 true chunks

/-- The text of the chunks under a cap, and whether something was cut. -/
def fit (cap : ℕ) (chunks : List PreRender) : String × Bool :=
  let joined := "\n\n".intercalate (chunks.map PreRender.chunk)
  if Text.len joined ≤ cap then (joined, false)
  else
    let budget := cap - Text.len truncationSentinel
    match accepted budget (chunks.map PreRender.chunk) with
    | [] =>
      match chunks.head?.bind PreRender.raw with
      | some (kind, raw) =>
        let inner := budgetRawForHtmlEscape (budget - Text.len (wrap kind "")) raw.toList
        (wrap kind (htmlEscape (String.ofList inner)) ++ truncationSentinel, true)
      | none => (Text.trimStart truncationSentinel, true)
    | kept => ("\n\n".intercalate kept ++ truncationSentinel, true)

/-! ## Rendering -/

structure RenderedMessage where
  text : String
  parseMode : Option String
  replyMarkup : Option Value
  deferredButtons : ℕ
  deferredSelections : ℕ
  deferredDashboards : ℕ
  truncated : Bool
  dashboard : Option RasterDashboard

/-- What the loop over the components has gathered. -/
structure Gathered where
  chunks : List PreRender := []
  keyboardRows : List (List Value) := []
  deferredButtons : ℕ := 0
  deferredSelections : ℕ := 0
  deferredDashboards : ℕ := 0
  firstDashboard : Option RasterDashboard := none

namespace Gathered

def push (g : Gathered) (chunk : PreRender) : Gathered := { g with chunks := g.chunks ++ [chunk] }

def addRows (g : Gathered) (rows : List (List Value)) : Gathered :=
  { g with keyboardRows := g.keyboardRows ++ rows }

def deferButton (g : Gathered) : Gathered := { g with deferredButtons := g.deferredButtons + 1 }

def deferSelection (g : Gathered) : Gathered :=
  { g with deferredSelections := g.deferredSelections + 1 }

/-- A message carries one picture. -/
def addDashboard (g : Gathered) (dashboard : RasterDashboard) : Gathered :=
  match g.firstDashboard with
  | none => { g with firstDashboard := some dashboard }
  | some _ => { g with deferredDashboards := g.deferredDashboards + 1 }

end Gathered

def inlineButton (label token : String) : Value :=
  Record.object [("text", Record.str label), ("callback_data", Record.str token)]

def inlineKeyboard (rows : List (List Value)) : Value :=
  Record.object [("inline_keyboard", some (.array (rows.map .array)))]

/-- The keyboard below a message. -/
def markupOf (rows : List (List Value)) : Option Value :=
  if rows.isEmpty then none else some (inlineKeyboard rows)

/-- The mapper takes nothing but what all of them take. -/
structure MapperEnv extends Chat.Libraries

namespace MapperEnv

variable (env : MapperEnv) (correlationKey : Bytes) (tenant sender : String)

/-- A button that calls a tool, signed for its sender. -/
def mintButton (label tool : String) (args : Value) : Option Value :=
  match encodeBound (.ofHmac env.hmac) env.bodies none tool args correlationKey
    platformMaxCallbackData ⟨"telegram", tenant, sender⟩ none with
  | .ok token => some (inlineButton label token)
  | .error _ => none

def mintOption (tool argsKey : String) (o : SelectionOption) : Option Value :=
  env.mintButton correlationKey tenant sender o.label tool
    (Record.object [(argsKey, Record.str o.value)])

/-- A selection is offered with all its options or not at all. -/
def gatherSelection (g : Gathered) (prompt : String) (options : List SelectionOption)
    (tool argsKey : String) : Gathered :=
  if options.isEmpty then g.deferSelection
  else
    match options.mapM (env.mintOption correlationKey tenant sender tool argsKey) with
    | none => g.deferSelection
    | some buttons =>
      (g.addRows (buttons.toChunks telegramButtonsPerRow)).push
        (.preRendered (htmlEscape prompt) false)

/-- The kinds that Telegram has a rule of its own for. A report is drawn elsewhere. -/
def gatherNative (g : Gathered) : Component → Gathered
  | .text value _ => g.push (.ofRaw .text value)
  | .sources items =>
    if items.isEmpty then g
    else g.push (.ofRaw .text ("Sources: " ++ " · ".intercalate (items.map SourceItem.label)))
  | .narration text => g.push (.ofRaw .narration text)
  | .diff diff =>
    g.push (.preRendered ("<pre>" ++ htmlEscape (PlainText.diffToText diff) ++ "</pre>") true)
  | .button label tool args _ _ _ =>
    match env.mintButton correlationKey tenant sender label tool args with
    | some button => g.addRows [[button]]
    | none => g.deferButton
  | .selection prompt options tool argsKey _ _ =>
    env.gatherSelection correlationKey tenant sender g prompt options tool argsKey
  | .form title fields _ _ _ _ =>
    let names := ", ".intercalate (fields.map fun f => htmlEscape f.label)
    (g.push (.preRendered ("<b>" ++ htmlEscape title ++ "</b>\n" ++ names) true)).deferButton
  | .dashboard title tiles => g.addDashboard ⟨title, tiles⟩
  | _ => g

/-- One turn of the loop. -/
def gather (g : Gathered) (c : Component) : Gathered :=
  if c.isConversation then
    match PlainText.degrade env.codec.isAllowedLink c with
    | some t => g.push (.ofRaw .text t)
    | none => g
  else env.gatherNative correlationKey tenant sender g c

def gatherAll (surface : Surface) : Gathered :=
  surface.components.foldl (env.gather correlationKey tenant sender) {}

end MapperEnv

/-- The message of what was gathered. -/
def Gathered.message (g : Gathered) : Except RenderError RenderedMessage :=
  if g.chunks.isEmpty && g.keyboardRows.isEmpty && g.firstDashboard.isNone then
    .error .emptyAfterRender
  else
    let chunks :=
      if g.chunks.isEmpty && !g.keyboardRows.isEmpty && g.firstDashboard.isNone then
        [.preRendered buttonOnlyPlaceholder false]
      else g.chunks
    let cap :=
      if g.firstDashboard.isSome then telegramCaptionMaxBytes else telegramTextMaxBytes
    .ok {
      text := (fit cap chunks).1
      parseMode := if chunks.any PreRender.hasHtml then some "HTML" else none
      replyMarkup := markupOf g.keyboardRows
      deferredButtons := g.deferredButtons
      deferredSelections := g.deferredSelections
      deferredDashboards := g.deferredDashboards
      truncated := (fit cap chunks).2
      dashboard := g.firstDashboard }

def MapperEnv.render (env : MapperEnv) (surface : Surface) (correlationKey : Bytes)
    (tenant sender : String) : Except RenderError RenderedMessage :=
  (env.gatherAll correlationKey tenant sender surface).message

/-! ## The same message for two senders -/

/-- The two differ in the tokens of their keyboards at most. -/
structure Gathered.Alike (one other : Gathered) : Prop where
  chunks : one.chunks = other.chunks
  keyboardRows : one.keyboardRows = [] ↔ other.keyboardRows = []
  deferredButtons : one.deferredButtons = other.deferredButtons
  deferredSelections : one.deferredSelections = other.deferredSelections
  deferredDashboards : one.deferredDashboards = other.deferredDashboards
  firstDashboard : one.firstDashboard = other.firstDashboard

namespace Gathered.Alike

variable {one other : Gathered}

theorem push (alike : Alike one other) (chunk : PreRender) :
    Alike (one.push chunk) (other.push chunk) :=
  { alike with chunks := congrArg (· ++ [chunk]) alike.chunks }

theorem addRows (alike : Alike one other) {rows others : List (List Value)}
    (both : rows = [] ↔ others = []) : Alike (one.addRows rows) (other.addRows others) :=
  { alike with
    keyboardRows := by
      show one.keyboardRows ++ rows = [] ↔ other.keyboardRows ++ others = []
      rw [List.append_eq_nil_iff, List.append_eq_nil_iff, alike.keyboardRows, both] }

theorem deferButton (alike : Alike one other) : Alike one.deferButton other.deferButton :=
  { alike with deferredButtons := congrArg (· + 1) alike.deferredButtons }

theorem deferSelection (alike : Alike one other) :
    Alike one.deferSelection other.deferSelection :=
  { alike with deferredSelections := congrArg (· + 1) alike.deferredSelections }

theorem addDashboard (alike : Alike one other) (dashboard : RasterDashboard) :
    Alike (one.addDashboard dashboard) (other.addDashboard dashboard) := by
  simp only [Gathered.addDashboard, alike.firstDashboard]
  split
  · exact { alike with firstDashboard := rfl }
  · exact { alike with
      deferredDashboards := congrArg (· + 1) alike.deferredDashboards
      firstDashboard := rfl }

end Gathered.Alike

theorem toChunks_go_ne_nil {α : Type} (n : ℕ) (items : List α) (chunk : Array α)
    (done : Array (List α)) : List.toChunks.go n items chunk done ≠ [] := by
  induction items generalizing chunk done with
  | nil => simp [List.toChunks.go]
  | cons item rest ih =>
    rw [List.toChunks.go]
    split <;> exact ih _ _

theorem toChunks_eq_nil_iff {α : Type} (n : ℕ) (items : List α) :
    items.toChunks n = [] ↔ items = [] := by
  cases items with
  | nil => simp [List.toChunks]
  | cons item rest =>
    cases n with
    | zero => simp [List.toChunks]
    | succ n => simpa [List.toChunks] using toChunks_go_ne_nil (n + 1) rest #[item] #[]

/-- Maps that succeed on the same items succeed on the same lists. -/
theorem length_mapM {α β : Type} {f g : α → Option β} (same : ∀ a, (f a).isSome = (g a).isSome)
    (items : List α) : (items.mapM f).map List.length = (items.mapM g).map List.length := by
  induction items with
  | nil => rfl
  | cons item rest ih =>
    have head := same item
    rw [List.mapM_cons, List.mapM_cons]
    cases here : f item <;> cases there : g item <;> simp only [here, there] at head
    · rfl
    · cases head
    · cases head
    · cases more : rest.mapM f <;> cases others : rest.mapM g <;> simp_all

namespace MapperEnv

variable (env : MapperEnv) (correlationKey : Bytes) (tenant sender other : String)

/-- Whether a button fits does not depend on whom it is signed for. -/
theorem isSome_mintButton (label tool : String) (args : Value) :
    (env.mintButton correlationKey tenant sender label tool args).isSome =
      (env.mintButton correlationKey tenant other label tool args).isSome := by
  have minted : ∀ who, (env.mintButton correlationKey tenant who label tool args).isSome =
      (encodeBound (.ofHmac env.hmac) env.bodies none tool args correlationKey
        platformMaxCallbackData ⟨"telegram", tenant, who⟩ none).isOk := by
    intro who
    rw [mintButton]
    split <;> rename_i encoded <;> rw [encoded] <;> rfl
  rw [minted, minted, encodeBound, encodeBound]
  split
  · rfl
  · simp only [finish]
    cases env.bodies.toText _ with
    | error message => rfl
    | ok text =>
      simp only [len_tokenOf, length_truncated]
      split <;> rfl

theorem gatherSelection_alike {one another : Gathered} (alike : one.Alike another)
    (prompt : String) (options : List SelectionOption) (tool argsKey : String) :
    (env.gatherSelection correlationKey tenant sender one prompt options tool argsKey).Alike
      (env.gatherSelection correlationKey tenant other another prompt options tool argsKey) := by
  have both := length_mapM
    (fun o => env.isSome_mintButton correlationKey tenant sender other o.label tool
      (Record.object [(argsKey, Record.str o.value)])) options
  change (options.mapM (env.mintOption correlationKey tenant sender tool argsKey)).map _ =
    (options.mapM (env.mintOption correlationKey tenant other tool argsKey)).map _ at both
  rw [gatherSelection, gatherSelection]
  split
  · exact alike.deferSelection
  cases mine : options.mapM (env.mintOption correlationKey tenant sender tool argsKey) <;>
    cases theirs : options.mapM (env.mintOption correlationKey tenant other tool argsKey) <;>
    rw [mine, theirs] at both
  · exact alike.deferSelection
  · cases both
  · cases both
  · have counted := Option.some.inj both
    refine (alike.addRows ?_).push _
    rw [toChunks_eq_nil_iff, toChunks_eq_nil_iff, ← List.length_eq_zero_iff, counted,
      List.length_eq_zero_iff]

theorem gather_alike {one another : Gathered} (alike : one.Alike another) (c : Component) :
    (env.gather correlationKey tenant sender one c).Alike
      (env.gather correlationKey tenant other another c) := by
  rw [gather, gather]
  split
  · split
    · exact alike.push _
    · exact alike
  cases c with
  | text value pills | narration text | diff diff => exact alike.push _
  | sources items =>
    simp only [gatherNative]
    split
    · exact alike
    · exact alike.push _
  | button label tool args action resource primary =>
    have both := env.isSome_mintButton correlationKey tenant sender other label tool args
    simp only [gatherNative]
    cases mine : env.mintButton correlationKey tenant sender label tool args with
    | none =>
      rw [mine] at both
      rw [Option.isNone_iff_eq_none.mp (Option.isSome_eq_false_iff.mp both.symm)]
      exact alike.deferButton
    | some button =>
      rw [mine] at both
      obtain ⟨theirs, minted⟩ := Option.isSome_iff_exists.mp both.symm
      rw [minted]
      exact alike.addRows (by simp)
  | selection prompt options tool argsKey style submit =>
    exact env.gatherSelection_alike correlationKey tenant sender other alike ..
  | form title fields submitLabel tool sendTemplate previewLabel =>
    exact (alike.push _).deferButton
  | dashboard title tiles => exact alike.addDashboard _
  | _ => exact alike

theorem gatherAll_alike (surface : Surface) :
    (env.gatherAll correlationKey tenant sender surface).Alike
      (env.gatherAll correlationKey tenant other surface) := by
  rw [gatherAll, gatherAll]
  exact List.foldl_rel ⟨rfl, Iff.rfl, rfl, rfl, rfl, rfl⟩ fun c _ _ _ alike =>
    env.gather_alike correlationKey tenant sender other alike c

end MapperEnv

/-- A message carries its keyboard; where there is no message there is none either. -/
theorem Gathered.message_cases (g : Gathered) :
    (g.message = .error .emptyAfterRender ∧ g.keyboardRows = []) ∨
      ∃ msg, g.message = .ok msg ∧ msg.replyMarkup = markupOf g.keyboardRows := by
  rw [Gathered.message]
  split
  · rename_i nothing
    simp only [Bool.and_eq_true, List.isEmpty_iff] at nothing
    exact .inl ⟨rfl, nothing.1.2⟩
  · exact .inr ⟨_, rfl, rfl⟩

/-- Messages of two that are alike differ in their keyboards at most. -/
theorem Gathered.Alike.message {one other : Gathered} (alike : one.Alike other) :
    one.message =
      other.message.map fun msg => { msg with replyMarkup := markupOf one.keyboardRows } := by
  have rows : one.keyboardRows.isEmpty = other.keyboardRows.isEmpty := by
    rw [Bool.eq_iff_iff, List.isEmpty_iff, List.isEmpty_iff, alike.keyboardRows]
  simp only [Gathered.message, rows, alike.chunks, alike.firstDashboard, alike.deferredButtons,
    alike.deferredSelections, alike.deferredDashboards]
  split <;> rfl

theorem inlineKeyboard_injective : Function.Injective inlineKeyboard := by
  intro rows others same
  have arrays := congrArg (·.get "inline_keyboard") same
  simp only [inlineKeyboard, Record.get_object, Record.find, if_pos, Option.or_none,
    Option.some.injEq, Value.array.injEq] at arrays
  exact List.map_injective_iff.mpr (fun _ _ => Value.array.inj) arrays

theorem markupOf_inj {rows others : List (List Value)} :
    markupOf rows = markupOf others ↔ rows = others := by
  cases rows <;> cases others <;> simp [markupOf, inlineKeyboard_injective.eq_iff]

end Triton.Telegram
