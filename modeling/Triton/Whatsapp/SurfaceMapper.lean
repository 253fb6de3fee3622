/-
# Surfaces as WhatsApp messages

The mapper turns a surface into a text, a text with reply buttons, or a text with a list.
Texts and the sources they are cut from again are kept in two lists, and a line of sources
goes into the first only. So when such a line comes first and is too long, the message is
cut from another component, or there is nothing to cut from.

What cannot be sent is counted. The text above a control is cut without being counted, and
so are the options of a list.
-/

import Triton.A2ui.PlainText
import Triton.Chat.Mapper
import Triton.Lib.Compact

namespace Triton.Whatsapp

open Triton.Lib Triton.A2ui Triton.Correlation
open Triton.Chat (Libraries RasterDashboard RawKind RenderError readingEnv)

def whatsappTextMaxBytes : ℕ := 4096

def truncationSentinel : String :=
  "\n\n[truncated — content exceeded WhatsApp's 4096-byte limit]"

def maxReplyButtons : ℕ := 3

def maxListRows : ℕ := 10

def buttonTitleMax : ℕ := 20

def listRowTitleMax : ℕ := 24

def listMenuLabelMax : ℕ := 20

def interactiveBodyMax : ℕ := 1024

def truncateChars (s : String) (max : ℕ) : String := String.ofList (s.toList.take max)

def budgetRaw (raw : String) (maxBytes : ℕ) : String :=
  String.ofList (Text.takeBytes maxBytes raw.toList)

/-! ## Controls -/

structure InteractiveChoice where
  title : String
  id : String

structure InteractiveSelection where
  prompt : String
  rows : List InteractiveChoice

/-- The object of an interactive message. -/
inductive Interactive where
  | button (body : String) (buttons : List InteractiveChoice)
  | list (body menu : String) (rows : List InteractiveChoice)

def interactiveBodyText (chunks : List String) : String :=
  let joined := "\n\n".intercalate chunks
  budgetRaw (if joined.isEmpty then "Please choose:" else joined) interactiveBodyMax

def menuLabel (prompt : String) : String :=
  if prompt.isEmpty then "Choose" else truncateChars prompt listMenuLabelMax

def buildListInteractive (bodyText : String) (sel : InteractiveSelection) : Interactive :=
  .list bodyText (menuLabel sel.prompt) (sel.rows.take maxListRows)

/-! ## Rendering -/

structure RawChunk where
  kind : RawKind
  raw : String

def wrap : RawKind → String → String
  | .text, raw => raw
  | .narration, raw => "_" ++ raw ++ "_"

/-- What the loop over the components has gathered. -/
structure Gathered where
  chunks : List String := []
  rawSources : List (Option RawChunk) := []
  deferredButtons : ℕ := 0
  deferredSelections : ℕ := 0
  deferredForms : ℕ := 0
  deferredDashboards : ℕ := 0
  buttons : List InteractiveChoice := []
  selection : Option InteractiveSelection := none
  firstDashboard : Option RasterDashboard := none

structure RenderedMessage where
  text : String
  deferredButtons : ℕ
  deferredSelections : ℕ
  deferredForms : ℕ
  deferredDashboards : ℕ
  truncated : Bool
  dashboard : Option RasterDashboard
  interactive : Option Interactive

/-- What the mapper makes of one component. -/
inductive Ask where
  | say (raw : RawChunk)
  | block (text : String)
  | sources (labels : String)
  | press (button : Option InteractiveChoice)
  | offer (prompt : String) (options : List (Option InteractiveChoice))
  | fill
  | picture (dashboard : RasterDashboard)
  | nothing

/-- The chunk, and what is pushed as its source: nothing for sources. -/
def Ask.spoken : Ask → Option (String × Option (Option RawChunk))
  | .say raw => some (wrap raw.kind raw.raw, some (some raw))
  | .block text => some ("```\n" ++ text ++ "\n```", some none)
  | .sources labels => some ("Sources: " ++ labels, none)
  | _ => none

section Ask

variable (env : Libraries) (correlationKey : Bytes) (tenant sender : String)

/-- A choice that calls a tool, signed for its sender. -/
def choice (label : String) (titleMax : ℕ) (tool : String) (args : Value) :
    Option InteractiveChoice :=
  (encodeBound (.ofHmac env.hmac) env.bodies none tool args correlationKey
    platformMaxCallbackData ⟨"whatsapp", tenant, sender⟩ none).toOption.map
      fun token => ⟨truncateChars label titleMax, token⟩

/-- The kinds that WhatsApp has a rule of its own for. A report is drawn elsewhere. -/
def askNative : Component → Ask
  | .text value _ => .say ⟨.text, value⟩
  | .sources items =>
    if items.isEmpty then .nothing
    else .sources (" · ".intercalate (items.map SourceItem.label))
  | .narration text => .say ⟨.narration, text⟩
  | .diff diff => .block (PlainText.diffToText diff)
  | .button label tool args _ _ _ =>
    .press (choice env correlationKey tenant sender label buttonTitleMax tool args)
  | .selection prompt options tool argsKey _ _ =>
    .offer prompt (options.map fun o => choice env correlationKey tenant sender o.label
      listRowTitleMax tool (Record.object [(argsKey, Record.str o.value)]))
  | .form .. => .fill
  | .dashboard title tiles => .picture ⟨title, tiles⟩
  | _ => .nothing

def ask (c : Component) : Ask :=
  if c.isConversation then
    match PlainText.degrade env.codec.isAllowedLink c with
    | some t => .say ⟨.text, t⟩
    | none => .nothing
  else askNative env correlationKey tenant sender c

def asked (surface : Surface) : List Ask :=
  surface.components.map (ask env correlationKey tenant sender)

end Ask

/-- One turn of the loop. The first selection becomes a list, with those of its options
that could be signed. -/
def Gathered.gather (g : Gathered) (ask : Ask) : Gathered :=
  match ask with
  | .say _ | .block _ | .sources _ =>
    { g with
      chunks := g.chunks ++ (ask.spoken.map Prod.fst).toList
      rawSources := g.rawSources ++ (ask.spoken.bind Prod.snd).toList }
  | .press (some button) => { g with buttons := g.buttons ++ [button] }
  | .press none => { g with deferredButtons := g.deferredButtons + 1 }
  | .offer prompt options =>
    if g.selection.isSome || options.reduceOption.isEmpty then
      { g with deferredSelections := g.deferredSelections + 1 }
    else { g with selection := some ⟨prompt, options.reduceOption⟩ }
  | .fill => { g with deferredForms := g.deferredForms + 1 }
  | .picture dashboard =>
    match g.firstDashboard with
    | none => { g with firstDashboard := some dashboard }
    | some _ => { g with deferredDashboards := g.deferredDashboards + 1 }
  | .nothing => g

def textBudget : ℕ := whatsappTextMaxBytes - Text.len truncationSentinel

/-- What is left of one source. -/
def cutSource : Option RawChunk → String
  | none => Text.trimStart truncationSentinel
  | some ⟨.text, raw⟩ => budgetRaw raw textBudget ++ truncationSentinel
  | some ⟨.narration, raw⟩ => "_" ++ budgetRaw raw (textBudget - 2) ++ "_" ++ truncationSentinel

namespace Gathered

variable (g : Gathered)

def joined : String := "\n\n".intercalate g.chunks

def interactive : Option Interactive :=
  if g.firstDashboard.isSome then none
  else
    match g.selection with
    | some sel => some (buildListInteractive (interactiveBodyText g.chunks) sel)
    | none =>
      if g.buttons.isEmpty then none
      else some (.button (interactiveBodyText g.chunks) (g.buttons.take maxReplyButtons))

/-- The text under the limit, and whether it was cut. Without a first source the code
panics. -/
def fit : Option (String × Bool) :=
  if Text.len g.joined ≤ whatsappTextMaxBytes then some (g.joined, false)
  else
    match Text.fitting Text.len 2 textBudget 0 true g.chunks with
    | [] => g.rawSources.head?.map fun source => (cutSource source, true)
    | kept => some ("\n\n".intercalate kept ++ truncationSentinel, true)

def withText (text : String) (truncated : Bool) : RenderedMessage where
  text := text
  deferredButtons := g.deferredButtons +
    if g.firstDashboard.isSome || g.selection.isSome then g.buttons.length
    else g.buttons.length - maxReplyButtons
  deferredSelections := g.deferredSelections +
    if g.firstDashboard.isSome && g.selection.isSome then 1 else 0
  deferredForms := g.deferredForms
  deferredDashboards := g.deferredDashboards
  truncated := truncated
  dashboard := g.firstDashboard
  interactive := g.interactive

/-- The message of what was gathered; `none` is a panic. -/
def message : Option (Except RenderError RenderedMessage) :=
  if g.interactive.isSome then some (.ok (g.withText (interactiveBodyText g.chunks) false))
  else if g.chunks.isEmpty && g.firstDashboard.isNone then some (.error .emptyAfterRender)
  else g.fit.map fun fitted => .ok (g.withText fitted.1 fitted.2)

end Gathered

def gatherAll (asks : List Ask) : Gathered := asks.foldl Gathered.gather {}

def render (env : Libraries) (surface : Surface) (correlationKey : Bytes)
    (tenant sender : String) : Option (Except RenderError RenderedMessage) :=
  (gatherAll (asked env correlationKey tenant sender surface)).message

/-! ## What was gathered -/

def Ask.pressed : Ask → Option (Option InteractiveChoice)
  | .press button => some button
  | _ => none

def Ask.offered : Ask → Option (String × List (Option InteractiveChoice))
  | .offer prompt options => some (prompt, options)
  | _ => none

/-- As long as nothing was deferred, the controls are those that were asked for. -/
structure Tells (g : Gathered) (asks : List Ask) : Prop where
  chunks : g.chunks = (asks.filterMap Ask.spoken).map Prod.fst
  rawSources : g.rawSources = (asks.filterMap Ask.spoken).filterMap Prod.snd
  buttons : g.deferredButtons = 0 → asks.filterMap Ask.pressed = g.buttons.map some
  selection : g.deferredSelections = 0 →
    (asks.filterMap Ask.offered).map (fun asked => ⟨asked.1, asked.2.reduceOption⟩) =
      g.selection.toList

theorem Tells.gather {g : Gathered} {asks : List Ask} (tells : Tells g asks) (ask : Ask) :
    Tells (g.gather ask) (asks ++ [ask]) := by
  obtain ⟨chunks, rawSources, buttons, selection⟩ := tells
  cases ask with
  | say raw | block text | sources labels =>
    refine ⟨?_, ?_, ?_, ?_⟩ <;> simp_all [Ask.spoken, Ask.pressed, Ask.offered, Gathered.gather]
  | press button =>
    cases button <;> refine ⟨?_, ?_, ?_, ?_⟩ <;>
      simp_all [Ask.spoken, Ask.pressed, Ask.offered, Gathered.gather]
  | offer prompt options =>
    simp only [Gathered.gather]
    split <;> refine ⟨?_, ?_, ?_, ?_⟩ <;> simp_all [Ask.spoken, Ask.pressed, Ask.offered]
  | picture dashboard =>
    simp only [Gathered.gather]
    split <;> refine ⟨?_, ?_, ?_, ?_⟩ <;> simp_all [Ask.spoken, Ask.pressed, Ask.offered]
  | fill | nothing =>
    refine ⟨?_, ?_, ?_, ?_⟩ <;> simp_all [Ask.spoken, Ask.pressed, Ask.offered, Gathered.gather]

theorem tells_gatherAll (asks : List Ask) : Tells (gatherAll asks) asks := by
  induction asks using List.reverseRecOn with
  | nil => exact ⟨rfl, rfl, fun _ => rfl, fun _ => rfl⟩
  | append_singleton asks ask ih =>
    rw [gatherAll, List.foldl_append]
    exact ih.gather ask

/-! ## Cutting the first chunk -/

/-- The text is made from the chunk: the sentinel, or a front of what the chunk wraps. -/
def Built (chunk text : String) : Prop :=
  text = Text.trimStart truncationSentinel ∨
    ∃ kind raw front, chunk = wrap kind raw ∧ front.toList <+: raw.toList ∧
      text = wrap kind front ++ truncationSentinel

/-- The message cannot keep this chunk, which comes first. -/
def Gathered.Cuts (g : Gathered) (chunk : String) : Prop :=
  g.interactive = none ∧ whatsappTextMaxBytes < Text.len g.joined ∧ textBudget < Text.len chunk

/-- Rendering does not panic and cuts the first chunk itself. -/
def Gathered.Safe (g : Gathered) : Prop :=
  ∃ outcome, g.message = some outcome ∧
    ∀ msg chunk, outcome = .ok msg → g.chunks.head? = some chunk → g.Cuts chunk →
      Built chunk msg.text

/-- Cut from the source, the text is a front of the line as well. -/
def agrees (line : String) : Option RawChunk → Bool
  | none => true
  | some ⟨.text, raw⟩ => Text.startsWith line (budgetRaw raw textBudget)
  | some ⟨.narration, _⟩ => false

theorem fitting_eq_nil_iff {chunk : String} {rest : List String} :
    Text.fitting Text.len 2 textBudget 0 true (chunk :: rest) = [] ↔
      textBudget < Text.len chunk := by
  simp [Text.fitting]

theorem message_of_cuts {g : Gathered} {chunk : String} (first : g.chunks.head? = some chunk)
    (cuts : g.Cuts chunk) :
    g.message = g.rawSources.head?.map fun source => .ok (g.withText (cutSource source) true) := by
  obtain ⟨plain, long, wide⟩ := cuts
  obtain ⟨rest, chunks⟩ := List.head?_eq_some_iff.mp first
  have fit : g.fit = g.rawSources.head?.map fun source => (cutSource source, true) := by
    rw [Gathered.fit, if_neg (Nat.not_le.mpr long), chunks, fitting_eq_nil_iff.mpr wide]
  simp [Gathered.message, plain, chunks, fit, Function.comp_def]

theorem message_of_not_cuts {g : Gathered}
    (whole : ∀ chunk, g.chunks.head? = some chunk → ¬ g.Cuts chunk) :
    ∃ outcome, g.message = some outcome := by
  rw [Gathered.message]
  split
  · exact ⟨_, rfl⟩
  rename_i plain
  split
  · exact ⟨_, rfl⟩
  have fits : ∃ fitted, g.fit = some fitted := by
    rw [Gathered.fit]
    split
    · exact ⟨_, rfl⟩
    rename_i long
    cases chunks : g.chunks with
    | nil => exact absurd (by simp [Gathered.joined, chunks, Text.len]) long
    | cons chunk rest =>
      have room : Text.fitting Text.len 2 textBudget 0 true (chunk :: rest) ≠ [] := fun none =>
        whole chunk (by simp [chunks]) ⟨by simpa using plain, Nat.not_le.mp long,
          fitting_eq_nil_iff.mp none⟩
      split
      · exact absurd ‹_› room
      · exact ⟨_, rfl⟩
  obtain ⟨fitted, fit⟩ := fits
  exact ⟨_, by rw [fit, Option.map_some]⟩

theorem safe_iff {g : Gathered} :
    g.Safe ↔ ∀ chunk, g.chunks.head? = some chunk → g.Cuts chunk →
      ∃ source, g.rawSources.head? = some source ∧ Built chunk (cutSource source) := by
  constructor
  · rintro ⟨outcome, returned, built⟩ chunk first cuts
    rw [message_of_cuts first cuts] at returned
    obtain ⟨source, there, rfl⟩ := Option.map_eq_some_iff.mp returned
    exact ⟨source, there, built _ chunk rfl first cuts⟩
  · intro safe
    by_cases cut : ∃ chunk, g.chunks.head? = some chunk ∧ g.Cuts chunk
    · obtain ⟨chunk, first, cuts⟩ := cut
      obtain ⟨source, there, built⟩ := safe chunk first cuts
      refine ⟨_, by rw [message_of_cuts first cuts, there, Option.map_some], ?_⟩
      rintro msg other rendered again _
      cases rendered
      cases first.symm.trans again
      exact built
    · have whole : ∀ chunk, g.chunks.head? = some chunk → ¬ g.Cuts chunk :=
        fun chunk first cuts => cut ⟨chunk, first, cuts⟩
      obtain ⟨outcome, returned⟩ := message_of_not_cuts whole
      exact ⟨outcome, returned, fun msg chunk _ first cuts => absurd cuts (whole chunk first)⟩

/-- A line of sources wraps nothing but itself. -/
theorem built_line_iff (labels body : String) :
    Built ("Sources: " ++ labels) (body ++ truncationSentinel) ↔
      body.toList <+: ("Sources: " ++ labels).toList := by
  constructor
  · rintro (bare | ⟨kind, raw, front, line, isFront, text⟩)
    · have longer := congrArg Text.len bare
      rw [Utf8.len_append] at longer
      have shorter : Text.len (Text.trimStart truncationSentinel) <
          Text.len truncationSentinel := by
        decide +kernel
      omega
    · cases kind with
      | text =>
        cases line
        obtain rfl : body = front := by simpa [← String.toList_inj, wrap] using text
        exact isFront
      | narration => simp [← String.toList_inj, wrap] at line
  · exact fun isFront => .inr ⟨.text, _, body, rfl, isFront, rfl⟩

theorem Ask.built_of_spoken {ask : Ask} {chunk : String} {source : Option RawChunk}
    (spoken : ask.spoken = some (chunk, some source)) : Built chunk (cutSource source) := by
  cases ask with
  | say raw =>
    cases spoken
    obtain ⟨kind, raw⟩ := raw
    refine .inr ⟨kind, raw, ?_⟩
    cases kind with
    | text => exact ⟨_, rfl, by simpa [budgetRaw] using takeBytes_isPrefix _ _, rfl⟩
    | narration => exact ⟨_, rfl, by simpa [budgetRaw] using takeBytes_isPrefix _ _, rfl⟩
  | block text =>
    cases spoken
    exact .inl rfl
  | _ => cases spoken

theorem Ask.built_iff_of_spoken {ask : Ask} {line : String}
    (spoken : ask.spoken = some (line, none))
    (source : Option RawChunk) : Built line (cutSource source) ↔ agrees line source = true := by
  cases ask with
  | sources labels =>
    cases spoken
    match source with
    | none => exact iff_of_true (.inl rfl) rfl
    | some ⟨.text, raw⟩ =>
      rw [cutSource, built_line_iff, agrees, Text.startsWith, List.isPrefixOf_iff_prefix]
    | some ⟨.narration, raw⟩ =>
      rw [cutSource, built_line_iff]
      simp [agrees]
  | _ => cases spoken

/-- Rendering does not panic and cuts the first chunk itself, exactly when a line of
sources that comes first is not cut, or when what is cut in its place agrees with it. -/
theorem whatsapp_cuts_itself_iff (env : Libraries) (surface : Surface) (correlationKey : Bytes)
    (tenant sender : String) :
    let spoken := (asked env correlationKey tenant sender surface).filterMap Ask.spoken
    let g := gatherAll (asked env correlationKey tenant sender surface)
    g.Safe ↔ ∀ line, spoken.head? = some (line, none) → g.Cuts line →
      ∃ source, (spoken.filterMap Prod.snd).head? = some source ∧ agrees line source = true := by
  intro spoken g
  have tells := tells_gatherAll (asked env correlationKey tenant sender surface)
  have origin (pair : String × Option (Option RawChunk)) (first : spoken.head? = some pair) :
      ∃ ask : Ask, ask.spoken = some pair := by
    obtain ⟨ask, _, said⟩ := List.mem_filterMap.mp (List.mem_of_head? first)
    exact ⟨ask, said⟩
  rw [safe_iff, tells.chunks, tells.rawSources, List.head?_map]
  constructor
  · intro safe line first cuts
    obtain ⟨source, there, built⟩ := safe line (by rw [first]; rfl) cuts
    obtain ⟨ask, said⟩ := origin _ first
    exact ⟨source, there, (ask.built_iff_of_spoken said source).mp built⟩
  · intro agree chunk first cuts
    obtain ⟨⟨_, pushed⟩, head, rfl⟩ := Option.map_eq_some_iff.mp first
    obtain ⟨ask, said⟩ := origin _ head
    cases pushed with
    | none =>
      obtain ⟨source, there, agreed⟩ := agree _ head cuts
      exact ⟨source, there, (ask.built_iff_of_spoken said source).mpr agreed⟩
    | some source =>
      obtain ⟨rest, cons⟩ := List.head?_eq_some_iff.mp head
      exact ⟨source, by simp [cons], ask.built_of_spoken said⟩

/-- With nothing but a long line of sources, the code panics. -/
theorem whatsapp_sources_panic :
    render readingEnv
      ⟨[.sources [⟨String.ofList (List.replicate 4096 'a'), ""⟩]]⟩ [] "acme" "42" = none := by
  have alone (label : String) (long : whatsappTextMaxBytes < Text.len ("Sources: " ++ label)) :
      render readingEnv ⟨[.sources [⟨label, ""⟩]]⟩ [] "acme" "42" = none := by
    have asks : asked readingEnv [] "acme" "42" ⟨[.sources [⟨label, ""⟩]]⟩ = [.sources label] := by
      simp [asked, ask, askNative, Component.isConversation]
    have cuts : (gatherAll [.sources label]).Cuts ("Sources: " ++ label) := by
      refine ⟨rfl, ?_, Nat.lt_of_le_of_lt (Nat.sub_le _ _) long⟩
      simpa [Gathered.joined, gatherAll, Gathered.gather, Ask.spoken] using long
    rw [render, asks]
    exact message_of_cuts rfl cuts
  apply alone
  rw [Utf8.len_append, Utf8.len_replicate (by decide)]
  decide

/-! ## Losses -/

/-- The message reports no loss. -/
def RenderedMessage.Quiet (msg : RenderedMessage) : Prop :=
  msg.truncated = false ∧ msg.deferredButtons = 0 ∧ msg.deferredSelections = 0 ∧
    msg.deferredForms = 0 ∧ msg.deferredDashboards = 0

/-- The control has all that was asked for. -/
def Shows (asks : List Ask) : Option Interactive → Prop
  | none => asks.filterMap Ask.pressed = [] ∧ asks.filterMap Ask.offered = []
  | some (.button _ buttons) =>
    asks.filterMap Ask.pressed = buttons.map some ∧ asks.filterMap Ask.offered = []
  | some (.list _ menu rows) =>
    asks.filterMap Ask.pressed = [] ∧ ∀ asked ∈ asks.filterMap Ask.offered,
      menu = menuLabel asked.1 ∧ asked.2 = rows.map some

/-- The control stays within the limits of the platform. -/
def Interactive.Fits : Interactive → Prop
  | .button _ buttons => buttons.length ≤ maxReplyButtons
  | .list _ _ rows => rows.length ≤ maxListRows

/-- Nothing that was asked for was deferred, and all the controls there are have room. -/
structure Kept (g : Gathered) (asks : List Ask) : Prop where
  pressed : asks.filterMap Ask.pressed = g.buttons.map some
  offered : (asks.filterMap Ask.offered).map (fun asked => ⟨asked.1, asked.2.reduceOption⟩) =
    g.selection.toList
  pictured : g.firstDashboard.isSome = true → g.selection = none ∧ g.buttons = []
  listed : g.selection.isSome = true → g.buttons = []
  few : g.buttons.length ≤ maxReplyButtons

theorem Tells.kept {g : Gathered} {asks : List Ask} (tells : Tells g asks) {text : String}
    {truncated : Bool} (quiet : (g.withText text truncated).Quiet) : Kept g asks := by
  obtain ⟨-, buttons, selections, -, -⟩ := quiet
  simp only [Gathered.withText, Nat.add_eq_zero_iff] at buttons selections
  refine ⟨tells.buttons buttons.1, tells.selection selections.1, fun picture => ?_,
    fun chosen => ?_, ?_⟩
  · exact ⟨by simpa [picture] using selections.2, by simpa [picture] using buttons.2⟩
  · simpa [chosen] using buttons.2
  · have left := buttons.2
    split at left <;> omega

/-- The components that ask for a control. -/
def isControl : Component → Bool
  | .button _ _ _ action _ _ => action.isNone
  | .selection _ _ _ _ _ submit => submit.isNone
  | _ => false

end Triton.Whatsapp
