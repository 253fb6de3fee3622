/-
# What the adapter says for a result

A result reaches a channel in three ways: as the answer to a command or a clicked
control, as the answer to a submitted modal, and as the reply of the gateway worker to a
typed message. The first opens a lone form as a modal, the second does not, and both
share the mapper and the fallback for results that are no surface. The gateway worker
does without the mapper: it posts the text it finds as it stands.
-/

import Triton.A2ui.Extract
import Triton.Core.Principal
import Triton.Discord.SurfaceMapper

namespace Triton.Discord

open Triton.Lib Triton.A2ui Triton.Correlation Triton.Core
open Triton.Chat (RasterDashboard)

/-! ## Modals -/

def discordModalMaxFields : ℕ := 5

def discordModalTitleMax : ℕ := 45

inductive FormModalError where
  | tooManyFields (count : ℕ)
  | noFields
  | unsupportedFieldKind (name : String)
  | emptyFieldName
  | duplicateFieldName (name : String)
  | tokenOversize

/-- The title and the labels share one limit. -/
def clampTitle (s : String) : String := String.ofList (Text.takeBytes discordModalTitleMax s.toList)

def clampLabel (s : String) : String := String.ofList (Text.takeBytes discordModalTitleMax s.toList)

/-- The first field that a modal cannot ask for. -/
def checkModalFields (seen : List String) : List FormField → Option FormModalError
  | [] => none
  | f :: rest =>
    if f.kind ≠ .string then some (.unsupportedFieldKind f.name)
    else if f.name.isEmpty then some .emptyFieldName
    else if seen.contains f.name then some (.duplicateFieldName f.name)
    else checkModalFields (f.name :: seen) rest

def textInput (f : FormField) : Value :=
  Record.object [("type", number 4), ("custom_id", Record.str f.name),
    ("label", Record.str (clampLabel f.label)), ("style", number 1),
    ("required", some (.bool f.required))]

def modalBody (customId title : String) (fields : List FormField) : Value :=
  Record.object [("type", number 9), ("data", some (Record.object [
    ("custom_id", Record.str customId), ("title", Record.str (clampTitle title)),
    ("components", some (.array (fields.map fun f => actionRow [textInput f])))]))]

/-- The adapter: what its mapper needs, its keys and the renderer of pictures. -/
structure DiscordAdapter extends MapperEnv where
  printJson : Value → String
  correlationKey : KeyRing
  rasterizer : Option (RasterDashboard → Principal → Except String Bytes)

/-- What is sent for a result. -/
inductive Response where
  | modal (body : Value)
  | message (content : Option Content) (components : Option Value)
      (picture : Option (String × Bytes)) (ephemeral : Bool)

/-- The content of the message, if it has one. -/
def Response.content : Response → Option Content
  | .modal _ => none
  | .message content _ _ _ => content

namespace DiscordAdapter

variable (adapter : DiscordAdapter)

def buildModalResponse (title : String) (fields : List FormField)
    (submitTool tenant sender : String) : Except FormModalError Value :=
  if fields.isEmpty then .error .noFields
  else if discordModalMaxFields < fields.length then .error (.tooManyFields fields.length)
  else
    match checkModalFields [] fields with
    | some e => .error e
    | none =>
      let skeleton := Record.object (fields.map fun f => (f.name, some .null))
      match adapter.customId adapter.correlationKey.signing tenant sender submitTool skeleton with
      | .ok customId => .ok (modalBody customId title fields)
      | .error _ => .error .tokenOversize

/-- A surface that is nothing but a form. -/
def tryRenderFormModal (result : Value) (tenant sender : String) :
    Option (Except FormModalError Value) :=
  match extractSurface adapter.codec result with
  | .ok ⟨[.form title fields _ tool _ _]⟩ =>
    some (adapter.buildModalResponse title fields tool tenant sender)
  | _ => none

/-! ## Messages -/

def bareText (result : Value) : String := PlainText.bareText adapter.printJson result

def withPlaceholder (content : Content) (placeholder : Framed) : Content :=
  if content.text.isEmpty then .whole [.framed placeholder] else content.add placeholder

/-- A rendered surface as a message. Without its picture, a line says what is missing. -/
def buildResponseWithRasterizer (principal : Principal) (rendered : RenderedInteraction) :
    Response :=
  match rendered.dashboard, adapter.rasterizer with
  | none, _ => .message (some rendered.content) rendered.components none false
  | some dash, none =>
    .message (some (withPlaceholder rendered.content
      ⟨"*(dashboard '", dash.title, "' deferred — rasterizer not configured)*", by decide⟩))
      rendered.components none false
  | some dash, some rasterize =>
    match rasterize dash principal with
    | .ok png =>
      .message (if rendered.content.text.isEmpty then none else some rendered.content)
        rendered.components (some (dash.title, png)) false
    | .error _ =>
      .message (some (withPlaceholder rendered.content
        ⟨"*(dashboard '", dash.title, "' unavailable — rasterizer failed)*", by decide⟩))
        rendered.components none false

def renderResult (principal : Principal) (sender : String) (result : Value) : Response :=
  match extractSurface adapter.codec result with
  | .ok surface =>
    match adapter.render surface adapter.correlationKey.signing principal.tenant sender with
    | .ok rendered => adapter.buildResponseWithRasterizer principal rendered
    | .error .emptyAfterRender =>
      .message (some (.whole [.framed (.ofOwn "(no content)" (by decide))])) none none true
  | .error _ => .message (some (clampPlainText (adapter.bareText result))) none none false

/-- The text parts of a surface, read without the rules of surfaces. -/
def textPart (c : Value) : Option String :=
  match (c.get "kind").bind Value.asStr with
  | some "text" => (c.get "value").bind Value.asStr
  | some "narration" => (c.get "text").bind Value.asStr
  | _ => none

def surfaceParts (result : Value) : List String :=
  match (result.get "surface").bind (·.get "components") with
  | some (.array components) => components.filterMap textPart
  | _ => []

/-- The reply of the gateway worker. -/
def replyText (result : Value) : String :=
  match (result.get "echo").bind Value.asStr with
  | some echo => echo
  | none =>
    let parts := surfaceParts result
    if parts.isEmpty then adapter.printJson result else "\n".intercalate parts

/-- How a result reaches its channel. -/
inductive Route where
  | interaction
  | modalSubmit
  | gateway

/-- What is sent for the result of a call. -/
def answer (principal : Principal) (sender : String) (result : Value) : Route → Response
  | .interaction =>
    match adapter.tryRenderFormModal result principal.tenant sender with
    | some (.ok modal) => .modal modal
    | _ => adapter.renderResult principal sender result
  | .modalSubmit => adapter.renderResult principal sender result
  | .gateway =>
    .message (some (.whole [.asIs (adapter.replyText result)])) none none false

end DiscordAdapter

/-! ## Inertness -/

/-- What the producer wrote does nothing where this chunk shows it. -/
def Chunk.harmless : Chunk → Bool
  | .framed piece => isCalm piece.raw
  | .form title labels => isCalm title && labels.all isCalm
  | .sources labels => labels.all isCalm && labels.all isPlain
  | .diff lines => tripleFree 0 (markedDiff lines)
  | .asIs raw => isCalm raw && isPlain raw

/-- The same for what a cut has left of a chunk. -/
def Front.harmless : Front → Bool
  | .guarded text _ => mentionFree text
  | .bare text _ => mentionFree text && metaFree text
  | .fence body _ _ => mentionFree body && metaFree body

def Content.harmless : Content → Bool
  | .whole chunks => chunks.all Chunk.harmless
  | .cut front after => front.harmless && after.all fun piece => isCalm piece.raw

theorem boundary_own {words : String} (quiet : words.toList.all isQuiet = true) :
    Boundary (Marked.own words) := by
  rw [Marked.own]
  cases chars : words.toList with
  | nil => exact .nil
  | cons c rest =>
    rw [chars, List.all_cons, Bool.and_eq_true] at quiet
    exact .own quiet.1 _

theorem mentionFree_framed (f : Framed) : mentionFree f.text = isCalm f.raw := by
  have ending := mentionFree_own_append f.after []
  rw [List.append_nil] at ending
  rw [Framed.text, mentionFree_own_append, mentionFree_append (boundary_own f.quiet.2),
    mentionFree_mdEscape, ending]
  exact Bool.and_true _

theorem mentionFree_escapedList (texts : List String) :
    mentionFree (escapedList texts) = texts.all isCalm := by
  induction texts with
  | nil => rfl
  | cons s rest ih =>
    cases rest with
    | nil => simp [escapedList, mentionFree_mdEscape]
    | cons t rest =>
      have boundary : Boundary (Marked.own ", " ++ escapedList (t :: rest)) := .own (by decide) _
      rw [escapedList, mentionFree_append boundary, mentionFree_mdEscape, mentionFree_own_append,
        ih, List.all_cons]
      simp

theorem mentionFree_sourceLabels (labels : List String) :
    mentionFree (sourceLabels labels) = labels.all isCalm := by
  induction labels with
  | nil => rfl
  | cons s rest ih =>
    cases rest with
    | nil => simp [sourceLabels, mentionFree_produced]
    | cons t rest =>
      have boundary : Boundary (Marked.own " · " ++ sourceLabels (t :: rest)) := .own (by decide) _
      rw [sourceLabels, mentionFree_append boundary, mentionFree_produced, mentionFree_own_append,
        ih, List.all_cons]
      simp

theorem metaFree_sourceLabels (labels : List String) :
    metaFree (sourceLabels labels) = labels.all isPlain := by
  induction labels with
  | nil => rfl
  | cons s rest ih =>
    cases rest with
    | nil => simp [sourceLabels, metaFree_produced]
    | cons t rest =>
      rw [sourceLabels, metaFree_append, metaFree_append, metaFree_own, metaFree_produced, ih,
        List.all_cons]
      simp

theorem inert_chunk (chunk : Chunk) {rest : Marked} (boundary : Boundary rest) :
    inert (.prose 0) (chunk.text ++ rest) = (chunk.harmless && inert (.prose 0) rest) := by
  cases chunk with
  | framed piece =>
    rw [Chunk.text, inert_guarded piece.guarded boundary, mentionFree_framed, Chunk.harmless]
  | form title labels =>
    have middle : Boundary (Marked.own "**\n" ++ escapedList labels) := .own (by decide) _
    rw [inert_guarded (guarded_form title labels) boundary, Chunk.text, mentionFree_own_append,
      mentionFree_append middle, mentionFree_mdEscape, mentionFree_own_append,
      mentionFree_escapedList, Chunk.harmless]
  | sources labels =>
    rw [inert_bare (neutral_sources labels) boundary, Chunk.text, mentionFree_own_append,
      mentionFree_sourceLabels, metaFree_append, metaFree_own, metaFree_sourceLabels,
      Chunk.harmless, Bool.true_and]
  | diff lines =>
    simp only [Chunk.text, List.append_assoc]
    exact inert_fenced (neutral_markedDiff lines)
  | asIs raw =>
    rw [Chunk.text, inert_bare (.produced raw) boundary, mentionFree_produced, metaFree_produced,
      Chunk.harmless]

theorem inert_front (front : Front) {rest : Marked} (boundary : Boundary rest)
    (unclosed : tripleFree 0 rest = true) :
    inert (.prose 0) (front.text ++ rest) = (front.harmless && inert (.prose 0) rest) := by
  cases front with
  | guarded text shape => exact inert_guarded shape boundary
  | bare text shape => exact inert_bare shape boundary
  | fence body shape kept =>
    simp only [Front.text, List.append_assoc]
    exact inert_cutFence shape kept boundary unclosed

theorem boundary_following (pieces : List Marked) : Boundary (following pieces) := by
  cases pieces with
  | nil => exact .nil
  | cons piece rest => exact .own (by decide) _

theorem inert_following (chunks : List Chunk) :
    inert (.prose 0) (following (chunks.map Chunk.text)) = chunks.all Chunk.harmless := by
  induction chunks with
  | nil => rfl
  | cons chunk rest ih =>
    have gap : inert (.prose 0) (following ((chunk :: rest).map Chunk.text)) =
        inert (.prose 0) (chunk.text ++ following (rest.map Chunk.text)) := by
      simp [following, Marked.own, inert]
    rw [gap, inert_chunk chunk (boundary_following _), ih, List.all_cons]

theorem tripleFree_following (pieces : List Framed) :
    tripleFree 0 (following (pieces.map Framed.text)) = true := by
  induction pieces with
  | nil => rfl
  | cons piece rest ih =>
    have first : tripleFree 0 (piece.text ++ following (rest.map Framed.text)) = true := by
      rw [tripleFree_append (boundary_following _),
        tripleFree_guarded piece.guarded (Nat.zero_le 1), ih, Bool.and_true]
    simpa [following, Marked.own, tripleFree] using first

/-- A message is inert exactly when each of its pieces is harmless. -/
theorem inert_text_iff (content : Content) : Inert content.text ↔ content.harmless = true := by
  rw [Inert]
  cases content with
  | whole chunks =>
    cases chunks with
    | nil => simp [Content.text, paragraphs, inert, Content.harmless]
    | cons chunk rest =>
      rw [Content.text, List.map_cons, paragraphs, inert_chunk chunk (boundary_following _),
        inert_following, Content.harmless, List.all_cons]
  | cut front after =>
    have notes := inert_following (after.map Chunk.framed)
    rw [List.map_map, List.all_map] at notes
    rw [Content.text, inert_front front (boundary_following _) (tripleFree_following after)]
    exact iff_of_eq (congrArg (· = true) (congrArg _ notes))

/-! ## What a result may say -/

namespace MapperEnv

variable (env : MapperEnv) (correlationKey : Bytes) (tenant sender : String)

/-- What the producer wrote in a component does nothing where all of it is shown. -/
def harmless (c : Component) : Bool :=
  if c.isConversation then (PlainText.degrade env.codec.isAllowedLink c).all isCalm
  else
    match c with
    | .text said _ | .narration said | .selection said _ _ _ _ _ => isCalm said
    | .form title fields _ _ _ _ => isCalm title && (fields.map FormField.label).all isCalm
    | .sources items =>
      (items.map SourceItem.label).all isCalm && (items.map SourceItem.label).all isPlain
    | .diff lines => tripleFree 0 (markedDiff lines)
    | _ => true

/-- The same for a surface. A message over the limit shows the components that fit, or
the front of the first. -/
def harmlessSurface (components : List Component) : Bool :=
  let spoken := components.filter fun c => (env.chunkOf correlationKey tenant sender c).isSome
  let chunks := components.filterMap (env.chunkOf correlationKey tenant sender)
  if (Content.whole chunks).text.len ≤ discordContentMaxBytes then spoken.all env.harmless
  else
    match accepted contentBudget chunks with
    | [] => chunks.head?.all fun first => (first.cut contentBudget).harmless
    | kept => (spoken.take kept.length).all env.harmless

theorem harmless_chunkOf {c : Component} {chunk : Chunk}
    (found : env.chunkOf correlationKey tenant sender c = some chunk) :
    chunk.harmless = env.harmless c := by
  unfold chunkOf gather at found
  unfold harmless
  split at found
  · rename_i speaks
    rw [if_pos speaks]
    cases said : PlainText.degrade env.codec.isAllowedLink c with
    | none => simp [said] at found
    | some text =>
      simp only [said, List.nil_append, List.head?_cons, Option.some_inj] at found
      subst found
      rfl
  · rename_i native
    rw [if_neg native]
    cases c with
    | text | narration | diff | form =>
      simp only [gatherNative, List.nil_append, List.head?_cons, Option.some_inj] at found
      subst found
      rfl
    | sources items =>
      simp only [gatherNative] at found
      split at found
      · cases found
      · cases found
        rfl
    | selection =>
      simp only [gatherNative, gatherSelection] at found
      repeat' split at found
      all_goals cases found
      rfl
    | button =>
      simp only [gatherNative, gatherButton] at found
      repeat' split at found
      all_goals cases found
    | _ => cases found

theorem all_take_chunks (k : ℕ) (components : List Component) :
    ((components.filterMap (env.chunkOf correlationKey tenant sender)).take k).all Chunk.harmless =
      ((components.filter fun c => (env.chunkOf correlationKey tenant sender c).isSome).take k).all
        env.harmless := by
  induction components generalizing k with
  | nil => simp
  | cons c rest ih =>
    cases said : env.chunkOf correlationKey tenant sender c with
    | none => simp [said, ih]
    | some chunk =>
      cases k with
      | zero => simp
      | succ k => simp [said, ih, env.harmless_chunkOf correlationKey tenant sender said]

theorem harmless_fit (components : List Component) :
    (fit (components.filterMap (env.chunkOf correlationKey tenant sender))).1.harmless =
      env.harmlessSurface correlationKey tenant sender components := by
  have shown (k : ℕ) := env.all_take_chunks correlationKey tenant sender k components
  have fewer := components.length_filterMap_le (env.chunkOf correlationKey tenant sender)
  simp only [fit, harmlessSurface]
  generalize components.filterMap (env.chunkOf correlationKey tenant sender) = chunks
    at shown fewer ⊢
  by_cases room : (Content.whole chunks).text.len ≤ discordContentMaxBytes
  · have all := shown components.length
    rw [List.take_of_length_le fewer, List.take_of_length_le (List.length_filter_le _ _)] at all
    rw [if_pos room, if_pos room]
    exact all
  · have noted : isCalm Framed.note.raw = true := by decide
    obtain ⟨k, front⟩ := Text.fitting_eq_take Chunk.size 2 contentBudget 0 true chunks
    have kept := List.prefix_iff_eq_take.mp (front ▸ List.take_prefix k chunks)
    rw [← accepted] at kept
    rw [if_neg room, if_neg room]
    unfold truncateChunks
    cases fits : accepted contentBudget chunks with
    | nil => cases chunks <;> simp [Content.harmless, Content.add, Chunk.harmless, noted]
    | cons chunk rest =>
      rw [fits] at kept
      have note : Chunk.harmless (.framed .note) = true := noted
      simp only [Content.add, Content.harmless, List.all_append, List.all_cons, List.all_nil, note,
        Bool.and_true]
      rw [← shown, ← kept, List.all_cons]

end MapperEnv

namespace DiscordAdapter

variable (adapter : DiscordAdapter) (principal : Principal) (sender : String) (result : Value)

/-- The dashboard whose picture the message has to do without. -/
def unpictured (components : List Component) : Option RasterDashboard :=
  (components.findSome? dashboardOf).filter fun dash =>
    adapter.rasterizer.all fun rasterize => !(rasterize dash principal).isOk

def harmlessResult : Bool :=
  match extractSurface adapter.codec result with
  | .ok ⟨components⟩ =>
    adapter.harmlessSurface adapter.correlationKey.signing principal.tenant sender components &&
      (adapter.unpictured principal components).all fun dash => isCalm dash.title
  | .error _ =>
    let raw := adapter.bareText result
    if (mdEscape raw).len ≤ discordContentMaxBytes then isCalm raw
    else mentionFree ((mdEscape raw).clip contentBudget)

/-- A modal has no content. The reply of the gateway worker is neither escaped nor cut. -/
def harmless : Route → Bool
  | .interaction =>
    (adapter.tryRenderFormModal result principal.tenant sender).any Except.isOk ||
      adapter.harmlessResult principal sender result
  | .modalSubmit => adapter.harmlessResult principal sender result
  | .gateway => isCalm (adapter.replyText result) && isPlain (adapter.replyText result)

theorem harmless_of_isEmpty {content : Content} (empty : content.text.isEmpty = true) :
    content.harmless = true := by
  rw [← inert_text_iff, List.isEmpty_iff.mp empty]
  rfl

theorem harmless_withPlaceholder (content : Content) (placeholder : Framed) :
    (withPlaceholder content placeholder).harmless =
      (content.harmless && isCalm placeholder.raw) := by
  unfold withPlaceholder
  split
  · rename_i empty
    rw [harmless_of_isEmpty empty]
    simp [Content.harmless, Chunk.harmless]
  · cases content <;> simp [Content.add, Content.harmless, Chunk.harmless, Bool.and_assoc]

theorem inert_buildResponse_iff (rendered : RenderedInteraction) :
    (∀ content ∈ (adapter.buildResponseWithRasterizer principal rendered).content,
        Inert content.text) ↔
      (rendered.content.harmless && (rendered.dashboard.filter fun dash =>
        adapter.rasterizer.all fun rasterize => !(rasterize dash principal).isOk).all
          fun dash => isCalm dash.title) = true := by
  unfold buildResponseWithRasterizer
  cases rendered.dashboard with
  | none => simp [Response.content, inert_text_iff]
  | some dash =>
    cases configured : adapter.rasterizer with
    | none => simp [Response.content, inert_text_iff, harmless_withPlaceholder]
    | some rasterize =>
      cases drawn : rasterize dash principal with
      | error e =>
        simp [drawn, Except.isOk, Except.toBool, Response.content, inert_text_iff,
          harmless_withPlaceholder]
      | ok png =>
        by_cases empty : rendered.content.text.isEmpty = true
        · simp [drawn, Except.isOk, Except.toBool, Response.content, empty,
            harmless_of_isEmpty empty]
        · simp [drawn, Except.isOk, Except.toBool, Response.content, empty, inert_text_iff]

/-- The words that stand in for chunks are the adapter's. -/
theorem harmless_interaction (g : Gathered) :
    match g.interaction with
    | .ok rendered =>
      rendered.content.harmless = (fit g.chunks).1.harmless ∧
        rendered.dashboard = g.firstDashboard
    | .error _ => g.chunks = [] ∧ g.firstDashboard = none := by
  have placeholder : (fit [.framed (.ofOwn buttonOnlyPlaceholder (by decide))]).1.harmless =
      (fit []).1.harmless := by decide
  unfold Gathered.interaction
  cases g.chunks <;> cases g.firstDashboard <;> cases g.buttons <;> cases g.selectRows <;>
    simp [placeholder]

theorem inert_renderResult_iff :
    (∀ content ∈ (adapter.renderResult principal sender result).content, Inert content.text) ↔
      adapter.harmlessResult principal sender result = true := by
  unfold renderResult harmlessResult
  cases extractSurface adapter.codec result with
  | error e =>
    have size : (Chunk.framed (.escape (adapter.bareText result))).text =
        mdEscape (adapter.bareText result) := by
      simp [Chunk.text, Framed.text, Framed.escape, Marked.own]
    simp only [clampPlainText, Chunk.size, size]
    split
    · simp [Response.content, inert_text_iff, Content.harmless, Chunk.harmless, Framed.escape]
    · have note : isCalm Framed.note.raw = true := by decide
      rw [Chunk.text] at size
      simp [Response.content, inert_text_iff, Content.harmless, Chunk.cut, Front.harmless, size,
        note]
  | ok surface =>
    obtain ⟨chunks, picture⟩ := adapter.foldl_gather adapter.correlationKey.signing principal.tenant
      sender {} surface.components
    have fits := adapter.harmless_fit adapter.correlationKey.signing principal.tenant sender
      surface.components
    simp only [List.nil_append, Option.none_or] at chunks picture
    simp only [MapperEnv.render, unpictured, ← picture, ← fits, ← chunks]
    generalize surface.components.foldl
      (adapter.gather adapter.correlationKey.signing principal.tenant sender) {} = g
    have kept := harmless_interaction g
    cases drawn : g.interaction with
    | error e =>
      rw [drawn] at kept
      have nothing : (fit []).1.harmless = true := by decide
      simp only [kept.1, kept.2, nothing, Option.filter_none, Option.all_none,
        Bool.and_true, iff_true]
      decide
    | ok rendered =>
      rw [drawn] at kept
      simp only [← kept.1, ← kept.2]
      exact adapter.inert_buildResponse_iff principal rendered

end DiscordAdapter

/-- What a message shows of a result is inert exactly when what it shows of each component
is: escaped text holds no mention, the labels of sources and the reply of the gateway
worker hold neither a mention nor a metacharacter, and a diff does not close its fence. In
a component that is cut only what stands before the cut counts, and a fence that lost its
end protects nothing. -/
theorem producer_text_inert_iff (adapter : DiscordAdapter) (principal : Principal)
    (sender : String) (result : Value) (route : DiscordAdapter.Route) :
    (∀ content ∈ (adapter.answer principal sender result route).content, Inert content.text) ↔
      adapter.harmless principal sender result route = true := by
  cases route with
  | modalSubmit => exact adapter.inert_renderResult_iff principal sender result
  | gateway =>
    have posted := inert_text_iff (.whole [.asIs (adapter.replyText result)])
    simpa [DiscordAdapter.answer, Response.content, DiscordAdapter.harmless, Content.harmless,
      Chunk.harmless] using posted
  | interaction =>
    have posted := adapter.inert_renderResult_iff principal sender result
    simp only [DiscordAdapter.answer, DiscordAdapter.harmless]
    cases adapter.tryRenderFormModal result principal.tenant sender with
    | none => simpa using posted
    | some opened =>
      cases opened with
      | error e => simpa [Except.isOk, Except.toBool] using posted
      | ok modal => simp [Except.isOk, Except.toBool, Response.content]

def announcer : DiscordAdapter where
  toMapperEnv := ⟨Chat.readingEnv, none⟩
  printJson := fun _ => ""
  correlationKey := ⟨[List.replicate 32 0], by decide, by decide⟩
  rasterizer := none

def reader : Principal where
  sub := "reader"
  scopes := []
  groups := []
  tenant := "acme"
  rawToken := ""
  traceId := ""
  senderRef := none
  conversationRef := none
  idp := none

/-- An echo, and a surface of one text that says the same. -/
def announcement : Value :=
  .object [("echo", .string "@everyone"), ("surface", .object [("components", .array
    [.object [("kind", .string "text"), ("value", .string "@everyone")]])])]

/-- A mention goes through on every route, as the text of a surface and as an echo. -/
theorem mention_goes_through :
    let said (route : DiscordAdapter.Route) :=
      (announcer.answer reader "7" announcement route).content
    (¬ ∀ content ∈ said .interaction, Inert content.text) ∧
      (¬ ∀ content ∈ said .modalSubmit, Inert content.text) ∧
      ¬ ∀ content ∈ said .gateway, Inert content.text := by
  refine ⟨fun every => ?_, fun every => ?_, fun every => ?_⟩
  · exact absurd (every _ rfl) (by decide)
  · exact absurd (every _ rfl) (by decide)
  · exact absurd (every _ rfl) (by decide)

end Triton.Discord
