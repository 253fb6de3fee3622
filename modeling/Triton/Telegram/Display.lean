/-
# What a Telegram client shows

Text is escaped chunk by chunk, and the message is sent as HTML when one of its chunks has
an element. A client reads tags and entities only then. Sent as plain text, a message shows
the entities themselves.

However a message is cut, no tag and no entity is split.
-/

import Triton.Lib.Compact
import Triton.Lib.Html
import Triton.Telegram.Buttons

namespace Triton.Telegram

open Triton.Lib Triton.A2ui
open Triton.Chat (RawKind)

/-! ## The pieces of a message -/

inductive Tag where
  | i
  | b
  | pre

def Tag.start : Tag → String
  | .i => "<i>"
  | .b => "<b>"
  | .pre => "<pre>"

def Tag.finish : Tag → String
  | .i => "</i>"
  | .b => "</b>"
  | .pre => "</pre>"

/-- Text as it was given, alone or inside an element. -/
structure Piece where
  tag : Option Tag
  raw : List Char

def Piece.html (piece : Piece) : List Char :=
  match piece.tag with
  | none => piece.raw.flatMap Html.entity
  | some tag => tag.start.toList ++ (piece.raw.flatMap Html.entity ++ tag.finish.toList)

/-- The HTML is made of entities, other characters and complete elements around such,
with elements if it is marked, for this text. -/
def Draws (html : String) (marked : Bool) (text : String) : Prop :=
  ∃ pieces : List Piece, html.toList = pieces.flatMap Piece.html ∧
    marked = pieces.any (·.tag.isSome) ∧ text.toList = pieces.flatMap Piece.raw

/-- What a client shows of HTML: the tags are gone, the entities are read. -/
def dropTags : Bool → List Char → List Char
  | _, [] => []
  | true, c :: rest => dropTags (c != '>') rest
  | false, c :: rest => if c = '<' then dropTags true rest else c :: dropTags false rest

def shownHtml (text : List Char) : List Char := Html.unescape (dropTags false text)

theorem toList_htmlEscape (s : String) : (htmlEscape s).toList = s.toList.flatMap Html.entity := by
  simp only [htmlEscape, Text.replaceChar, String.toList_ofList, List.flatMap_assoc]
  refine congrArg (List.flatMap · s.toList) (funext fun c => ?_)
  induction c using Html.entity_cases with
  | amp | lt | gt => rfl
  | plain c bare amp lt gt => simp [bare, amp, lt, gt]

theorem dropTags_append {text : List Char} (plain : '<' ∉ text) (rest : List Char) :
    dropTags false (text ++ rest) = text ++ dropTags false rest := by
  induction text with
  | nil => rfl
  | cons c text ih =>
    rw [List.mem_cons, not_or] at plain
    simp [dropTags, Ne.symm plain.1, ih plain.2]

theorem dropTags_tag (tag : Tag) (rest : List Char) :
    dropTags false (tag.start.toList ++ rest) = dropTags false rest ∧
      dropTags false (tag.finish.toList ++ rest) = dropTags false rest := by
  cases tag <;> exact ⟨rfl, rfl⟩

theorem dropTags_html (pieces : List Piece) :
    dropTags false (pieces.flatMap Piece.html) =
      (pieces.flatMap Piece.raw).flatMap Html.entity := by
  induction pieces with
  | nil => rfl
  | cons piece rest ih =>
    have plain : '<' ∉ piece.raw.flatMap Html.entity := fun member =>
      have ⟨_, _, among⟩ := List.mem_flatMap.mp member
      Html.ne_bracket_of_mem_entity among rfl
    rw [List.flatMap_cons, List.flatMap_cons, List.flatMap_append, ← ih, Piece.html]
    split
    · exact dropTags_append plain _
    · rw [List.append_assoc, List.append_assoc, (dropTags_tag _ _).1, dropTags_append plain,
        (dropTags_tag _ _).2]

/-- Each chunk is drawn for its text. -/
abbrev DrawnAll (chunks : List PreRender) (texts : List String) : Prop :=
  List.Forall₂ (fun chunk => Draws chunk.chunk chunk.hasHtml) chunks texts

namespace Draws

variable {html other text rest : String} {marked more : Bool}

/-- Shown are the characters that were given. -/
theorem shown (drawn : Draws html marked text) : shownHtml html.toList = text.toList := by
  obtain ⟨pieces, chars, _, given⟩ := drawn
  rw [chars, given, shownHtml, dropTags_html, Html.unescape_flatMap Html.unescape_entity]

/-- Without elements, the HTML is the escaped text. -/
theorem unmarked (drawn : Draws html false text) :
    html.toList = text.toList.flatMap Html.entity := by
  obtain ⟨pieces, chars, plain, given⟩ := drawn
  rw [chars, given, List.flatMap_assoc]
  refine List.flatMap_congr fun piece member => ?_
  have untagged := List.any_eq_false.mp plain.symm piece member
  rw [Bool.not_eq_true, Option.isSome_eq_false_iff, Option.isNone_iff_eq_none] at untagged
  rw [Piece.html, untagged]

theorem append (first : Draws html marked text) (second : Draws other more rest) :
    Draws (html ++ other) (marked || more) (text ++ rest) := by
  obtain ⟨pieces, chars, marks, given⟩ := first
  obtain ⟨others, chars', marks', given'⟩ := second
  exact ⟨pieces ++ others, by simp [chars, chars'], by simp [marks, marks'],
    by simp [given, given']⟩

theorem escape (s : String) : Draws (htmlEscape s) false s :=
  ⟨[⟨none, s.toList⟩], by simp [Piece.html, toList_htmlEscape], rfl, by simp⟩

theorem element (tag : Tag) (s : String) :
    Draws (tag.start ++ htmlEscape s ++ tag.finish) true s :=
  ⟨[⟨some tag, s.toList⟩], by simp [Piece.html, toList_htmlEscape], rfl, by simp⟩

/-- The adapter's own words need no entities. -/
theorem own {s : String} (plain : htmlEscape s = s) : Draws s false s := by
  have drawn := escape s
  rwa [plain] at drawn

theorem ofRaw (kind : RawKind) (s : String) :
    Draws (PreRender.ofRaw kind s).chunk (PreRender.ofRaw kind s).hasHtml s := by
  cases kind with
  | text => exact escape s
  | narration => exact element .i s

theorem join (separator : String) (plain : htmlEscape separator = separator)
    {chunks : List PreRender} {texts : List String}
    (each : DrawnAll chunks texts) :
    Draws (separator.intercalate (chunks.map PreRender.chunk)) (chunks.any PreRender.hasHtml)
      (separator.intercalate texts) := by
  induction each with
  | nil => exact ⟨[], rfl, rfl, rfl⟩
  | cons first rest ih =>
    cases rest with
    | nil => simpa using first
    | cons second rest =>
      have drawn := first.append ((own plain).append ih)
      simpa [String.intercalate_cons_cons, String.append_assoc] using drawn

theorem names (fields : List FormField) :
    Draws (", ".intercalate (fields.map fun f => htmlEscape f.label)) false
      (", ".intercalate (fields.map FormField.label)) := by
  have each : DrawnAll (fields.map fun f => .ofRaw .text f.label) (fields.map FormField.label) := by
    rw [DrawnAll, List.forall₂_map_left_iff, List.forall₂_map_right_iff, List.forall₂_same]
    exact fun f _ => ofRaw .text f.label
  have drawn := join ", " (by decide) each
  have bare : (fields.map fun f => PreRender.ofRaw .text f.label).any PreRender.hasHtml =
      false := by
    rw [List.any_map]
    exact List.any_eq_false.mpr fun _ _ => Bool.false_ne_true
  rw [bare, List.map_map] at drawn
  exact drawn

end Draws

/-! ## The cap -/

theorem utf8Len_entity (c : Char) : String.utf8Len (Html.entity c) = escapeCost c := by
  induction c using Html.entity_cases with
  | amp | lt | gt => rfl
  | plain c bare amp lt gt => simp [bare, escapeCost, amp, lt, gt]

theorem len_budgetRaw_le (budget : ℕ) (raw : List Char) :
    Text.len (htmlEscape (String.ofList (budgetRawForHtmlEscape budget raw))) ≤ budget := by
  rw [len_eq_utf8Len, toList_htmlEscape, String.toList_ofList]
  induction raw generalizing budget with
  | nil => exact Nat.zero_le _
  | cons c rest ih =>
    rw [budgetRawForHtmlEscape]
    split
    · exact Nat.zero_le _
    · rw [List.flatMap_cons, String.utf8Len_append, utf8Len_entity]
      have := ih (budget - escapeCost c)
      omega

theorem len_wrap (kind : RawKind) (s : String) :
    Text.len (wrap kind s) = Text.len (wrap kind "") + Text.len s := by
  cases kind with
  | text => simp [wrap, Text.len]
  | narration =>
    have tags : Text.len "<i></i>" = Text.len "<i>" + Text.len "</i>" := by decide
    have empty : Text.len "" = 0 := rfl
    simp only [wrap, Utf8.len_append]
    omega

theorem len_intercalate (first : String) (rest : List String) :
    Text.len ("\n\n".intercalate (first :: rest)) =
      Text.len first + Text.spread Text.len 2 rest := by
  induction rest generalizing first with
  | nil => simp [Text.spread]
  | cons second rest ih =>
    have two : Text.len "\n\n" = 2 := by decide
    rw [String.intercalate_cons_cons, Utf8.len_append, Utf8.len_append, ih, two]
    simp [Text.spread, Nat.add_assoc]

/-- A text that was cut and says so. -/
def IsCut (cap : ℕ) (text : String) : Prop :=
  Text.len text ≤ cap ∧ ∃ marked given, Draws text marked given ∧ given ≠ ""

theorem isCut_append {cap : ℕ} {body : String} {marked : Bool} {given : String}
    (room : Text.len truncationSentinel ≤ cap) (drawn : Draws body marked given)
    (fits : Text.len body ≤ cap - Text.len truncationSentinel) :
    IsCut cap (body ++ truncationSentinel) := by
  refine ⟨?_, _, _, drawn.append (.own (by decide +kernel)), ?_⟩
  · rw [Utf8.len_append]
    omega
  · simp [truncationSentinel]

/-- The text is whole and drawn for the texts that were given, or it was cut. -/
theorem fit_cases {cap : ℕ} {chunks : List PreRender} {texts : List String}
    (room : Text.len truncationSentinel + Text.len (wrap .narration "") ≤ cap)
    (each : DrawnAll chunks texts) :
    ((fit cap chunks).2 = false ∧ Text.len (fit cap chunks).1 ≤ cap ∧
        Draws (fit cap chunks).1 (chunks.any PreRender.hasHtml) ("\n\n".intercalate texts)) ∨
      ((fit cap chunks).2 = true ∧ IsCut cap (fit cap chunks).1) := by
  rw [fit]
  split
  · rename_i fits
    exact .inl ⟨rfl, fits, .join "\n\n" (by decide) each⟩
  right
  dsimp only
  cases kept : accepted (cap - Text.len truncationSentinel) (chunks.map PreRender.chunk) with
  | nil =>
    dsimp only
    split
    · rename_i kind raw _
      refine ⟨rfl, isCut_append (by omega) (.ofRaw kind _) ?_⟩
      have inner := len_budgetRaw_le
        (cap - Text.len truncationSentinel - Text.len (wrap kind "")) raw.toList
      have tags : Text.len (wrap kind "") ≤ Text.len (wrap .narration "") := by
        cases kind <;> decide
      rw [len_wrap]
      omega
    · have shorter : Text.len (Text.trimStart truncationSentinel) ≤
          Text.len truncationSentinel := by
        decide +kernel
      exact ⟨rfl, shorter.trans (by omega), _, _, .own (s := Text.trimStart truncationSentinel)
        (by decide +kernel), by decide +kernel⟩
  | cons first rest =>
    rw [accepted] at kept
    obtain ⟨k, front⟩ := Text.fitting_eq_take Text.len 2 (cap - Text.len truncationSentinel) 0
      true (chunks.map PreRender.chunk)
    have drawn := Draws.join "\n\n" (by decide) (List.forall₂_take k each)
    rw [List.map_take, ← front, kept] at drawn
    refine ⟨rfl, isCut_append (by omega) drawn ?_⟩
    rw [len_intercalate]
    exact Text.fitting_le kept

/-! ## The texts that were given -/

namespace DrawnAll

variable {g next : Gathered} {texts : List String} {html text : String} {marked : Bool}

theorem push (drawn : DrawnAll g.chunks texts) (kind : RawKind) (text : String) :
    DrawnAll (g.push (.ofRaw kind text)).chunks (texts ++ [text]) :=
  List.rel_append drawn (.cons (.ofRaw kind text) .nil)

theorem pushPre (drawn : DrawnAll g.chunks texts) (draws : Draws html marked text) :
    DrawnAll (g.push (.preRendered html marked)).chunks (texts ++ [text]) :=
  List.rel_append drawn (.cons draws .nil)

theorem same (drawn : DrawnAll g.chunks texts) (same : next.chunks = g.chunks) :
    DrawnAll next.chunks (texts ++ []) := by
  rwa [same, List.append_nil]

end DrawnAll

namespace MapperEnv

variable (env : MapperEnv) (correlationKey : Bytes) (tenant sender : String)

/-- A selection that cannot be offered is left out with its prompt. -/
def nativeText : Component → Option String
  | .text value _ => some value
  | .sources items =>
    if items.isEmpty then none
    else some ("Sources: " ++ " · ".intercalate (items.map SourceItem.label))
  | .narration text => some text
  | .diff diff => some (PlainText.diffToText diff)
  | .selection prompt options tool argsKey _ _ =>
    if options.isEmpty then none
    else (options.mapM (env.mintOption correlationKey tenant sender tool argsKey)).map
      fun _ => prompt
  | .form title fields _ _ _ _ =>
    some (title ++ "\n" ++ ", ".intercalate (fields.map FormField.label))
  | _ => none

/-- The text of a component as the producer gave it. -/
def givenText (c : Component) : Option String :=
  if c.isConversation then PlainText.degrade env.codec.isAllowedLink c
  else env.nativeText correlationKey tenant sender c

def givenTexts (surface : Surface) : List String :=
  surface.components.filterMap (env.givenText correlationKey tenant sender)

theorem gather_drawn {g : Gathered} {texts : List String} (drawn : DrawnAll g.chunks texts)
    (c : Component) :
    DrawnAll (env.gather correlationKey tenant sender g c).chunks
      (texts ++ (env.givenText correlationKey tenant sender c).toList) := by
  by_cases talks : c.isConversation = true
  · rw [gather, givenText, if_pos talks, if_pos talks]
    cases PlainText.degrade env.codec.isAllowedLink c with
    | none => exact drawn.same rfl
    | some t => exact drawn.push .text t
  rw [gather, givenText, if_neg talks, if_neg talks]
  cases c with
  | text value pills => exact drawn.push .text value
  | narration text => exact drawn.push .narration text
  | diff diff => exact drawn.pushPre (Draws.element .pre _)
  | sources items =>
    simp only [gatherNative, nativeText]
    split
    · exact drawn.same rfl
    · exact drawn.push .text _
  | button label tool args action resource primary =>
    simp only [gatherNative]
    split <;> exact drawn.same rfl
  | selection prompt options tool argsKey style submit =>
    simp only [gatherNative, gatherSelection, nativeText]
    split
    · exact drawn.same rfl
    · cases options.mapM (env.mintOption correlationKey tenant sender tool argsKey) with
      | none => exact drawn.same rfl
      | some buttons => exact drawn.pushPre (Draws.escape prompt)
  | form title fields submitLabel tool sendTemplate previewLabel =>
    have line : Draws "\n" false "\n" := .own (by decide)
    have draws := ((Draws.element .b title).append line).append (Draws.names fields)
    have close : "</b>\n" = Tag.b.finish ++ "\n" := by decide
    simp only [gatherNative, nativeText, close, ← String.append_assoc]
    exact drawn.pushPre draws
  | dashboard title tiles =>
    refine drawn.same ?_
    simp only [gatherNative, Gathered.addDashboard]
    split <;> rfl
  | _ => exact drawn.same rfl

theorem gatherAll_drawn (surface : Surface) :
    DrawnAll (env.gatherAll correlationKey tenant sender surface).chunks
      (env.givenTexts correlationKey tenant sender surface) := by
  have all (components : List Component) (g : Gathered) (texts : List String)
      (drawn : DrawnAll g.chunks texts) :
      DrawnAll (components.foldl (env.gather correlationKey tenant sender) g).chunks
        (texts ++ components.filterMap (env.givenText correlationKey tenant sender)) := by
    induction components generalizing g texts with
    | nil => simpa using drawn
    | cons c rest ih =>
      have later := ih _ _ (env.gather_drawn correlationKey tenant sender drawn c)
      rw [List.append_assoc] at later
      cases given : env.givenText correlationKey tenant sender c <;>
        simpa [given] using later
  exact all surface.components {} [] .nil

/-- The kinds that are written with tags. -/
def isMarked : Component → Bool
  | .narration _ | .diff _ => true
  | .form _ _ _ _ sendTemplate _ => sendTemplate.isNone
  | _ => false

theorem hasHtml_gather (g : Gathered) (c : Component) :
    (env.gather correlationKey tenant sender g c).chunks.any PreRender.hasHtml =
      (g.chunks.any PreRender.hasHtml || isMarked c) := by
  by_cases talks : c.isConversation = true
  · have plain : isMarked c = false := by
      cases c <;> simp_all [isMarked, Component.isConversation]
    rw [gather, if_pos talks, plain, Bool.or_false]
    split <;> simp [Gathered.push, PreRender.ofRaw]
  rw [gather, if_neg talks]
  cases c with
  | text | narration | diff => simp [gatherNative, Gathered.push, PreRender.ofRaw,
      PreRender.preRendered, isMarked]
  | sources =>
    simp only [gatherNative]
    split <;> simp [Gathered.push, PreRender.ofRaw, isMarked]
  | button =>
    simp only [gatherNative]
    split <;> simp [Gathered.addRows, Gathered.deferButton, isMarked]
  | selection =>
    simp only [gatherNative, gatherSelection]
    split
    · simp [Gathered.deferSelection, isMarked]
    · split <;> simp [Gathered.deferSelection, Gathered.addRows, Gathered.push,
        PreRender.preRendered, isMarked]
  | form title fields submitLabel tool sendTemplate previewLabel =>
    have untemplated : sendTemplate = none := by simpa [Component.isConversation] using talks
    simp [gatherNative, Gathered.push, Gathered.deferButton, PreRender.preRendered, isMarked,
      untemplated]
  | dashboard =>
    simp only [gatherNative, Gathered.addDashboard]
    split <;> simp [isMarked]
  | _ => simp [gatherNative, isMarked]

theorem hasHtml_gatherAll (surface : Surface) :
    (env.gatherAll correlationKey tenant sender surface).chunks.any PreRender.hasHtml =
      surface.components.any isMarked := by
  have all (components : List Component) (g : Gathered) :
      (components.foldl (env.gather correlationKey tenant sender) g).chunks.any PreRender.hasHtml =
        (g.chunks.any PreRender.hasHtml || components.any isMarked) := by
    induction components generalizing g with
    | nil => simp
    | cons c rest ih => rw [List.foldl_cons, ih, hasHtml_gather, List.any_cons, Bool.or_assoc]
  exact all surface.components {}

end MapperEnv

def RenderedMessage.cap (msg : RenderedMessage) : ℕ :=
  if msg.dashboard.isSome then telegramCaptionMaxBytes else telegramTextMaxBytes

/-- All that is to be shown: the texts, or the placeholder of a message that is there for
its buttons. -/
def RenderedMessage.shownTexts (msg : RenderedMessage) (texts : List String) : List String :=
  if texts.isEmpty && msg.dashboard.isNone then [buttonOnlyPlaceholder] else texts

theorem message_fits {g : Gathered} {texts : List String} {msg : RenderedMessage}
    (drawn : DrawnAll g.chunks texts) (rendered : g.message = .ok msg) :
    ∃ chunks : List PreRender,
      DrawnAll chunks (msg.shownTexts texts) ∧
      msg.text = (fit msg.cap chunks).1 ∧ msg.truncated = (fit msg.cap chunks).2 ∧
      msg.parseMode = if chunks.any PreRender.hasHtml then some "HTML" else none := by
  rw [Gathered.message] at rendered
  split at rendered
  · cases rendered
  rename_i something
  cases rendered
  refine ⟨_, ?_, rfl, rfl, rfl⟩
  cases chunks : g.chunks with
  | nil =>
    rw [chunks] at drawn
    cases drawn
    cases picture : g.firstDashboard with
    | none =>
      have rows : g.keyboardRows.isEmpty = false := by simpa [chunks, picture] using something
      simpa [RenderedMessage.shownTexts, rows, PreRender.preRendered] using
        Draws.own (s := buttonOnlyPlaceholder) (by decide)
    | some dashboard => simp [RenderedMessage.shownTexts]
  | cons chunk rest =>
    rw [chunks] at drawn
    cases drawn with
    | cons first more => simpa [RenderedMessage.shownTexts] using ⟨first, more⟩

/-- A message is whole and drawn for what was given, or it was cut. -/
theorem render_cases {env : MapperEnv} {surface : Surface} {correlationKey : Bytes}
    {tenant sender : String} {msg : RenderedMessage}
    (rendered : env.render surface correlationKey tenant sender = .ok msg) :
    (msg.truncated = false ∧ Text.len msg.text ≤ msg.cap ∧
        Draws msg.text (msg.parseMode == some "HTML") ("\n\n".intercalate
          (msg.shownTexts (env.givenTexts correlationKey tenant sender surface)))) ∨
      (msg.truncated = true ∧ IsCut msg.cap msg.text) := by
  obtain ⟨chunks, each, text, truncated, mode⟩ :=
    message_fits (env.gatherAll_drawn correlationKey tenant sender surface) rendered
  have room : Text.len truncationSentinel + Text.len (wrap .narration "") ≤ msg.cap := by
    rw [RenderedMessage.cap]
    split <;> decide +kernel
  have marks : (msg.parseMode == some "HTML") = chunks.any PreRender.hasHtml := by
    rw [mode]
    cases chunks.any PreRender.hasHtml <;> rfl
  rw [text, truncated, marks]
  exact fit_cases room each

theorem parseMode_iff {env : MapperEnv} {surface : Surface} {correlationKey : Bytes}
    {tenant sender : String} {msg : RenderedMessage}
    (rendered : env.render surface correlationKey tenant sender = .ok msg) :
    msg.parseMode = some "HTML" ↔ surface.components.any MapperEnv.isMarked = true := by
  rw [← env.hasHtml_gatherAll correlationKey tenant sender]
  rw [MapperEnv.render, Gathered.message] at rendered
  split at rendered
  · cases rendered
  cases rendered
  generalize env.gatherAll correlationKey tenant sender surface = g
  -- The placeholder has no tags.
  have same : (if (g.chunks.isEmpty && !g.keyboardRows.isEmpty && g.firstDashboard.isNone) = true
      then [.preRendered buttonOnlyPlaceholder false] else g.chunks).any PreRender.hasHtml =
        g.chunks.any PreRender.hasHtml := by
    cases g.chunks with
    | nil => split <;> rfl
    | cons chunk rest => rfl
  simp only [same, Option.ite_none_right_eq_some, and_true]

/-- What a client shows of a message. -/
def displayed (body : Value) : Option (List Char) := do
  let text ← (← body.get "text").asStr
  if (body.get "parse_mode").bind Value.asStr == some "HTML" then some (shownHtml text.toList)
  else some text.toList

theorem displayed_body (chatId : Int) (msg : RenderedMessage) :
    displayed (buildSendMessageBody chatId msg) =
      some (if msg.parseMode == some "HTML" then shownHtml msg.text.toList
        else msg.text.toList) := by
  have mode : (msg.parseMode.map Value.string).bind Value.asStr = msg.parseMode := by
    cases msg.parseMode <;> rfl
  have text : (buildSendMessageBody chatId msg).get "text" = some (.string msg.text) := by
    simp [buildSendMessageBody, Record.str]
  rw [displayed, get_parseMode, mode, text]
  cases html : msg.parseMode == some "HTML" <;> rfl

/-- Every message is valid HTML within its cap. -/
theorem telegram_text_valid (env : MapperEnv) (surface : Surface) (correlationKey : Bytes)
    (tenant sender : String) :
    match env.render surface correlationKey tenant sender with
    | .error _ => True
    | .ok msg =>
      Text.len msg.text ≤ msg.cap ∧
        ∃ pieces : List Piece, msg.text.toList = pieces.flatMap Piece.html := by
  split
  · trivial
  · rename_i msg rendered
    rcases render_cases rendered with
      ⟨_, fits, pieces, html, _⟩ | ⟨_, fits, _, _, ⟨pieces, html, _⟩, _⟩
    · exact ⟨fits, pieces, html⟩
    · exact ⟨fits, pieces, html⟩

/-- The characters that HTML gives a meaning. -/
def isSpecial (c : Char) : Bool := c = '&' || c = '<' || c = '>'

theorem length_le_entities (text : List Char) :
    text.length ≤ (text.flatMap Html.entity).length := by
  induction text with
  | nil => exact Nat.le_refl 0
  | cons c rest ih =>
    have some : 0 < (Html.entity c).length := by
      induction c using Html.entity_cases with
      | amp | lt | gt => decide
      | plain c bare _ _ _ => simp [bare]
    rw [List.flatMap_cons, List.length_append, List.length_cons]
    omega

theorem entities_eq_iff (text : List Char) :
    text.flatMap Html.entity = text ↔ ∀ c ∈ text, isSpecial c = false := by
  induction text with
  | nil => simp
  | cons c rest ih =>
    rw [List.flatMap_cons, List.forall_mem_cons, ← ih]
    induction c using Html.entity_cases with
    | plain c bare amp lt gt => simp [bare, isSpecial, amp, lt, gt]
    | amp | lt | gt =>
      refine iff_of_false (fun same => ?_) (by simp [isSpecial])
      have longer := length_le_entities rest
      generalize rest.flatMap Html.entity = written at same longer
      have counted := congrArg List.length same
      simp [Html.entity] at counted
      omega

/-- A message shows what was given. -/
def RenderedMessage.Shows (msg : RenderedMessage) (chatId : Int) (texts : List String) : Prop :=
  (msg.truncated = false → displayed (buildSendMessageBody chatId msg) =
      some ("\n\n".intercalate (msg.shownTexts texts)).toList) ∧
    (msg.dashboard = none → displayed (buildSendMessageBody chatId msg) ≠ some [])

/-- A message shows the texts that were given, and is not empty, exactly when it was cut,
or when one of its components is written with tags or none has a character to escape, and
its texts are not empty. -/
theorem telegram_shows_given_iff (env : MapperEnv) (surface : Surface) (correlationKey : Bytes)
    (tenant sender : String) (chatId : Int) :
    match env.render surface correlationKey tenant sender with
    | .error _ => True
    | .ok msg =>
      let texts := env.givenTexts correlationKey tenant sender surface
      let given := ("\n\n".intercalate (msg.shownTexts texts)).toList
      msg.Shows chatId texts ↔
        msg.truncated = true ∨
          (surface.components.any MapperEnv.isMarked = true ∨ ∀ c ∈ given, isSpecial c = false) ∧
            (msg.dashboard = none → given ≠ []) := by
  split
  · trivial
  rename_i msg rendered
  intro texts given
  rw [RenderedMessage.Shows, displayed_body, ← parseMode_iff rendered]
  rcases render_cases rendered with ⟨whole, _, drawn⟩ | ⟨cut, _, marked, kept, drawn, filled⟩
  · have shows : (if msg.parseMode == some "HTML" then shownHtml msg.text.toList
        else msg.text.toList) = given ↔
          msg.parseMode = some "HTML" ∨ ∀ c ∈ given, isSpecial c = false := by
      split
      · rename_i html
        exact iff_of_true drawn.shown (.inl (beq_iff_eq.mp html))
      · rename_i html
        rw [Bool.not_eq_true] at html
        rw [html] at drawn
        rw [drawn.unmarked, entities_eq_iff, or_iff_right]
        exact beq_eq_false_iff_ne.mp html
    simp only [whole, true_implies, Option.some.injEq, ne_eq, Bool.false_eq_true, false_or,
      ← shows]
    refine and_congr_right fun same => ?_
    rw [same]
  · refine iff_of_true ⟨by simp [cut], fun _ empty => ?_⟩ (.inl cut)
    have shown : shownHtml msg.text.toList = [] := by
      have empty := Option.some.inj empty
      split at empty
      · exact empty
      · rw [empty]
        rfl
    rw [drawn.shown] at shown
    exact filled (String.toList_eq_nil_iff.mp shown)

/-- An ampersand is shown as an entity, and an empty text is sent as it is. -/
theorem telegram_shows_entity :
    let shown (text : String) := ((deployment .null).toMapperEnv.render ⟨[.text text []]⟩ [] "acme"
      "42").toOption.bind fun msg => displayed (buildSendMessageBody 7 msg)
    shown "R&D" = some "R&amp;D".toList ∧ shown "" = some [] := by
  decide +kernel

end Triton.Telegram
