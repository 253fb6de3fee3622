/-
# Typed commands and buttons

A tool call reaches the dispatcher from a typed message or from a button. Both paths
render the result and post it to the chat. The typed one looks first whether the
result is nothing but a form: such a form is not posted but asked field by field. The
path of a button has no such look.
-/

import Mathlib.Algebra.Group.Nat.Defs
import Triton.Core.Principal
import Triton.Telegram.FormState
import Triton.Telegram.SurfaceMapper

namespace Triton.Telegram

open Triton.Lib Triton.A2ui Triton.Correlation Triton.Core
open Triton.Chat (RasterDashboard RenderError)

/-- What a message to the chat is made of. A photo sends its keyboard as JSON text;
here it is the value. -/
inductive Post where
  | message (body : Value)
  | photo (chatId : Int) (caption parseMode : Option String) (replyMarkup : Option Value)
      (png : Bytes)

def buildSendMessageBody (chatId : Int) (msg : RenderedMessage) : Value :=
  Record.object [("chat_id", some (Value.ofInt chatId)), ("text", Record.str msg.text),
    ("parse_mode", msg.parseMode.map .string), ("reply_markup", msg.replyMarkup)]

def buildSendPhoto (chatId : Int) (msg : RenderedMessage) (png : Bytes) : Post :=
  .photo chatId (if msg.text.isEmpty then none else some msg.text) msg.parseMode msg.replyMarkup
    png

/-- A message in the adapter's own words. -/
def courierReply (text : String) : RenderedMessage where
  text := text
  parseMode := none
  replyMarkup := none
  deferredButtons := 0
  deferredSelections := 0
  deferredDashboards := 0
  truncated := false
  dashboard := none

/-- The only component of a surface, when it is a form to be asked field by field. -/
structure FormOnly where
  title : String
  submitTool : String
  fields : List FormField

/-- The adapter: what its mapper needs, the dispatcher, the renderer of pictures and its
keys. -/
structure TelegramAdapter extends MapperEnv where
  printJson : Value → String
  invoke : String → Value → Principal → Except TritonError Value
  rasterizer : Option (RasterDashboard → Principal → Except String Bytes)
  correlationKey : KeyRing

/-- What a request leaves behind and answers. -/
structure Handled where
  forms : FormStateStore
  posts : List Post
  status : ℕ

namespace TelegramAdapter

variable (adapter : TelegramAdapter)

def tryExtractFormOnly (result : Value) : Option FormOnly :=
  match extractSurface adapter.codec result with
  | .ok ⟨[.form title fields _ tool none _]⟩ => some ⟨title, tool, fields⟩
  | _ => none

def bareText (result : Value) : String := PlainText.bareText adapter.printJson result

def renderDispatchResult (result : Value) (tenant sender : String) :
    Except RenderError RenderedMessage :=
  match extractSurface adapter.codec result with
  | .ok surface =>
    adapter.toMapperEnv.render surface adapter.correlationKey.signing tenant sender
  | .error _ =>
    let text := adapter.bareText result
    if text.isEmpty then .error .emptyAfterRender else .ok (courierReply text)

/-- A line in place of a picture. -/
def appendPlaceholder (msg : RenderedMessage) (placeholder : String) : RenderedMessage :=
  { msg with
    text := if msg.text.isEmpty then placeholder else msg.text ++ "\n\n" ++ placeholder
    parseMode := msg.parseMode.or (some "HTML")
    dashboard := none }

def postBack (principal : Principal) (chatId : Int) (msg : RenderedMessage) : Post :=
  match msg.dashboard, adapter.rasterizer with
  | none, _ => .message (buildSendMessageBody chatId msg)
  | some dash, none =>
    .message (buildSendMessageBody chatId (appendPlaceholder msg
      ("<i>dashboard '" ++ htmlEscape dash.title ++
        "' deferred — rasterizer not configured</i>")))
  | some dash, some rasterize =>
    match rasterize dash principal with
    | .ok png => buildSendPhoto chatId { msg with dashboard := none } png
    | .error _ =>
      .message (buildSendMessageBody chatId (appendPlaceholder msg
        ("<i>dashboard '" ++ htmlEscape dash.title ++ "' unavailable (rasterizer failed)</i>")))

def telegramStatusFor (e : TritonError) : ℕ :=
  if e.isCircuitOpen then 503
  else if e.isToolTimeout then 504
  else
    match e with
    | .provider _ => 502
    | .rateLimited _ => 429
    | .validation _ | .auth _ | .forbidden _ | .tool _ => 200

/-- Start a form and ask its first field, or refuse it. -/
def installFormAndPrompt (forms : FormStateStore) (principal : Principal) (tool : String)
    (chatId telegramUserId : Int) (form : FormOnly) : Handled :=
  let key : FormKey := ⟨chatId, telegramUserId⟩
  let (forms, outcome) :=
    forms.install key form.submitTool form.fields principal.sub principal.tenant
  let reply :=
    match outcome with
    | .error _ =>
      "Sorry — the form returned by `" ++ tool ++ "` is malformed and can't be rendered."
    | .ok _ => form.title ++ "\n\n" ++ (forms.peekPrompt key).getD "(form ready)"
  ⟨forms, [adapter.postBack principal chatId (courierReply reply)], 200⟩

/-- Post a rendered result; one that renders to nothing is dropped. -/
def postRendered (forms : FormStateStore) (principal : Principal) (chatId : Int) :
    Except RenderError RenderedMessage → Handled
  | .ok msg => ⟨forms, [adapter.postBack principal chatId msg], 200⟩
  | .error .emptyAfterRender => ⟨forms, [], 200⟩

/-- The path of a typed command. -/
def dispatchAndRender (forms : FormStateStore) (principal : Principal) (tool : String)
    (args : Value) (chatId telegramUserId : Int) : Handled :=
  match adapter.invoke tool args principal with
  | .error e => ⟨forms, [], telegramStatusFor e⟩
  | .ok result =>
    match adapter.tryExtractFormOnly result with
    | some form => adapter.installFormAndPrompt forms principal tool chatId telegramUserId form
    | none =>
      adapter.postRendered forms principal chatId
        (adapter.renderDispatchResult result principal.tenant (toString telegramUserId))

/-- The path of a button, once its token has been verified. -/
def dispatchCallback (forms : FormStateStore) (principal : Principal) (tool : String)
    (args : Value) (chatId : Int) (fromId : UInt64) : Handled :=
  match adapter.invoke tool args principal with
  | .error e => ⟨forms, [], telegramStatusFor e⟩
  | .ok result =>
    adapter.postRendered forms principal chatId
      (adapter.renderDispatchResult result principal.tenant (toString fromId))

end TelegramAdapter

/-- The user of a typed message: the platform's number read as a signed one. -/
def asI64 (id : UInt64) : Int := id.toInt64.toInt

/-- Two requests with the same effect: on the forms under way and on the chat. -/
def Handled.SameEffect (one other : Handled) : Prop :=
  one.forms = other.forms ∧ one.posts = other.posts

/-- What a post shows below its text. -/
def Post.markup : Post → Option Value
  | .message body => body.get "reply_markup"
  | .photo _ _ _ replyMarkup _ => replyMarkup

theorem get_replyMarkup (chatId : Int) (msg : RenderedMessage) :
    (buildSendMessageBody chatId msg).get "reply_markup" = msg.replyMarkup := by
  simp [buildSendMessageBody, Record.get_object, Record.find]

theorem get_parseMode (chatId : Int) (msg : RenderedMessage) :
    (buildSendMessageBody chatId msg).get "parse_mode" = msg.parseMode.map .string := by
  simp [buildSendMessageBody, Record.get_object, Record.find]

namespace TelegramAdapter

variable (adapter : TelegramAdapter)

/-- The keyboard of a result, signed for a sender. -/
def keyboardFor (result : Value) (tenant sender : String) : List (List Value) :=
  match extractSurface adapter.codec result with
  | .ok surface =>
    (adapter.toMapperEnv.gatherAll adapter.correlationKey.signing tenant sender
      surface).keyboardRows
  | .error _ => []

theorem markup_postBack (principal : Principal) (chatId : Int) (msg : RenderedMessage) :
    (adapter.postBack principal chatId msg).markup = msg.replyMarkup := by
  rw [postBack]
  split
  · exact get_replyMarkup ..
  · exact get_replyMarkup ..
  · split
    · rfl
    · exact get_replyMarkup ..

theorem forms_postRendered (forms : FormStateStore) (principal : Principal) (chatId : Int)
    (rendered : Except RenderError RenderedMessage) :
    (adapter.postRendered forms principal chatId rendered).forms = forms := by
  cases rendered <;> rfl

/-- Two senders get the same post exactly when their keyboards are the same. -/
theorem posts_render_eq_iff (forms : FormStateStore) (principal : Principal) (chatId : Int)
    (result : Value) (tenant one other : String) :
    (adapter.postRendered forms principal chatId
        (adapter.renderDispatchResult result tenant one)).posts =
      (adapter.postRendered forms principal chatId
        (adapter.renderDispatchResult result tenant other)).posts ↔
    adapter.keyboardFor result tenant one = adapter.keyboardFor result tenant other := by
  rw [renderDispatchResult, renderDispatchResult, keyboardFor, keyboardFor]
  cases extractSurface adapter.codec result with
  | error _ => simp
  | ok surface =>
    have alike := adapter.toMapperEnv.gatherAll_alike adapter.correlationKey.signing tenant one
      other surface
    simp only [MapperEnv.render, alike.message]
    obtain ⟨nothing, noRows⟩ | ⟨msg, rendered, markup⟩ := (adapter.toMapperEnv.gatherAll
      adapter.correlationKey.signing tenant other surface).message_cases
    · rw [nothing, noRows, alike.keyboardRows.mpr noRows]
      simp [Except.map]
    · rw [rendered, ← markupOf_inj, ← markup]
      simp only [Except.map, postRendered, List.cons.injEq, and_true]
      constructor
      · intro same
        have shown := congrArg Post.markup same
        rwa [markup_postBack, markup_postBack] at shown
      · intro same
        rw [same]

end TelegramAdapter

/-- A number below half the range reads the same with and without a sign. -/
theorem toString_asI64 {id : UInt64} (small : id.toNat < 2 ^ 63) :
    toString (asI64 id) = toString id := by
  have signed : asI64 id = (id.toNat : Int) := by
    exact BitVec.toInt_eq_toNat_of_lt (Nat.mul_lt_mul_of_pos_left small Nat.two_pos)
  rw [signed]
  rfl

theorem sameEffect_iff (adapter : TelegramAdapter) (forms : FormStateStore)
    (principal : Principal) (tool : String) (args : Value) (chatId : Int) (fromId : UInt64) :
    (adapter.dispatchCallback forms principal tool args chatId fromId).SameEffect
        (adapter.dispatchAndRender forms principal tool args chatId (asI64 fromId)) ↔
      ∀ result, adapter.invoke tool args principal = .ok result →
        adapter.tryExtractFormOnly result = none ∧
          adapter.keyboardFor result principal.tenant (toString fromId) =
            adapter.keyboardFor result principal.tenant (toString (asI64 fromId)) := by
  rw [TelegramAdapter.dispatchCallback, TelegramAdapter.dispatchAndRender]
  cases adapter.invoke tool args principal with
  | error e => simp [Handled.SameEffect]
  | ok result =>
    simp only [Except.ok.injEq, forall_eq']
    cases formOnly : adapter.tryExtractFormOnly result with
    | some form =>
      -- The prompt for the first field is plain text, the rendered form is not.
      obtain ⟨msg, rendered, html, noPicture⟩ : ∃ msg,
          adapter.renderDispatchResult result principal.tenant (toString fromId) = .ok msg ∧
            msg.parseMode = some "HTML" ∧ msg.dashboard = none := by
        rw [TelegramAdapter.tryExtractFormOnly] at formOnly
        split at formOnly
        · rename_i surface extracted
          rw [TelegramAdapter.renderDispatchResult, extracted]
          exact ⟨_, rfl, rfl, rfl⟩
        · cases formOnly
      have posted : ¬ (adapter.postRendered forms principal chatId (.ok msg)).SameEffect
          (adapter.installFormAndPrompt forms principal tool chatId (asI64 fromId) form) := by
        rintro ⟨_, posts⟩
        simp only [TelegramAdapter.postRendered, TelegramAdapter.installFormAndPrompt,
          TelegramAdapter.postBack, noPicture, courierReply, List.cons.injEq, Post.message.injEq,
          and_true] at posts
        have modes := congrArg (·.get "parse_mode") posts
        simp [get_parseMode, html] at modes
      simp [rendered, posted]
    | none =>
      rw [Handled.SameEffect, adapter.posts_render_eq_iff]
      simp [TelegramAdapter.forms_postRendered]

/-- A button does what the typed command would exactly when the call fails, or when its
result is not a lone form and the keyboards signed for the two readings of the user's
number agree. They always do for a number below half the range. -/
theorem button_acts_as_command_iff (adapter : TelegramAdapter) (forms : FormStateStore)
    (principal : Principal) (tool : String) (args : Value) (chatId : Int) (fromId : UInt64) :
    ((adapter.dispatchCallback forms principal tool args chatId fromId).SameEffect
        (adapter.dispatchAndRender forms principal tool args chatId (asI64 fromId)) ↔
      ∀ result, adapter.invoke tool args principal = .ok result →
        adapter.tryExtractFormOnly result = none ∧
          adapter.keyboardFor result principal.tenant (toString fromId) =
            adapter.keyboardFor result principal.tenant (toString (asI64 fromId))) ∧
    (fromId.toNat < 2 ^ 63 →
      ((adapter.dispatchCallback forms principal tool args chatId fromId).SameEffect
          (adapter.dispatchAndRender forms principal tool args chatId (asI64 fromId)) ↔
        ∀ result, adapter.invoke tool args principal = .ok result →
          adapter.tryExtractFormOnly result = none)) := by
  refine ⟨sameEffect_iff .., fun small => ?_⟩
  rw [sameEffect_iff, toString_asI64 small]
  simp

/-- A deployment whose tools answer with one result. -/
def deployment (result : Value) : TelegramAdapter where
  toMapperEnv := ⟨Chat.readingEnv⟩
  printJson := fun _ => ""
  invoke := fun _ _ _ => .ok result
  rasterizer := none
  correlationKey := ⟨[List.replicate 16 0], by decide, by decide⟩

def visitor : Principal where
  sub := "visitor"
  scopes := []
  groups := []
  tenant := "acme"
  rawToken := ""
  traceId := ""
  senderRef := none
  conversationRef := none
  idp := none

theorem button_echoes_as_command :
    (42 : UInt64).toNat < 2 ^ 63 ∧
      ((deployment (.string "hello")).dispatchCallback .new visitor "echo" .null 7 42).SameEffect
        ((deployment (.string "hello")).dispatchAndRender .new visitor "echo" .null 7
          (asI64 42)) := by
  refine ⟨by decide, ((button_acts_as_command_iff ..).2 (by decide)).mpr fun result called => ?_⟩
  cases Except.ok.inj called
  rfl

/-- The result of a tool that asks for feedback: a form of one field. -/
def feedback : Value :=
  resultWith [Component.toValue (.form "Feedback"
    [⟨"name", "Your name", .string, true, none, none, [], .dropdown⟩] "Send" "feedback" none none)]

/-- Typed, the command starts the form. Behind a button it does not. -/
theorem button_starts_no_form :
    let survey := deployment feedback
    (survey.dispatchAndRender .new visitor "survey" .null 7 (asI64 7)).forms.hasActive
        ⟨7, 7⟩ = true ∧
      (survey.dispatchCallback .new visitor "survey" .null 7 7).forms.hasActive ⟨7, 7⟩ = false ∧
      ¬ (survey.dispatchCallback .new visitor "survey" .null 7 7).SameEffect
        (survey.dispatchAndRender .new visitor "survey" .null 7 (asI64 7)) := by
  intro survey
  have typed : (survey.dispatchAndRender .new visitor "survey" .null 7
      (asI64 7)).forms.hasActive ⟨7, 7⟩ = true := by
    decide
  have clicked : (survey.dispatchCallback .new visitor "survey" .null 7
      7).forms.hasActive ⟨7, 7⟩ = false := by
    decide
  refine ⟨typed, clicked, fun same => ?_⟩
  rw [same.1, typed] at clicked
  cases clicked

end Triton.Telegram
