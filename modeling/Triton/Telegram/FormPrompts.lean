/-
# The prompt that follows a message

A message handler feeds its message into the form and lets go of the store; then it
looks the next prompt up and posts it. Between the two, other handlers may feed
their messages, and a form may be installed or cancelled under the same key. The
handler then posts what the form asks by that time, which need not be what its
own message leaves to be asked.
-/

import Triton.Lib.Regroup
import Triton.Lib.Run
import Triton.Telegram.FormState

namespace Triton.Telegram

open Triton.Lib Triton.A2ui

/-! ## What a prompt says -/

/-- What a form asks: which field of how many, its label, and whether it needs an
answer. -/
structure Question where
  number : Nat
  total : Nat
  label : String
  required : Bool
  deriving DecidableEq, Repr

def ActiveForm.question (form : ActiveForm) : Option Question :=
  form.currentField.map fun f => ⟨form.step + 1, form.fields.length, f.label, f.required⟩

namespace Question

def suffix (required : Bool) : String :=
  if required then " (required)" else " (optional, send a blank message to skip)"

def text (q : Question) : String :=
  toString q.number ++ "/" ++ toString q.total ++ " — " ++ q.label ++ suffix q.required

theorem toList_text (q : Question) :
    q.text.toList = (toString q.number).toList ++ '/' ::
      ((toString q.total).toList ++
        ' ' :: '—' :: ' ' :: (q.label ++ suffix q.required).toList) := by
  simp [text, String.toList_append]

theorem notMem_toString {c : Char} (other : c.isDigit = false) (n : Nat) :
    c ∉ (toString n).toList := by
  intro member
  rw [Text.isDigit_of_mem_toString member] at other
  cases other

/-- The end of a prompt tells whether the field is required. -/
theorem label_suffix_inj {label label' : String} {required required' : Bool}
    (same : label ++ suffix required = label' ++ suffix required') :
    label = label' ∧ required = required' := by
  have ends := congrArg (fun s : String => s.toList.reverse[1]?) same
  cases required <;> cases required'
  · exact ⟨(String.append_left_inj _).mp same, rfl⟩
  · simp [suffix] at ends
  · simp [suffix] at ends
  · exact ⟨(String.append_left_inj _).mp same, rfl⟩

/-- A prompt tells everything about its question. -/
theorem text_inj {q q' : Question} (same : q.text = q'.text) : q = q' := by
  have chars := congrArg String.toList same
  rw [toList_text, toList_text,
    Regroup.append_sep_inj '/' (notMem_toString rfl _) (notMem_toString rfl _),
    Regroup.append_sep_inj ' ' (notMem_toString rfl _) (notMem_toString rfl _)] at chars
  obtain ⟨number, total, rest⟩ := chars
  have tail : q.label ++ suffix q.required = q'.label ++ suffix q'.required := by
    apply String.toList_inj.mp
    simpa using rest
  obtain ⟨label, required⟩ := label_suffix_inj tail
  cases q
  cases q'
  cases Text.toString_inj (String.toList_inj.mp number)
  cases Text.toString_inj (String.toList_inj.mp total)
  cases label
  cases required
  rfl

/-- No prompt is the text that stands in for a missing one. -/
theorem text_ne_formContinues (q : Question) : q.text ≠ "(form continues)" := by
  intro same
  have first : (q.text.toList.head?).any Char.isDigit = true := by
    obtain ⟨c, rest, digits⟩ :=
      List.exists_cons_of_ne_nil (Nat.toDigits_ne_nil (b := 10) (n := q.number))
    have digit : c.isDigit = true := by
      apply Text.isDigit_of_mem_toString (n := q.number)
      rw [Nat.toString_eq_ofList_toDigits, String.toList_ofList, digits]
      exact List.mem_cons_self
    rw [toList_text, Nat.toString_eq_ofList_toDigits, String.toList_ofList, digits]
    exact digit
  rw [same] at first
  revert first
  decide

end Question

theorem ActiveForm.nextPrompt_eq (form : ActiveForm) :
    form.nextPrompt = form.question.map Question.text := by
  rw [nextPrompt, question, Option.map_map]
  rfl

/-! ## Handlers of one chat and user -/

/-- A handler that has fed its message and has not looked up the prompt: the form it
fed the message to, and why the message was refused, if it was. -/
structure Waiting where
  form : ActiveForm
  refusal : Option String

namespace Waiting

/-- The question to be asked after the message: the refused one again, or the one that
follows the field the message filled. -/
def due (w : Waiting) : Option Question :=
  match w.refusal with
  | none => { w.form with step := w.form.step + 1 }.question
  | some _ => w.form.question

/-- The reply with this prompt. -/
def body (w : Waiting) (prompt : String) : String :=
  match w.refusal with
  | none => prompt
  | some reason => reason ++ "\n\n" ++ prompt

theorem body_inj {w : Waiting} {prompt prompt' : String} (same : w.body prompt = w.body prompt') :
    prompt = prompt' := by
  unfold body at same
  split at same
  · exact same
  · exact (String.append_right_inj _).mp same

end Waiting

/-- The store, and by number the handlers that wait to post a prompt. -/
structure Conversation where
  store : FormStateStore
  waiting : List (Option Waiting)

/-- What happens under one key, each in one step: a handler feeds a message, a handler
looks up its prompt and posts it, a form is installed or cancelled. -/
inductive Move where
  | message (text : String)
  | peek (handler : Nat)
  | install (submitTool : String) (fields : List FormField) (sub tenant : String)
  | cancel

/-- The handler of a message that is followed by a prompt. -/
def waitingOf : Option ActiveForm → Option AdvanceOutcome → Option Waiting
  | some form, some .needMore => some ⟨form, none⟩
  | some form, some (.reprompt reason) => some ⟨form, some reason⟩
  | _, _ => none

namespace Conversation

def start (store : FormStateStore) : Conversation := ⟨store, []⟩

def step (key : FormKey) (c : Conversation) : Move → Conversation
  | .message text =>
    let (store, outcome) := c.store.advance key text
    ⟨store, c.waiting ++ [waitingOf (c.store.forms.lookup key) outcome]⟩
  | .peek handler => { c with waiting := c.waiting.set handler none }
  | .install submitTool fields sub tenant =>
    { c with store := (c.store.install key submitTool fields sub tenant).1 }
  | .cancel => { c with store := (c.store.cancel key).1 }

/-- The reply of a handler that looks the prompt up now. -/
def reply (key : FormKey) (c : Conversation) (w : Waiting) : String :=
  w.body ((c.store.peekPrompt key).getD "(form continues)")

/-- A handler that posts asks what is due after its message. -/
def PostsOwnPrompt (key : FormKey) (c : Conversation) (move : Move) : Prop :=
  ∀ handler w, move = .peek handler → c.waiting[handler]? = some (some w) →
    ∃ q, w.due = some q ∧ c.reply key w = w.body q.text

/-- The form under the key asks what is due after the message of the handler that
posts. -/
def AsksSame (key : FormKey) (c : Conversation) (move : Move) : Prop :=
  ∀ handler w, move = .peek handler → c.waiting[handler]? = some (some w) →
    ∃ form, c.store.forms.lookup key = some form ∧ form.question = w.due

/-- While a handler waits, the form under the key stays as it is. -/
def Undisturbed (key : FormKey) (c : Conversation) (move : Move) : Prop :=
  (∃ w, some w ∈ c.waiting) →
    (c.step key move).store.forms.lookup key = c.store.forms.lookup key

variable {key : FormKey} {c : Conversation}

/-- What a message leaves: when a prompt follows, the form that is left asks what is
due. -/
theorem left_of_advance {s : FormStateStore} {text : String} {w : Waiting}
    (waits : waitingOf (s.forms.lookup key) (s.advance key text).2 = some w) :
    w.due.isSome = true ∧
      ∃ form, (s.advance key text).1.forms.lookup key = some form ∧ form.question = w.due := by
  revert waits
  unfold FormStateStore.advance
  cases active : s.forms.lookup key with
  | none => intro waits; cases waits
  | some form =>
    dsimp only
    cases asked : form.currentField with
    | none => intro waits; cases waits
    | some field =>
      dsimp only
      cases read : coerce field (Text.trim text) with
      | error reason =>
        intro waits
        cases waits
        refine ⟨?_, form, active, rfl⟩
        simp [Waiting.due, ActiveForm.question, asked]
      | ok value =>
        dsimp only
        split
        · intro waits; cases waits
        · rename_i unfinished
          intro waits
          cases waits
          refine ⟨?_, _, AList.lookup_insert _, rfl⟩
          simp only [ActiveForm.isComplete, decide_eq_true_eq, Nat.not_le] at unfinished
          simpa [Waiting.due, ActiveForm.question, ActiveForm.currentField] using unfinished

/-- Every handler that waits has something to ask. -/
def Sound (c : Conversation) : Prop := ∀ w, some w ∈ c.waiting → w.due.isSome = true

theorem mem_waiting_step {move : Move} {w : Waiting} (member : some w ∈ (c.step key move).waiting) :
    some w ∈ c.waiting ∨
      ∃ text, move = .message text ∧
        waitingOf (c.store.forms.lookup key) (c.store.advance key text).2 = some w := by
  cases move with
  | message text =>
    rcases List.mem_append.mp member with old | new
    · exact .inl old
    · exact .inr ⟨text, rfl, (List.mem_singleton.mp new).symm⟩
  | peek handler =>
    rcases List.mem_or_eq_of_mem_set member with old | gone
    · exact .inl old
    · cases gone
  | install | cancel => exact .inl member

theorem Sound.step (sound : c.Sound) (move : Move) : (c.step key move).Sound := by
  intro w member
  rcases mem_waiting_step member with old | ⟨text, _, waits⟩
  · exact sound w old
  · exact (left_of_advance waits).1

theorem peekPrompt_eq (key : FormKey) (s : FormStateStore) :
    s.peekPrompt key = ((s.forms.lookup key).bind ActiveForm.question).map Question.text := by
  rw [FormStateStore.peekPrompt]
  cases s.forms.lookup key with
  | none => rfl
  | some form => exact form.nextPrompt_eq

/-- A handler asks what is due exactly when the form under the key does. -/
theorem reply_eq_iff {w : Waiting} {q : Question} (due : w.due = some q) :
    c.reply key w = w.body q.text ↔
      ∃ form, c.store.forms.lookup key = some form ∧ form.question = w.due := by
  rw [reply, peekPrompt_eq, due]
  constructor
  · intro same
    have prompt := Waiting.body_inj same
    cases active : c.store.forms.lookup key with
    | none =>
      rw [active] at prompt
      exact absurd prompt.symm q.text_ne_formContinues
    | some form =>
      refine ⟨form, rfl, ?_⟩
      rw [active, Option.bind_some] at prompt
      cases asked : form.question with
      | none =>
        rw [asked] at prompt
        exact absurd prompt.symm q.text_ne_formContinues
      | some other =>
        rw [asked] at prompt
        exact congrArg some (Question.text_inj prompt)
  · rintro ⟨form, active, asked⟩
    rw [active, Option.bind_some, asked]
    rfl

theorem postsOwnPrompt_iff (sound : c.Sound) (move : Move) :
    c.PostsOwnPrompt key move ↔ c.AsksSame key move := by
  constructor
  · intro posts handler w here waits
    obtain ⟨q, due, same⟩ := posts handler w here waits
    exact (reply_eq_iff due).mp same
  · intro asks handler w here waits
    obtain ⟨q, due⟩ := Option.isSome_iff_exists.mp (sound w (List.mem_of_getElem? waits))
    exact ⟨q, due, (reply_eq_iff due).mpr (asks handler w here waits)⟩

/-- Every handler that waits would ask the right question now. -/
def Settled (key : FormKey) (c : Conversation) : Prop :=
  ∀ w, some w ∈ c.waiting →
    ∃ form, c.store.forms.lookup key = some form ∧ form.question = w.due

theorem Settled.step (settled : c.Settled key) {move : Move}
    (undisturbed : c.Undisturbed key move) :
    (c.step key move).Settled key := by
  intro w member
  rcases mem_waiting_step member with old | ⟨text, rfl, waits⟩
  · rw [undisturbed ⟨w, old⟩]
    exact settled w old
  · exact (left_of_advance waits).2

/-- In every run under one key, each handler posts the prompt that is due after its
message exactly when the form still asks that at the time. It does in every run in which
nothing changes the form while a handler waits. -/
theorem prompts_match_iff (key : FormKey) (store : FormStateStore) (moves : List Move) :
    (EveryStep (step key) (PostsOwnPrompt key) (start store) moves ↔
      EveryStep (step key) (AsksSame key) (start store) moves) ∧
    (EveryStep (step key) (Undisturbed key) (start store) moves →
      EveryStep (step key) (PostsOwnPrompt key) (start store) moves) := by
  have sound : (start store).Sound := fun w member => by cases member
  have same : EveryStep (step key) (PostsOwnPrompt key) (start store) moves ↔
      EveryStep (step key) (AsksSame key) (start store) moves :=
    everyStep_congr_of_invariant (fun _ move sound _ => sound.step move)
      (fun _ move sound => postsOwnPrompt_iff sound move) sound
  refine ⟨same, fun undisturbed => same.mpr ?_⟩
  have settled : (start store).Settled key := fun w member => by cases member
  refine everyStep_of_invariant (fun _ _ settled => settled.step) ?_ settled undisturbed
  intro c move settled _ handler w _ waits
  exact settled w (List.mem_of_getElem? waits)

section Sample

def askedField (name label : String) : FormField :=
  ⟨name, label, .string, true, none, none, [], .radio⟩

def register : List FormField :=
  [askedField "first" "First name", askedField "last" "Last name", askedField "city" "City"]

/-- A store with a form of three fields. -/
def registering : FormStateStore :=
  ((FormStateStore.withCap 1).install ⟨1, 42⟩ "register" register "alice" "acme").1

/-- Two messages came in, and neither handler has posted. -/
def hurried : Conversation :=
  run (step ⟨1, 42⟩) (start registering) [.message "Ada", .message "Lovelace"]

/-- The handler of the first one. -/
def firstHandler : Waiting := ⟨.new "register" register "alice" "acme", none⟩

/-- It asks for the city, though the last name follows the field that its message
filled. -/
theorem second_message_steals_prompt :
    hurried.waiting[0]? = some (some firstHandler) ∧
      firstHandler.due = some ⟨2, 3, "Last name", true⟩ ∧
      hurried.reply ⟨1, 42⟩ firstHandler = "3/3 — City (required)" ∧
      ¬ EveryStep (step ⟨1, 42⟩) (PostsOwnPrompt ⟨1, 42⟩) (start registering)
        [.message "Ada", .message "Lovelace", .peek 0] := by
  have waits : hurried.waiting[0]? = some (some firstHandler) := rfl
  have due : firstHandler.due = some ⟨2, 3, "Last name", true⟩ := rfl
  have reply : hurried.reply ⟨1, 42⟩ firstHandler = "3/3 — City (required)" := by decide +kernel
  refine ⟨waits, due, reply, fun posts => ?_⟩
  obtain ⟨_, _, atPeek, _⟩ := posts
  obtain ⟨q, asked, same⟩ := atPeek 0 firstHandler rfl waits
  rw [due] at asked
  cases asked
  have right : hurried.reply ⟨1, 42⟩ firstHandler = "2/3 — Last name (required)" := same
  rw [reply] at right
  revert right
  decide +kernel

/-- Two messages, each with its prompt before the next. -/
theorem prompts_in_turn :
    EveryStep (step ⟨1, 42⟩) (PostsOwnPrompt ⟨1, 42⟩) (start registering)
      [.message "Ada", .peek 0, .message "Lovelace", .peek 1] := by
  apply (prompts_match_iff ⟨1, 42⟩ registering
    [.message "Ada", .peek 0, .message "Lovelace", .peek 1]).2
  refine ⟨?_, fun _ => rfl, ?_, fun _ => rfl, trivial⟩
  · rintro ⟨w, member⟩
    cases member
  · rintro ⟨w, member⟩
    have waiting : (step ⟨1, 42⟩ (step ⟨1, 42⟩ (start registering) (.message "Ada"))
        (.peek 0)).waiting = [none] := rfl
    rw [waiting, List.mem_singleton] at member
    cases member

end Sample

end Conversation

end Triton.Telegram
