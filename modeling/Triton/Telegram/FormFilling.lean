/-
# A form is filled field by field

As long as nobody replaces, cancels or evicts a form, each message that its current
field accepts fills that field, every other message leaves the form as it is, and
the message that fills the last field takes the form out of the store. What other
chats do in between makes no difference.
-/

import Triton.Lib.Positions
import Triton.Lib.Record
import Triton.Telegram.FormQueues

namespace Triton.Telegram

open Triton.Lib Triton.A2ui

/-! ## The values of a form -/

/-- The values of a form: one for each of its fields, and for a field that was
answered what its kind makes of the trimmed answer. -/
structure Fills (fields : List FormField) (answers : List String) (args : Members) : Prop where
  names : ∀ name, (Members.get args name).isSome = true ↔ name ∈ fields.map (·.name)
  values : ∀ (i : Nat) (field : FormField) (answer : String),
    fields[i]? = some field → answers[i]? = some answer →
      ∃ value, coerce field (Text.trim answer) = .ok value ∧
        Members.get args field.name = some value

namespace FormStateStore

theorem nodup_of_checkNames {fields : List FormField} {seen : List String}
    (passed : checkNames seen fields = none) :
    (fields.map (·.name)).Nodup ∧ ∀ name ∈ fields.map (·.name), name ∉ seen := by
  induction fields generalizing seen with
  | nil => simp
  | cons field fields ih =>
    rw [checkNames] at passed
    split at passed
    · cases passed
    · split at passed
      · cases passed
      · rename_i fresh
        obtain ⟨nodup, apart⟩ := ih passed
        rw [List.map_cons, List.nodup_cons]
        refine ⟨⟨fun again => apart _ again List.mem_cons_self, nodup⟩, fun name member => ?_⟩
        rcases List.mem_cons.mp member with rfl | later
        · exact fresh
        · exact fun old => apart name later (List.mem_cons_of_mem _ old)

end FormStateStore

theorem fills_new (submitTool : String) (fields : List FormField) (sub tenant : String) :
    Fills fields [] (ActiveForm.new submitTool fields sub tenant).args where
  names name := by
    have along : ∀ (fields : List FormField) (args : Members),
        (Members.get (fields.foldl (fun args f => Members.insert f.name .null args) args)
            name).isSome = true ↔
          name ∈ fields.map (·.name) ∨ (Members.get args name).isSome = true := by
      intro fields
      induction fields with
      | nil => simp
      | cons field fields ih =>
        intro args
        rw [List.foldl_cons, ih, Members.get_insert, List.map_cons, List.mem_cons]
        split
        · rename_i same
          simp [same]
        · rename_i differs
          simp [differs]
    simpa [ActiveForm.new, Members.get_nil] using along fields []
  values i field answer _ answered := by cases answered

/-- The current field takes an answer, and the others keep theirs. -/
theorem Fills.answer {fields : List FormField} {answers : List String} {args : Members}
    (fills : Fills fields answers args) (nodup : (fields.map (·.name)).Nodup) {field : FormField}
    (current : fields[answers.length]? = some field) {message : String} {value : Value}
    (read : coerce field (Text.trim message) = .ok value) :
    Fills fields (answers ++ [message]) (Members.insert field.name value args) where
  names name := by
    rw [Members.get_insert]
    split
    · rename_i same
      have listed : field.name ∈ fields.map (·.name) :=
        List.mem_map_of_mem (List.mem_of_getElem? current)
      simpa [same] using listed
    · exact fills.names name
  values i other answer found answered := by
    rcases getElem?_concat_cases answered with older | ⟨rfl, rfl⟩
    · have inside : i < answers.length := (List.getElem?_eq_some_iff.mp older).1
      have differs : other.name ≠ field.name := by
        intro same
        apply Nat.ne_of_lt inside
        apply (List.getElem?_inj (l := fields.map (·.name)) _ nodup).mp
        · rw [List.getElem?_map, List.getElem?_map, found, current]
          exact congrArg some same
        · rw [List.length_map]
          exact (List.getElem?_eq_some_iff.mp found).1
      rw [Members.get_insert, if_neg differs]
      exact fills.values i other answer found older
    · rw [current] at found
      cases found
      exact ⟨value, read, by rw [Members.get_insert, if_pos rfl]⟩

/-! ## One message -/

/-- A form under way, with the answers it has taken. -/
structure Underway (submitTool : String) (fields : List FormField) (answers : List String)
    (form : ActiveForm) : Prop where
  tool_eq : form.submitTool = submitTool
  fields_eq : form.fields = fields
  step : form.step = answers.length
  unfinished : answers.length < fields.length
  args : Fills fields answers form.args

namespace FormStateStore

variable {s : FormStateStore} {key other : FormKey} {submitTool : String}
  {fields : List FormField} {answers : List String} {form : ActiveForm}

/-- What becomes of a message to a form with these answers. -/
inductive Answered (s : FormStateStore) (key : FormKey) (submitTool : String)
    (fields : List FormField) (answers : List String) (field : FormField) (message : String) : Prop
  | refused (reason : String) (read : coerce field (Text.trim message) = .error reason)
      (outcome : s.advance key message = (s, some (.reprompt reason)))
  | more (value : Value) (read : coerce field (Text.trim message) = .ok value)
      (unfinished : answers.length + 1 < fields.length)
      (outcome : (s.advance key message).2 = some .needMore) (form : ActiveForm)
      (active : (s.advance key message).1.forms.lookup key = some form)
      (underway : Underway submitTool fields (answers ++ [message]) form)
  | complete (value : Value) (read : coerce field (Text.trim message) = .ok value)
      (last : answers.length + 1 = fields.length) (args : Members)
      (outcome : (s.advance key message).2 = some (.complete submitTool (.object args)))
      (gone : (s.advance key message).1.forms.lookup key = none)
      (fills : Fills fields (answers ++ [message]) args)

theorem lookup_dropForm (s : FormStateStore) (key other : FormKey) :
    (s.dropForm key).forms.lookup other =
      if other = key then none else s.forms.lookup other := by
  unfold dropForm
  split
  · rename_i absent
    split
    · rename_i same
      rw [same, absent]
    · rfl
  · dsimp only
    split <;> exact Table.lookup_erase_eq _ _ _

theorem answered_of_underway (nodup : (fields.map (·.name)).Nodup)
    (active : s.forms.lookup key = some form) (underway : Underway submitTool fields answers form)
    (message : String) :
    ∃ field, fields[answers.length]? = some field ∧
      Answered s key submitTool fields answers field message := by
  obtain ⟨rfl, rfl, step, unfinished, args⟩ := underway
  have current : form.fields[answers.length]? = some form.fields[answers.length] :=
    List.getElem?_eq_getElem unfinished
  have asked : form.currentField = some form.fields[answers.length] := by
    rw [ActiveForm.currentField, step, current]
  refine ⟨_, current, ?_⟩
  cases read : coerce form.fields[answers.length] (Text.trim message) with
  | error reason => exact .refused reason read (by simp only [advance, active, asked, read])
  | ok value =>
    have filled := args.answer nodup current read
    by_cases last : answers.length + 1 = form.fields.length
    · refine .complete value read last _ ?_ ?_ filled
      · simp [advance, active, asked, read, ActiveForm.isComplete, step, last]
      · simp [advance, active, asked, read, ActiveForm.isComplete, step, last, lookup_dropForm]
    · have early : ¬ form.fields.length ≤ answers.length + 1 := by omega
      refine .more value read (by omega) ?_
        { form with
          args := form.args.insert form.fields[answers.length].name value
          step := form.step + 1 } ?_ ⟨rfl, rfl, by simp [step], by simp; omega, filled⟩
      · simp [advance, active, asked, read, ActiveForm.isComplete, step, early]
      · simp [advance, active, asked, read, ActiveForm.isComplete, step, early]

/-! ## Whole runs -/

/-- The operation neither installs nor cancels a form under this key, and evicts none. -/
def Leaves (key : FormKey) (s : FormStateStore) : Op → Prop
  | .install other submitTool fields sub tenant =>
    other ≠ key ∧ ∀ evictedSub evictedTenant,
      (s.install other submitTool fields sub tenant).2 ≠
        .ok (.installedEvicted key evictedSub evictedTenant)
  | .cancel other => other ≠ key
  | .advance _ _ => True

/-- The message was taken for an answer. -/
def taken : Option AdvanceOutcome → Bool
  | some .needMore | some (.complete _ _) => true
  | some (.reprompt _) | none => false

/-- The answer that an operation gives to the form of this key. -/
def answerOf (key : FormKey) (s : FormStateStore) : Op → List String
  | .advance other message =>
    if other = key ∧ taken (s.advance key message).2 = true then [message] else []
  | _ => []

/-- The answers that a run gives to the form of this key. -/
def answersOf (key : FormKey) (s : FormStateStore) : List Op → List String
  | [] => []
  | op :: ops => answerOf key s op ++ answersOf key (s.step op) ops

/-- Where the form of a key stands. -/
inductive Stands (s : FormStateStore) (key : FormKey) (submitTool : String)
    (fields : List FormField) (answers : List String) : Prop
  | underway (form : ActiveForm) (active : s.forms.lookup key = some form)
      (underway : Underway submitTool fields answers form)
  | finished (full : answers.length = fields.length) (gone : s.forms.lookup key = none)

theorem lookup_maybeEvict {tenant : String}
    (spared : ∀ evictedSub evictedTenant,
      (s.maybeEvict tenant).2 ≠ some (key, evictedSub, evictedTenant)) :
    (s.maybeEvict tenant).1.forms.lookup key = s.forms.lookup key := by
  revert spared
  unfold maybeEvict
  split
  · intro _; rfl
  · split
    · intro _; rfl
    · split
      · intro _; rfl
      · rename_i oldest rest _ _
        dsimp only
        split
        · intro _; rfl
        · rename_i removed _
          intro spared
          have differs : key ≠ oldest := by
            rintro rfl
            exact spared _ _ rfl
          exact AList.lookup_erase_ne differs

theorem lookup_install {sub tenant : String} (differs : other ≠ key)
    (spared : ∀ evictedSub evictedTenant,
      (s.install other submitTool fields sub tenant).2 ≠
        .ok (.installedEvicted key evictedSub evictedTenant)) :
    (s.install other submitTool fields sub tenant).1.forms.lookup key = s.forms.lookup key := by
  cases check : checkFields fields with
  | some error => rw [install_of_refused check]
  | none =>
    cases active : s.forms.lookup other with
    | some old =>
      rw [install_of_active check active]
      exact AList.lookup_insert_ne differs.symm
    | none =>
      rw [install_of_fresh check active] at spared ⊢
      rw [lookup_addForm_of_ne differs.symm]
      apply lookup_maybeEvict
      intro evictedSub evictedTenant evicted
      apply spared evictedSub evictedTenant
      rw [evicted]
      rfl

theorem lookup_advance (differs : other ≠ key) (message : String) :
    (s.advance other message).1.forms.lookup key = s.forms.lookup key := by
  have dropped (t : FormStateStore) : (t.dropForm other).forms.lookup key = t.forms.lookup key := by
    rw [lookup_dropForm, if_neg differs.symm]
  have replaced (form : ActiveForm) :
      (s.forms.insert other form).lookup key = s.forms.lookup key :=
    AList.lookup_insert_ne differs.symm
  unfold advance
  split
  · rfl
  · split
    · exact dropped s
    · split
      · rfl
      · dsimp only
        split
        · rw [dropped]
          exact replaced _
        · exact replaced _

theorem lookup_cancel (differs : other ≠ key) :
    (s.cancel other).1.forms.lookup key = s.forms.lookup key := by
  unfold cancel
  split
  · rw [lookup_dropForm, if_neg differs.symm]
  · rfl

/-- An operation that leaves a key alone, and is no message to it, keeps its form. -/
theorem lookup_step {op : Op} (leaves : Leaves key s op)
    (foreign : ∀ message, op ≠ .advance key message) :
    (s.step op).forms.lookup key = s.forms.lookup key ∧ answerOf key s op = [] := by
  cases op with
  | install other submitTool fields sub tenant => exact ⟨lookup_install leaves.1 leaves.2, rfl⟩
  | cancel other => exact ⟨lookup_cancel leaves, rfl⟩
  | advance other message =>
    have differs : other ≠ key := by
      rintro rfl
      exact foreign message rfl
    refine ⟨lookup_advance differs message, ?_⟩
    rw [answerOf, if_neg fun both => differs both.1]

theorem advance_of_gone (gone : s.forms.lookup key = none) (message : String) :
    s.advance key message = (s, none) := by
  simp [advance, gone]

theorem Stands.advance (nodup : (fields.map (·.name)).Nodup)
    (stands : Stands s key submitTool fields answers) (message : String) :
    Stands (s.advance key message).1 key submitTool fields
      (answers ++ answerOf key s (.advance key message)) := by
  cases stands with
  | finished full gone =>
    rw [answerOf, advance_of_gone gone]
    simpa [taken] using Stands.finished full gone
  | underway form active underway =>
    obtain ⟨field, _, answered⟩ := answered_of_underway nodup active underway message
    cases answered with
    | refused reason _ outcome =>
      rw [answerOf, outcome]
      simpa [taken] using Stands.underway form active underway
    | more value _ _ outcome next active underway =>
      rw [answerOf, outcome, if_pos ⟨rfl, rfl⟩]
      exact .underway next active underway
    | complete value _ last args outcome gone _ =>
      rw [answerOf, outcome, if_pos ⟨rfl, rfl⟩]
      exact .finished (by simpa using last) gone

theorem Stands.step (nodup : (fields.map (·.name)).Nodup)
    (stands : Stands s key submitTool fields answers) {op : Op} (leaves : Leaves key s op) :
    Stands (s.step op) key submitTool fields (answers ++ answerOf key s op) := by
  by_cases own : ∃ message, op = .advance key message
  · obtain ⟨message, rfl⟩ := own
    exact stands.advance nodup message
  · obtain ⟨same, none⟩ := lookup_step leaves fun message here => own ⟨message, here⟩
    rw [none, List.append_nil]
    cases stands with
    | underway form active underway => exact .underway form (same.trans active) underway
    | finished full gone => exact .finished full (same.trans gone)

theorem Stands.run (nodup : (fields.map (·.name)).Nodup)
    (stands : Stands s key submitTool fields answers) {ops : List Op}
    (undisturbed : EveryStep FormStateStore.step (Leaves key) s ops) :
    Stands (Lib.run FormStateStore.step s ops) key submitTool fields
      (answers ++ answersOf key s ops) := by
  induction ops generalizing s answers with
  | nil => simpa [answersOf] using stands
  | cons op ops ih =>
    rw [run_cons, answersOf, ← List.append_assoc]
    exact ih (stands.step nodup undisturbed.1) undisturbed.2

/-- A form that is filled exactly: with these answers so far, every message is an
answer, or is refused and changes nothing. The answer to the last field, and no other,
completes the form with all the values, and takes it out of the store. -/
structure Exact (s : FormStateStore) (key : FormKey) (submitTool : String)
    (fields : List FormField) (answers : List String) : Prop where
  bounded : answers.length ≤ fields.length
  asks : ∀ field, fields[answers.length]? = some field → ∀ message,
    Answered s key submitTool fields answers field message
  refused : ∀ message reason, (s.advance key message).2 = some (.reprompt reason) →
    (s.advance key message).1 = s
  completes : ∀ message, (∃ tool args, (s.advance key message).2 = some (.complete tool args)) ↔
    taken (s.advance key message).2 = true ∧ answers.length + 1 = fields.length
  finished : answers.length = fields.length →
    s.forms.lookup key = none ∧ ∀ message, s.advance key message = (s, none)

theorem Stands.exact (nodup : (fields.map (·.name)).Nodup)
    (stands : Stands s key submitTool fields answers) : Exact s key submitTool fields answers := by
  cases stands with
  | finished full gone =>
    have nothing := advance_of_gone gone
    refine ⟨Nat.le_of_eq full, fun field found => ?_, fun message reason refused => ?_,
      fun message => ?_, fun _ => ⟨gone, nothing⟩⟩
    · rw [full, List.getElem?_length] at found
      cases found
    · rw [nothing] at refused
      cases refused
    · rw [nothing]
      simp [taken]
  | underway form active underway =>
    have unfinished := underway.unfinished
    have each := answered_of_underway nodup active underway
    refine ⟨Nat.le_of_lt unfinished, fun field found message => ?_,
      fun message reason refused => ?_, fun message => ?_, fun full => by omega⟩
    · obtain ⟨asked, current, answered⟩ := each message
      rw [found] at current
      cases current
      exact answered
    · obtain ⟨_, _, answered⟩ := each message
      cases answered with
      | refused _ _ outcome => rw [outcome]
      | more _ _ _ outcome | complete _ _ _ _ outcome => rw [outcome] at refused; cases refused
    · obtain ⟨_, _, answered⟩ := each message
      cases answered with
      | refused _ _ outcome => rw [outcome]; simp [taken]
      | more _ _ early outcome => rw [outcome]; simp [taken]; omega
      | complete _ _ last _ outcome => rw [outcome]; simp [taken, last]

theorem lookup_install_self {sub tenant : String} {outcome : InstallOutcome}
    (installed : (s.install key submitTool fields sub tenant).2 = .ok outcome) :
    checkFields fields = none ∧
      (s.install key submitTool fields sub tenant).1.forms.lookup key =
        some (.new submitTool fields sub tenant) := by
  cases check : checkFields fields with
  | some error =>
    rw [install_of_refused check] at installed
    cases installed
  | none =>
    refine ⟨rfl, ?_⟩
    cases active : s.forms.lookup key with
    | some old =>
      rw [install_of_active check active]
      exact AList.lookup_insert _
    | none =>
      rw [install_of_fresh check active]
      exact AList.lookup_insert _

/-- Every accepted form is filled exactly, in every run that does not install, cancel or
evict a form under its key again. -/
theorem form_filling_exact (s : FormStateStore) (key : FormKey) (submitTool : String)
    (fields : List FormField) (sub tenant : String) (outcome : InstallOutcome)
    (installed : (s.install key submitTool fields sub tenant).2 = .ok outcome) (ops : List Op)
    (undisturbed : EveryStep step (Leaves key) (s.install key submitTool fields sub tenant).1 ops) :
    Exact (Lib.run step (s.install key submitTool fields sub tenant).1 ops) key submitTool fields
      (answersOf key (s.install key submitTool fields sub tenant).1 ops) := by
  obtain ⟨accepted, active⟩ := lookup_install_self installed
  unfold checkFields at accepted
  split at accepted
  · cases accepted
  rename_i some
  split at accepted
  · cases accepted
  have nodup := (nodup_of_checkNames accepted).1
  have nonempty : 0 < fields.length := List.length_pos_of_ne_nil (mt List.isEmpty_iff.mpr some)
  have start : Stands (s.install key submitTool fields sub tenant).1 key submitTool fields [] :=
    .underway _ active ⟨rfl, rfl, rfl, nonempty, fills_new submitTool fields sub tenant⟩
  simpa using (start.run nodup undisturbed).exact nodup

/-- A form of three fields: a name, a number of seats, and yes or no. -/
def booking : List FormField :=
  [⟨"name", "Your name", .string, true, none, none, [], .radio⟩,
    ⟨"seats", "How many seats", .integer, true, none, none, [], .radio⟩,
    ⟨"window", "By the window", .boolean, false, none, none, [], .radio⟩]

/-- The form is filled by three answers between two refused messages. The last of them
completes it with all the values, and nothing is asked any more. -/
theorem booking_filled :
    let key : FormKey := ⟨1, 42⟩
    let start := ((withCap 1).install key "book" booking "alice" "acme").1
    let underway := Lib.run step start ([" ", "Ada", "many", "3"].map (.advance key))
    let filled := Lib.run step start ([" ", "Ada", "many", "3", "yes"].map (.advance key))
    (underway.advance key "yes").2 = some (.complete "book" (.object
        [("name", .string "Ada"), ("seats", .number (.posInt 3)), ("window", .bool true)])) ∧
      Exact filled key "book" booking ["Ada", "3", "yes"] ∧
      filled.forms.lookup key = none ∧ ∀ message, filled.advance key message = (filled, none) := by
  intro key start underway filled
  have exact := form_filling_exact (withCap 1) key "book" booking "alice" "acme" .installed rfl
    ([" ", "Ada", "many", "3", "yes"].map (.advance key))
    ⟨trivial, trivial, trivial, trivial, trivial, trivial⟩
  have answers : answersOf key start ([" ", "Ada", "many", "3", "yes"].map (.advance key)) =
      ["Ada", "3", "yes"] := by decide
  rw [answers] at exact
  exact ⟨rfl, exact, exact.finished rfl⟩

end FormStateStore

end Triton.Telegram
