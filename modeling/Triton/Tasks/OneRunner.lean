/-
# One runner per task, and no ending lost

Two invariants of the task service over every interleaving. The hub entries are
held exclusively, so a task never has two runners. And a process that is about
to give an entry up has the task's end in the store, while one that has claimed
a task still finds it running there.
-/

import Triton.Tasks.View

namespace Triton.Tasks

open Triton.Lib Triton.Core

namespace System

variable {s : System}

/-- The process at this place is a runner of the task. -/
def Active (s : System) (id : String) (i : Nat) : Prop :=
  ∃ run, s.procs[i]? = some (.running run) ∧ run.record.id = id

/-- A task has one runner at most, and an entry as long as it has one. -/
structure OneRunner (s : System) : Prop where
  unique : ∀ id i j, s.Active id i → s.Active id j → i = j
  live : ∀ id i, s.Active id i → id ∈ s.hub.live

theorem holder_of_active {id : String} {i : Nat} (active : s.Active id i) :
    ∃ run, s.Holder id i (.running run) := by
  obtain ⟨run, found, rfl⟩ := active
  exact ⟨run, found, rfl⟩

theorem Sound.oneRunner (sound : s.Sound) : s.OneRunner where
  unique id i j first second := by
    obtain ⟨_, one⟩ := holder_of_active first
    obtain ⟨_, other⟩ := holder_of_active second
    exact (sound.eq_of_holder one other).1
  live id i active := by
    obtain ⟨_, holder⟩ := holder_of_active active
    obtain ⟨tx, entry, _⟩ := sound.entry_of_holder holder
    exact AList.lookup_isSome.mp (entry ▸ rfl)

/-- Whatever fails, expires or restarts: every entry has one holder and a channel of its
own, and a task has one runner at most. -/
theorem one_runner_in_every_run (cfg : Runner) (db : Option Database) (labels : List Label) :
    (run (step cfg) (init db) labels).Sound ∧
      (run (step cfg) (init db) labels).OneRunner := by
  have kept : ∀ (s : System) (label : Label), s.Sound → (s.step cfg label).Sound :=
    fun s label sound => sound_step sound cfg label
  have sound := run_keeps kept (sound_init db) labels
  exact ⟨sound, sound.oneRunner⟩

/-! ## What a holder finds in the store -/

end System

/-- What a process relies on the stored record of its task to be: claimed and
still running, or ended before the entry is given up. -/
def Process.Expects (stored : Option TaskRecord) : Process → Prop
  | .claiming _ _ _ => ∃ rec, stored = some rec ∧ rec.state.isTerminal = false
  | .failing _ => ∀ rec, stored = some rec → rec.state.isTerminal = true
  | .running run =>
    run.phase.isOver = true → ∀ rec, stored = some rec → rec.state.isTerminal = true
  | .starting _ _ | .refusing _ _ | .ended => True

namespace Process

variable {w : Shared} {turn : Turn} (cfg : Runner)

/-- A process that finds the store as it expects it, and has its write taken,
leaves it as it expects it. -/
theorem move_expects (keyed : w.store.Keyed) {p : Process} {id : String} (own : p.holds = some id)
    (before : p.Expects (w.store.getRaw id)) (took : turn.fault = none)
    (shown : w.store.get turn.now id = w.store.getRaw id) :
    (p.move cfg w turn).2.1.Expects ((p.move cfg w turn).1.store.getRaw id) := by
  have moved := p.moved cfg w turn
  generalize p.move cfg w turn = after at moved ⊢
  cases moved with
  | spawns | resumes =>
    intro isOver
    cases isOver
  | fails record _ _ errorClass message =>
    cases own
    intro rec found
    rw [took] at found
    exact @TaskStore.terminal_of_finish cfg _ _ _ keyed shown (.error (errorClass, message)) _
      found
  | runs run =>
    cases own
    intro isOver
    rcases Run.move_isOver cfg turn isOver with ⟨already, unchanged⟩ | ⟨outcome, _, finished⟩
    · simp only [unchanged]
      exact before already
    · simp only [finished, took]
      exact fun rec found => TaskStore.terminal_of_finish keyed shown found
  | refuses | refused | failed | closes | ended => trivial

/-- The turns that give an entry up; none of them writes. -/
theorem eq_of_move_ended {p : Process} (ended : (p.move cfg w turn).2.1 = .ended) :
    (p.move cfg w turn).1.store = w.store ∧
      (p = .ended ∨ (∃ id error, p = .refusing id error) ∨ (∃ id, p = .failing id) ∨
        ∃ run, p = .running run ∧ run.phase.isOver = true) := by
  have moved := p.moved cfg w turn
  generalize p.move cfg w turn = after at moved ended ⊢
  cases moved with
  | refused id error => exact ⟨rfl, .inr (.inl ⟨id, error, rfl⟩)⟩
  | failed id => exact ⟨rfl, .inr (.inr (.inl ⟨id, rfl⟩))⟩
  | closes run closing => exact ⟨rfl, .inr (.inr (.inr ⟨run, rfl, by rw [closing]; rfl⟩))⟩
  | ended => exact ⟨rfl, .inl rfl⟩
  | refuses | spawns | fails | resumes | runs => cases ended

end Process

namespace System

variable {s : System} {cfg : Runner}

/-- On the way to `after`, the store takes every write, hides no record for its
age, and loses none of another task. A restart may lose what is not in a database. -/
def UndisturbedTo (s : System) (after : System) : Label → Prop
  | .ensure _ _ now => ∀ id, s.store.get now id = s.store.getRaw id
  | .move index turn =>
    turn.fault = none ∧ (∀ id, s.store.get turn.now id = s.store.getRaw id) ∧
      ∀ id, s.Spared index id →
        (s.store.getRaw id).isSome = true → (after.store.getRaw id).isSome = true
  | .start _ | .tick _ | .restart _ => True

/-- The step meets no failed write, no eviction and no expired record. -/
def Undisturbed (cfg : Runner) (s : System) (label : Label) : Prop :=
  s.UndisturbedTo (s.step cfg label) label

/-- Every holder finds the record of its task as it expects it. -/
structure Orderly (s : System) : Prop extends Sound s where
  expects : ∀ task i p, s.Holder task i p → p.Expects (s.store.getRaw task)

theorem orderly_init (db : Option Database) : (init db).Orderly where
  toSound := sound_init db
  expects task i p holder := by simp [init, Holder] at holder

/-- Where no record is lost, a step that leaves a task alone leaves its record alone. -/
theorem Apart.stored_eq {task : String} {label : Label} {after : System}
    (apart : s.Apart task label after)
    (kept : ∀ index turn, label = .move index turn → s.Spared index task →
      (s.store.getRaw task).isSome = true → (after.store.getRaw task).isSome = true) :
    after.store.getRaw task = s.store.getRaw task := by
  rcases apart.stored with same | ⟨⟨index, turn, moves, spared⟩, gone⟩
  · exact same
  · cases stored : s.store.getRaw task with
    | none => exact gone
    | some rec =>
      have still := kept index turn moves spared (by rw [stored]; rfl)
      rw [gone] at still
      cases still

theorem orderly_step (orderly : s.Orderly) (label : Label) (calm : s.Undisturbed cfg label) :
    (s.step cfg label).Orderly := by
  refine ⟨sound_step orderly.toSound cfg label, fun task i q holder => ?_⟩
  have seen := seen orderly.toSound cfg task label
  unfold Undisturbed at calm
  generalize s.step cfg label = after at seen calm holder ⊢
  cases seen with
  | apart apart =>
    rw [apart.stored_eq]
    · exact orderly.expects task i q ((apart.holders i q).mp holder)
    · rintro index turn rfl
      exact calm.2.2 task
  | entered entrance free own =>
    obtain ⟨rfl, rfl⟩ := (orderly.holder_entered_iff free own rfl).mp holder
    cases entrance with
    | start => trivial
    | claim _ record _ _ stored running => exact ⟨record, stored, running⟩
  | moved index turn p mover =>
    obtain ⟨took, shown, _⟩ := calm
    obtain ⟨_, rfl, _⟩ := (orderly.holder_moved_iff mover rfl).mp holder
    exact Process.move_expects cfg orderly.keyed mover.2 (orderly.expects task _ p mover) took
      (shown task)
  | restarted now => simp [Holder] at holder

/-! ## What every run keeps -/

/-- A claimed task that the step hands to a runner is running in the store, and
no runner has it. -/
def ResumesRunning (s after : System) : Prop :=
  ∀ (i : Nat) (record : TaskRecord) (principal : Principal) (tx : Nat) (run : Run),
    s.procs[i]? = some (.claiming record principal tx) → after.procs[i]? = some (.running run) →
    (∃ stored, s.store.getRaw run.record.id = some stored ∧ stored.state.isTerminal = false) ∧
      ∀ j, ¬ s.Active run.record.id j

/-- An entry that is given up in the step, other than by a start whose first write
failed, is that of a task whose stored record has ended. -/
def ClosesEnded (s after : System) : Label → Prop
  | .move i _ =>
    ∀ p id, s.procs[i]? = some p → (∀ held error, p ≠ .refusing held error) →
      id ∈ s.hub.live → id ∉ after.hub.live →
      ∀ stored, s.store.getRaw id = some stored → stored.state.isTerminal = true
  | _ => True

/-- A process changes by its own turns only. -/
theorem procs_step_cases {i : Nat} {p : Process} (found : s.procs[i]? = some p) (label : Label) :
    (s.step cfg label).procs[i]? = some p ∨ (s.step cfg label).procs = [] ∨
      ∃ turn, label = .move i turn ∧
        (s.step cfg label).procs[i]? = some (p.move cfg s.toShared turn).2.1 := by
  have inside := (List.getElem?_eq_some_iff.mp found).1
  have taken := s.stepped cfg label
  generalize s.step cfg label = after at taken ⊢
  cases taken with
  | idle _ _ procs _ =>
    left
    rw [procs]
    exact found
  | opened call free | claimed snapshot principal now record free read running =>
    left
    simpa [List.getElem?_append_left inside] using found
  | moved index turn q read =>
    by_cases here : index = i
    · subst here
      right
      right
      cases found.symm.trans read
      exact ⟨turn, rfl, by simp [List.getElem?_set_self', read]⟩
    · left
      simpa [List.getElem?_set_ne here] using found
  | restarted now => exact .inr (.inl rfl)

theorem Orderly.resumesRunning (orderly : s.Orderly) (label : Label) :
    s.ResumesRunning (s.step cfg label) := by
  intro i record principal tx run before after
  rcases procs_step_cases before label with same | gone | ⟨turn, _, changed⟩
  · rw [same] at after
    cases after
  · rw [gone] at after
    cases after
  · rw [changed, Option.some_inj] at after
    have own : (Process.claiming record principal tx).holds = some record.id := rfl
    have kept := Process.move_confined cfg turn orderly.keyed own
    have same : run.record.id = record.id := by
      rcases kept.entry with ⟨still, _⟩ | ⟨ended, _⟩
      · rw [after] at still
        exact Option.some.inj still
      · rw [after] at ended
        cases ended
    rw [same]
    refine ⟨orderly.expects record.id i _ ⟨before, rfl⟩, fun j active => ?_⟩
    obtain ⟨other, running⟩ := holder_of_active active
    cases (orderly.eq_of_holder ⟨before, rfl⟩ running).2

/-- A holder that gives its entry up, other than after a failed first write, has
the task's end in the store. -/
theorem Orderly.ended_of_gives_up (orderly : s.Orderly) {i : Nat} {p : Process} {id : String}
    {turn : Turn} (holder : s.Holder id i p)
    (ended : (p.move cfg s.toShared turn).2.1 = .ended)
    (notRefusing : ∀ held error, p ≠ .refusing held error) :
    ∀ stored, s.store.getRaw id = some stored → stored.state.isTerminal = true := by
  have expected := orderly.expects id i p holder
  rcases (Process.eq_of_move_ended cfg ended).2 with
    rfl | ⟨held, error, rfl⟩ | ⟨held, rfl⟩ | ⟨run, rfl, isOver⟩
  · cases holder.2
  · exact absurd rfl (notRefusing held error)
  · exact expected
  · exact expected isOver

theorem Orderly.closesEnded (orderly : s.Orderly) (label : Label) :
    s.ClosesEnded (s.step cfg label) label := by
  cases label with
  | move i turn =>
    intro p id found notRefusing live closed
    have after : (s.step cfg (.move i turn)).hub = (p.move cfg s.toShared turn).1.hub := by
      simp [step, found]
    rw [after] at closed
    cases own : p.holds with
    | none =>
      cases eq_ended_of_holds_none own
      exact absurd live closed
    | some mine =>
      rcases (Process.move_confined cfg turn orderly.keyed own).entry with
        ⟨_, same⟩ | ⟨ended, same⟩
      · rw [same] at closed
        exact absurd live closed
      · have here : id = mine := by
          by_contra different
          rw [same] at closed
          exact closed (AList.mem_erase.mpr ⟨different, live⟩)
        subst here
        exact orderly.ended_of_gives_up ⟨found, own⟩ ended notRefusing
  | _ => trivial

/-- Along every interleaving that meets no failed write, eviction or expired
record, from any empty store and across restarts: a task has one runner at most
and is live while it has one; only running tasks without a runner are resumed;
and an entry is given up only after the task's end is stored. -/
theorem one_runner_and_stored_endings (cfg : Runner) (db : Option Database)
    (labels : List Label)
    (calm : EveryStep (step cfg) (Undisturbed cfg) (init db) labels) :
    EveryState (step cfg) OneRunner (init db) labels ∧
      EveryStep (step cfg)
        (fun s label => s.ResumesRunning (s.step cfg label) ∧
          s.ClosesEnded (s.step cfg label) label) (init db) labels := by
  have preserved : ∀ (s : System) (label : Label), s.Orderly → s.Undisturbed cfg label →
      (s.step cfg label).Orderly := fun s label orderly calm => orderly_step orderly label calm
  have initial := orderly_init db
  constructor
  · exact everyState_of_invariant preserved (fun s orderly => orderly.toSound.oneRunner)
      initial calm
  · exact everyStep_of_invariant preserved
      (fun s label orderly _ => ⟨orderly.resumesRunning label, orderly.closesEnded label⟩)
      initial calm

/-! ## A run from the start of a task to its end -/

/-- No row of the database is past its retention, and every row stays and is read. -/
def rowsKept (s after : System) (now : Int) : Bool :=
  match s.store.backend, after.store.backend with
  | .sqlite _ rows, .sqlite codec kept =>
    rows.entries.all (fun entry => now - s.store.retentionMs ≤ entry.2.record.updatedMs) &&
      (rows.keys.all (· ∈ kept.keys) &&
        kept.entries.all fun entry => (codec.reread entry.2.record).isSome)
  | _, _ => false

theorem shown_of_rowsKept {after : System} {now : Int} (kept : s.rowsKept after now = true)
    (id : String) : s.store.get now id = s.store.getRaw id := by
  unfold rowsKept at kept
  split at kept
  · rename_i codec rows _ _ backend _
    simp only [Bool.and_eq_true, List.all_eq_true, decide_eq_true_eq] at kept
    simp only [TaskStore.get, TaskStore.getRaw, backend]
    cases found : rows.lookup id with
    | none => rfl
    | some row =>
      have listed : (⟨id, row⟩ : Sigma fun _ : String => Row) ∈ rows.entries :=
        AList.mem_lookup_iff.mp found
      have young := kept.1 _ listed
      rw [Option.bind_some]
      cases read : codec.reread row.record with
      | none => rfl
      | some back =>
        have stamp := (codec.alike _ _ read).fields.2.2.2
        rw [Option.filter_some, TaskStore.live, stamp, decide_eq_true young, if_pos rfl]
  · cases kept

theorem kept_of_rowsKept {after : System} {now : Int} (kept : s.rowsKept after now = true)
    {id : String} (stored : (s.store.getRaw id).isSome = true) :
    (after.store.getRaw id).isSome = true := by
  unfold rowsKept at kept
  split at kept
  · rename_i rows codec rowsAfter backend stays
    simp only [Bool.and_eq_true, List.all_eq_true, decide_eq_true_eq] at kept
    simp only [TaskStore.getRaw, backend, stays] at stored ⊢
    obtain ⟨rec, read⟩ := Option.isSome_iff_exists.mp stored
    obtain ⟨row, found, _⟩ := Option.bind_eq_some_iff.mp read
    have still := kept.2.1 id (AList.lookup_isSome.mp (found ▸ rfl))
    obtain ⟨again, present⟩ := Option.isSome_iff_exists.mp (AList.lookup_isSome.mpr still)
    rw [present]
    exact kept.2.2 ⟨id, again⟩ (AList.mem_lookup_iff.mp present)
  · cases kept

/-- The database takes what is written, and keeps and shows every row. -/
def keepsRows (cfg : Runner) (s : System) (label : Label) : Bool :=
  match label with
  | .move _ turn => turn.fault.isNone && s.rowsKept (s.step cfg label) turn.now
  | .ensure _ _ now => s.rowsKept s now
  | .start _ | .tick _ | .restart _ => true

theorem undisturbed_of_keepsRows {label : Label} (kept : s.keepsRows cfg label = true) :
    s.Undisturbed cfg label := by
  cases label with
  | move index turn =>
    obtain ⟨took, kept⟩ := Bool.and_eq_true_iff.mp kept
    exact ⟨Option.isNone_iff_eq_none.mp took, shown_of_rowsKept kept,
      fun _ _ => kept_of_rowsKept kept⟩
  | ensure snapshot caller now => exact shown_of_rowsKept kept
  | start | tick | restart => trivial

def plainRunner : Runner where
  taskMaxMs := 3600 * 1000
  render _ := "done"
  jsonLen _ := some 4

def plainDatabase : Database := ⟨depthLimited, 1000⟩

/-- A task that answers at once, and a reader who asks for it with an old
snapshot while it runs and when it is over. -/
def promptTask : List Label :=
  let turn : Input → Label := fun input => .move 0 ⟨0, none, input⟩
  let caller : Principal := ⟨"alice", [], [], "acme", "", "t1", none, none, none⟩
  let record := TaskRecord.new 0 "t1" "c1" "agent" none
  [.start ⟨record, .dispatch .null, caller, "a2a", {}, .now⟩, turn .proceed, turn .proceed,
    turn (.opened (.ok ())), .ensure record caller 0, turn (.event (.done .null)), turn .proceed,
    turn .proceed, turn .proceed, .ensure record caller 0]

theorem prompt_task_stored_ending :
    EveryState (step plainRunner) OneRunner (init (some plainDatabase)) promptTask ∧
      EveryStep (step plainRunner)
        (fun s label => s.ResumesRunning (s.step plainRunner label) ∧
          s.ClosesEnded (s.step plainRunner label) label)
        (init (some plainDatabase)) promptTask := by
  apply one_runner_and_stored_endings plainRunner (some plainDatabase) promptTask
  have kept : EveryStep (step plainRunner) (fun s label => s.keepsRows plainRunner label = true)
      (init (some plainDatabase)) promptTask := by
    decide
  exact kept.imp fun _ _ => undisturbed_of_keepsRows

end System

end Triton.Tasks
