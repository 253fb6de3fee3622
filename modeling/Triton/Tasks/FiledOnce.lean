/-
# A task is filed once

A task that is started once is dispatched once at most, whatever the upstream
answers, wherever streams break, in whatever order the processes move, and
however often the service restarts. Every later contact is a resume of the
upstream task that is known by then.

What is known is what a runner accepted from the upstream, or what a claim read
from the store. As long as the store takes every write and keeps what it has, a
task is claimed only in a lifetime that knows nothing of it yet, so that what the
claim reads was stored before the restart.
-/

import Triton.Tasks.OneRunner

namespace Triton.Tasks

open Triton.Lib Triton.Core

namespace System

variable {task : String} {s : System} {cfg : Runner}

theorem getRaw_reopened (store : TaskStore) (now : Int) (id : String) :
    (reopened store now).getRaw id = store.getRaw id ∨ (reopened store now).getRaw id = none := by
  unfold reopened
  split
  · exact .inr rfl
  · rename_i codec rows backend
    have same : (⟨.sqlite codec rows, store.retentionMs, 0⟩ : TaskStore).getRaw id =
        store.getRaw id := by
      simp [TaskStore.getRaw, backend]
    rw [← same]
    exact TaskStore.getRaw_prune _ now id

/-! ## Before a task is started -/

/-- The task has not been dispatched or resumed, and nothing is held or stored of
it. -/
structure Unfiled (task : String) (s : System) : Prop where
  uncontacted : contacts task s.history = []
  unheld : ∀ i p, ¬ s.Holder task i p
  unstored : s.store.getRaw task = none

theorem unfiled_init (db : Option Database) : (init db).Unfiled task where
  uncontacted := rfl
  unheld i p holder := by simp [init, Holder] at holder
  unstored := by cases db <;> rfl

/-- As long as the task is not started, that stays so. -/
theorem unfiled_step (sound : s.Sound) (unfiled : s.Unfiled task) {label : Label}
    (other : label.starts task = false) : (s.step cfg label).Unfiled task := by
  have seen := seen sound cfg task label
  generalize s.step cfg label = after at seen ⊢
  cases seen with
  | apart apart =>
    obtain ⟨log, history, silent⟩ := apart.history
    refine ⟨?_, fun i p holder => unfiled.unheld i p ((apart.holders i p).mp holder), ?_⟩
    · rw [history, Happening.Silent.contacts_append silent]
      exact unfiled.uncontacted
    · exact apart.stored.elim (·.trans unfiled.unstored) And.right
  | entered entrance =>
    cases entrance with
    | start _ _ same => simp [Label.starts, same] at other
    | claim _ record _ _ stored =>
      rw [unfiled.unstored] at stored
      cases stored
  | moved index turn p holder => exact absurd holder (unfiled.unheld index p)
  | restarted now =>
    refine ⟨?_, fun i p holder => by simp [Holder] at holder, ?_⟩
    · rw [contacts_concat, unfiled.uncontacted]
      rfl
    · exact (getRaw_reopened s.store now task).elim (·.trans unfiled.unstored) id

/-! ## What is filed -/

/-- The holder of the task knows what the history shows, and the history files
the task once. -/
structure Filing (task : String) (s : System) : Prop where
  sound : s.Sound
  follows : ∀ i p, s.Holder task i p → p.Follows task s.history
  lawful : Obeys (FilesOnce task) s.history

theorem filing_step (filing : s.Filing task) {label : Label}
    (fresh : label.starts task = true → s.Unfiled task) : (s.step cfg label).Filing task := by
  have sound := filing.sound
  have later := sound_step sound cfg label
  have seen := seen sound cfg task label
  generalize s.step cfg label = after at later seen ⊢
  cases seen with
  | apart apart =>
    obtain ⟨log, history, silent⟩ := apart.history
    refine ⟨later, fun i p holder => ?_, ?_⟩
    · rw [history]
      exact (filing.follows i p ((apart.holders i p).mp holder)).later silent
    · rw [history]
      exact filing.lawful.append fun event member _ => (silent event member).filesOnce
  | entered entrance free own =>
    refine ⟨later, fun i p holder => ?_, Obeys.concat_iff.mpr ⟨filing.lawful, ?_⟩⟩
    · obtain ⟨_, rfl⟩ := (sound.holder_entered_iff free own rfl).mp holder
      cases entrance with
      | start call tx same =>
        have unfiled := fresh (by simp [Label.starts, same])
        refine ⟨?_, ?_, by simp⟩
        · rw [contacts_concat, unfiled.uncontacted]
          rfl
        · simp [known_concat, Happening.upstream]
      | claim _ record =>
        show known task _ = record.upstreamTaskId
        simp [known_concat, Happening.upstream]
    · cases entrance <;> trivial
  | moved index turn p mover =>
    have follows := filing.follows index p mover
    refine ⟨later, fun i p holder => ?_, ?_⟩
    · obtain ⟨_, rfl, _⟩ := (sound.holder_moved_iff mover rfl).mp holder
      exact follows.move mover.2 cfg turn
    · rcases Process.move_log (w := s.toShared) s.history mover.2 cfg turn with
        nothing | ⟨event, shown, _, _, allowed⟩
      · simpa [nothing] using filing.lawful
      · simp only [shown]
        exact Obeys.concat_iff.mpr ⟨filing.lawful, allowed follows⟩
  | restarted now =>
    exact ⟨later, fun i p holder => by simp [Holder] at holder,
      Obeys.concat_iff.mpr ⟨filing.lawful, trivial⟩⟩

/-! ## What a claim reads -/

end System

def Happening.isRestart : Happening → Bool
  | .restarted => true
  | _ => false

/-- What has happened since the last restart. -/
def sinceRestart (history : List Happening) : List Happening :=
  history.rtakeWhile (!·.isRestart)

/-- A task is claimed only as long as nothing has been said about its upstream id
since the last restart: what the claim reads was stored before. -/
def ClaimsAfterRestart (task : String) (before : List Happening) : Happening → Prop
  | .claimed id _ => id = task → ∀ event ∈ sinceRestart before, event.upstream task = none
  | _ => True

theorem mem_of_mem_sinceRestart_append {history log : List Happening} {event : Happening}
    (member : event ∈ sinceRestart (history ++ log)) :
    event ∈ sinceRestart history ∨ event ∈ log := by
  induction log using List.reverseRecOn with
  | nil =>
    rw [List.append_nil] at member
    exact .inl member
  | append_singleton log last ih =>
    rw [← List.append_assoc, sinceRestart, List.rtakeWhile_concat] at member
    split at member
    · rcases List.mem_append.mp member with earlier | here
      · exact (ih earlier).imp_right (List.mem_append_left _)
      · exact .inr (List.mem_append_right _ here)
    · cases member

theorem sinceRestart_restarted (history : List Happening) :
    sinceRestart (history ++ [.restarted]) = [] := by
  simp [sinceRestart, Happening.isRestart]

theorem claimsAfterRestart_of_ne {task : String} {event : Happening}
    (unclaimed : ∀ up, event ≠ .claimed task up) (before : List Happening) :
    ClaimsAfterRestart task before event := by
  cases event with
  | claimed id up =>
    intro same
    exact absurd (same ▸ rfl) (unclaimed up)
  | _ => trivial

namespace System

variable {task : String} {s : System} {cfg : Runner}

/-- A task that the present lifetime knows of is held, or over in the store. -/
structure Settled (task : String) (s : System) : Prop extends Orderly s where
  unrefused : ∀ i error, ¬ s.Holder task i (.refusing task error)
  heldOrEnded : (∃ event ∈ sinceRestart s.history, event.upstream task ≠ none) →
    (∃ i p, s.Holder task i p) ∨
      ∀ stored, s.store.getRaw task = some stored → stored.state.isTerminal = true
  lawful : Obeys (ClaimsAfterRestart task) s.history

theorem unrefused_step (settled : s.Settled task) {label : Label}
    (calm : s.Undisturbed cfg label) (i : Nat) (error : String) :
    ¬ (s.step cfg label).Holder task i (.refusing task error) := by
  have seen := seen settled.toSound cfg task label
  unfold Undisturbed at calm
  generalize s.step cfg label = after at seen calm ⊢
  intro holder
  cases seen with
  | apart apart => exact settled.unrefused i error ((apart.holders _ _).mp holder)
  | entered entrance free own =>
    obtain ⟨_, rfl⟩ := (settled.holder_entered_iff free own rfl).mp holder
    cases entrance
  | moved index turn p mover =>
    obtain ⟨_, refusing, _⟩ := (settled.holder_moved_iff mover rfl).mp holder
    have moved := p.moved cfg s.toShared turn
    generalize p.move cfg s.toShared turn = reached at moved refusing
    cases moved with
    | refuses call _ error failed =>
      rw [calm.1, TaskStore.put_ok] at failed
      cases failed
    | _ => cases refusing
  | restarted now => simp [Holder] at holder

theorem heldOrEnded_step (settled : s.Settled task) {label : Label} {event : Happening}
    (member : event ∈ sinceRestart (s.step cfg label).history)
    (said : event.upstream task ≠ none) :
    (∃ i p, (s.step cfg label).Holder task i p) ∨
      ∀ stored, (s.step cfg label).store.getRaw task = some stored →
        stored.state.isTerminal = true := by
  have seen := seen settled.toSound cfg task label
  generalize s.step cfg label = after at seen member ⊢
  cases seen with
  | apart apart =>
    obtain ⟨log, history, silent⟩ := apart.history
    have earlier : event ∈ sinceRestart s.history := by
      rw [history] at member
      rcases mem_of_mem_sinceRestart_append member with here | new
      · exact here
      · exact absurd (silent event new).upstream said
    refine (settled.heldOrEnded ⟨event, earlier, said⟩).imp ?_ ?_
    · exact fun ⟨i, p, holder⟩ => ⟨i, p, (apart.holders i p).mpr holder⟩
    · intro ended rec found
      rcases apart.stored with same | ⟨_, gone⟩
      · exact ended rec (same ▸ found)
      · rw [gone] at found
        cases found
  | entered entrance free own =>
    exact .inl ⟨_, _, (settled.holder_entered_iff free own rfl).mpr ⟨rfl, rfl⟩⟩
  | moved index turn p holder =>
    rcases (Process.move_confined cfg turn settled.keyed holder.2).entry with
      ⟨still, _⟩ | ⟨ended, _⟩
    · exact .inl ⟨index, _, (settled.holder_moved_iff holder rfl).mpr ⟨rfl, rfl, still⟩⟩
    · -- the entry is given up, and the turn that does so writes nothing
      right
      simp only [(Process.eq_of_move_ended cfg ended).1]
      refine settled.ended_of_gives_up holder ended fun held error refusing => ?_
      subst refusing
      cases holder.2
      exact settled.unrefused index error holder
  | restarted now =>
    rw [sinceRestart_restarted] at member
    cases member

theorem claimsAfterRestart_step (settled : s.Settled task) (label : Label) :
    Obeys (ClaimsAfterRestart task) (s.step cfg label).history := by
  have seen := seen settled.toSound cfg task label
  generalize s.step cfg label = after at seen ⊢
  cases seen with
  | apart apart =>
    obtain ⟨log, history, silent⟩ := apart.history
    rw [history]
    refine settled.lawful.append fun event member => claimsAfterRestart_of_ne ?_
    rintro up rfl
    simpa [Happening.upstream] using (silent _ member).upstream
  | entered entrance free =>
    refine Obeys.concat_iff.mpr ⟨settled.lawful, ?_⟩
    cases entrance with
    | start => trivial
    | claim _ record _ _ stored running =>
      intro _ event member
      -- a task this lifetime knows of is held, or over in the store
      by_contra said
      rcases settled.heldOrEnded ⟨event, member, said⟩ with ⟨i, p, holder⟩ | ended
      · exact settled.unheld free i p holder
      · rw [ended record stored] at running
        cases running
  | moved index turn p holder =>
    refine settled.lawful.append fun event member => ?_
    rcases Process.move_log (w := s.toShared) s.history holder.2 cfg turn with
      nothing | ⟨only, shown, _, unclaimed, _⟩
    · rw [nothing] at member
      cases member
    · rw [shown] at member
      cases List.mem_singleton.mp member
      exact claimsAfterRestart_of_ne unclaimed
  | restarted now => exact Obeys.concat_iff.mpr ⟨settled.lawful, trivial⟩

theorem settled_step (settled : s.Settled task) {label : Label}
    (calm : s.Undisturbed cfg label) : (s.step cfg label).Settled task where
  toOrderly := orderly_step settled.toOrderly label calm
  unrefused := unrefused_step settled calm
  heldOrEnded := fun ⟨_, member, said⟩ => heldOrEnded_step settled member said
  lawful := claimsAfterRestart_step settled label

/-- Along every interleaving, with restarts and failing writes, a task that is
started once is dispatched at most once; every other contact resumes the upstream
task that is known by then, without files. Where no write fails and no record is
evicted or past its age, what a claim reads was stored before the last restart. -/
theorem filed_once (cfg : Runner) (db : Option Database) (task : String)
    (labels : List Label) (once : labels.countP (Label.starts task) ≤ 1) :
    (contacts task (run (step cfg) (init db) labels).history).countP
        Contact.isDispatch ≤ 1 ∧
      Obeys (FilesOnce task) (run (step cfg) (init db) labels).history ∧
      (EveryStep (step cfg) (Undisturbed cfg) (init db) labels →
        Obeys (ClaimsAfterRestart task) (run (step cfg) (init db) labels).history) := by
  have quiet : ∀ (s : System) (label : Label), s.Sound ∧ s.Unfiled task → True →
      label.starts task = false → (s.step cfg label).Sound ∧ (s.step cfg label).Unfiled task :=
    fun s label here _ other =>
      ⟨sound_step here.1 cfg label, unfiled_step here.1 here.2 other⟩
  have files : ∀ (s : System) (label : Label), s.Filing task →
      (label.starts task = true → s.Sound ∧ s.Unfiled task) → (s.step cfg label).Filing task :=
    fun s label filing fresh => filing_step filing fun starts => (fresh starts).2
  have settles : ∀ (s : System) (label : Label), s.Settled task → s.Undisturbed cfg label →
      (s.step cfg label).Settled task :=
    fun s label settled calm => settled_step settled calm
  have fresh := everyStep_of_countP_le_one quiet
    ⟨sound_init db, unfiled_init db⟩
    (everyStep_of_forall_mem (fun _ _ _ => trivial) _) once
  have filing := run_invariant files
    ⟨sound_init db, fun _ _ holder => by simp [init, Holder] at holder, .nil⟩ fresh
  refine ⟨dispatches_le_one filing.lawful, filing.lawful, fun calm => ?_⟩
  have settled : (init db).Settled task :=
    { orderly_init db with
      unrefused := fun _ _ holder => by simp [init, Holder] at holder
      heldOrEnded := by rintro ⟨_, ⟨⟩, _⟩
      lawful := .nil }
  exact (run_invariant settles settled calm).lawful

/-- A task whose stream breaks after it was filed, and which is claimed after a
restart. -/
def brokenTask : List Label :=
  let turn : Input → Label := fun input => .move 0 ⟨0, none, input⟩
  let caller : Principal := ⟨"alice", [], [], "acme", "", "t1", none, none, none⟩
  let record := TaskRecord.new 0 "t1" "c1" "agent" none
  [.start ⟨record, .dispatch .null, caller, "a2a", {}, .now⟩, turn .proceed, turn .proceed,
    turn (.opened (.ok ())), turn (.event (.task (.object [("task_id", .string "u1")]))),
    turn .proceed, turn .ended, .tick 250, turn .proceed, turn .proceed, .restart 0,
    .ensure record caller 0, turn .proceed, turn .proceed]

/-- The broken task is dispatched once, and resumed twice under the id its
upstream gave it. -/
theorem broken_task_filed_once :
    ((contacts "t1" (run (step plainRunner) (init (some plainDatabase)) brokenTask).history).map
        Contact.isDispatch = [true, false, false] ∧
      known "t1" (run (step plainRunner) (init (some plainDatabase)) brokenTask).history =
        some "u1") ∧
    Obeys (FilesOnce "t1") (run (step plainRunner) (init (some plainDatabase)) brokenTask).history ∧
      Obeys (ClaimsAfterRestart "t1")
        (run (step plainRunner) (init (some plainDatabase)) brokenTask).history := by
  obtain ⟨_, files, claims⟩ := filed_once plainRunner (some plainDatabase) "t1"
    brokenTask (by decide)
  have kept : EveryStep (step plainRunner) (fun s label => s.keepsRows plainRunner label = true)
      (init (some plainDatabase)) brokenTask := by
    decide
  exact ⟨⟨by decide, by decide⟩, files, claims (kept.imp fun _ _ => undisturbed_of_keepsRows)⟩

end System

end Triton.Tasks
