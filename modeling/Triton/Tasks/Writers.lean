/-
# The writers of one task

A runner, a courier, the recovery at boot and readers write the record of the
same task: by `update`, which leaves the task's end alone, by `update_running`,
by failing the task and by the completing write of its run. All of them read,
check and write under the lock of the store, one turn at a time, with the clock
and the database as each turn finds them.

The end of a task is final, and no write is lost that the database takes and reads
again. A write it refuses is, and so is one it cannot read: the caller gets the changed
record all the same.
-/

import Triton.Lib.Locked
import Triton.Tasks.Runner

namespace Triton.Tasks

open Triton.Lib

/-- How a record says the task has ended. -/
structure TaskEnding where
  state : TaskState
  result : Option Value
  resultText : Option String
  error : Option String
  errorClass : Option String

def TaskRecord.ending (rec : TaskRecord) : TaskEnding :=
  ⟨rec.state, rec.result, rec.resultText, rec.error, rec.errorClass⟩

/-- A change that leaves the record's id alone. -/
structure Closure where
  apply : TaskRecord → TaskRecord
  id_apply : ∀ rec, (apply rec).id = rec.id

/-- A change that leaves the end of the task alone too. -/
structure Touch extends Closure where
  ending_apply : ∀ rec, (apply rec).ending = rec.ending

inductive Writer where
  | update (touch : Touch)
  | updateRunning (closure : Closure)
  | fail (errorClass message : String)
  | finish (outcome : Outcome)

/-- What a turn finds: the clock, the clock again when the write prunes, and what
the database says to the write. -/
structure Found where
  now : Int
  later : Int
  fault : Option String

namespace Writer

/-- Does the writer leave a finished task alone? -/
def isGuarded : Writer → Bool
  | .update _ => false
  | .updateRunning _ | .fail _ _ | .finish _ => true

def failing (errorClass message : String) : Closure where
  apply r :=
    { r with
      state := .failed
      errorClass := some errorClass
      error := some (clamp message resultTextMaxBytes) }
  id_apply _ := rfl

def completing (cfg : Runner) (value : Value) : Closure where
  apply r :=
    { r with
      state := .completed
      resultText := some (clamp (cfg.render value) resultTextMaxBytes)
      result := if (cfg.jsonLen value).any (· ≤ resultJsonMaxBytes) then some value else none }
  id_apply _ := rfl

def closure (cfg : Runner) : Writer → Closure
  | .update touch => touch.toClosure
  | .updateRunning closure => closure
  | .fail errorClass message => failing errorClass message
  | .finish (.ok value) => completing cfg value
  | .finish (.error (errorClass, message)) => failing errorClass message

end Writer

/-- How the writers edit the record of `id`. -/
def editing (cfg : Runner) (id : String) : Editing TaskStore TaskRecord Writer Found where
  read s found := s.get found.now id
  admits writer rec := !(writer.isGuarded && rec.state.isTerminal)
  change writer found rec := { (writer.closure cfg).apply rec with updatedMs := found.now }
  write s found rec := (s.put found.later found.fault rec).1

/-- A writer with nobody between its turns is the method of the store. -/
theorem alone_eq (cfg : Runner) (id : String) (s : TaskStore) (writer : Writer) (now : Int)
    (fault : Option String) :
    (editing cfg id).alone s ⟨writer, ⟨now, now, fault⟩, ⟨now, now, fault⟩⟩ =
      match writer with
      | .update touch => (s.update now fault id touch.apply).1
      | .updateRunning closure => (s.updateRunning now fault id closure.apply).1
      | .fail errorClass message => (s.fail now fault id errorClass message).1
      | .finish outcome => s.finish cfg now fault id outcome := by
  have running : ∀ closure : Closure, ∀ writer : Writer, writer.isGuarded = true →
      writer.closure cfg = closure →
      (editing cfg id).alone s ⟨writer, ⟨now, now, fault⟩, ⟨now, now, fault⟩⟩ =
        (s.updateRunning now fault id closure.apply).1 := by
    intro closure writer guarded same
    simp only [Editing.alone, editing, guarded, same, TaskStore.updateRunning]
    cases s.get now id with
    | none => rfl
    | some rec => cases ended : rec.state.isTerminal <;> simp [ended]
  cases writer with
  | update touch =>
    simp only [Editing.alone, editing, Writer.isGuarded, TaskStore.update]
    cases s.get now id <;> rfl
  | updateRunning closure => exact running closure _ rfl rfl
  | fail errorClass message => exact running _ _ rfl rfl
  | finish outcome =>
    cases outcome with
    | ok value | error reason => exact running _ _ rfl rfl

/-! ## One edit after the other -/

def TaskStore.isPersistent (s : TaskStore) : Bool :=
  match s.backend with
  | .memory _ => false
  | .sqlite _ _ => true

/-- The store takes the write; only a database refuses one. -/
def takes (persistent : Bool) (found : Found) : Bool := !persistent || found.fault.isNone

/-- The store gives the record back as it was written. -/
def TaskStore.Keeps (s : TaskStore) (rec : TaskRecord) : Prop :=
  match s.backend with
  | .memory _ => True
  | .sqlite codec _ => codec.Keeps rec

/-- The record after some edits: the closures of those the store took, one applied
to the outcome of the other. -/
def replay (cfg : Runner) (persistent : Bool) (rec : TaskRecord)
    (edits : List (Edit Writer Found)) : TaskRecord :=
  edits.foldl (fun rec edit =>
    if takes persistent edit.write then
      { (edit.op.closure cfg).apply rec with updatedMs := edit.write.now }
    else rec) rec

/-- The prune of a write comes within the retention period after its stamp. -/
def Prompt (retentionMs : Int) (found : Found) : Prop := found.later - retentionMs ≤ found.now

variable {cfg : Runner} {id : String} {s : TaskStore} {rec : TaskRecord}

theorem put_keeps (s : TaskStore) (found : Found) (rec : TaskRecord) :
    (s.put found.later found.fault rec).1.isPersistent = s.isPersistent ∧
      (s.put found.later found.fault rec).1.retentionMs = s.retentionMs ∧
      (s.put found.later found.fault rec).1.Keeps = s.Keeps := by
  unfold TaskStore.Keeps
  cases backend : s.backend with
  | memory m => simp [TaskStore.put, backend, TaskStore.isPersistent]
  | sqlite codec rows =>
    cases fault : found.fault with
    | some e => simp [TaskStore.put, backend, TaskStore.isPersistent]
    | none =>
      simp only [TaskStore.put, backend]
      split <;> simp [TaskStore.prune, TaskStore.isPersistent, backend]

/-- A write that the store takes is read back, one it refuses changes nothing. -/
theorem getRaw_put_own (s : TaskStore) (found : Found) (rec : TaskRecord)
    (within : found.later - s.retentionMs ≤ rec.updatedMs)
    (kept : takes s.isPersistent found = true → s.Keeps rec) :
    (s.put found.later found.fault rec).1.getRaw rec.id =
      if takes s.isPersistent found then some rec else s.getRaw rec.id := by
  unfold TaskStore.Keeps at kept
  cases backend : s.backend with
  | memory m => simp [TaskStore.put, backend, TaskStore.getRaw, takes, TaskStore.isPersistent]
  | sqlite codec rows =>
    cases fault : found.fault with
    | some e => simp [TaskStore.put, backend, takes, TaskStore.isPersistent, fault]
    | none =>
      have taken : takes s.isPersistent found = true := by
        rw [takes, fault, Option.isNone_none, Bool.or_true]
      have back : codec.reread rec = some rec := by
        have kept := kept taken
        rwa [backend] at kept
      have read : (((TaskStore.upsert rows rec).lookup rec.id).bind fun row =>
          codec.reread row.record) = some rec := by
        rw [TaskStore.getRaw_upsert, if_pos rfl, back]
      rw [if_pos taken]
      simp only [TaskStore.put, backend]
      split
      · -- the prune spares the row just written
        simp only [TaskStore.prune, TaskStore.getRaw, Table.lookup_keep]
        rw [TaskStore.lookup_upsert, if_pos rfl] at read ⊢
        cases old : rows.lookup rec.id <;>
          simp only [Option.filter_some, decide_eq_true within, if_true, Option.bind_some, back]
      · simpa [TaskStore.getRaw] using read

theorem replay_append (persistent : Bool) (rec : TaskRecord)
    (first second : List (Edit Writer Found)) :
    replay cfg persistent rec (first ++ second) =
      replay cfg persistent (replay cfg persistent rec first) second :=
  List.foldl_append

/-- A change that does not check leaves the task's end alone. -/
theorem ending_of_unguarded {writer : Writer} (free : writer.isGuarded = false) (rec : TaskRecord) :
    ((writer.closure cfg).apply rec).ending = rec.ending := by
  cases writer with
  | update touch => exact touch.ending_apply rec
  | updateRunning | fail | finish => cases free

/-- What edits do to the record of `id`. The end of a task is final. -/
structure Edited (cfg : Runner) (id : String) (s : TaskStore) (rec : TaskRecord)
    (edits : List (Edit Writer Found)) (after : TaskStore) : Prop where
  record : after.getRaw id = some (replay cfg s.isPersistent rec edits)
  own : (replay cfg s.isPersistent rec edits).id = id
  persistent : after.isPersistent = s.isPersistent
  retention : after.retentionMs = s.retentionMs
  keeps : after.Keeps = s.Keeps
  ending : rec.state.isTerminal = true →
    (replay cfg s.isPersistent rec edits).ending = rec.ending

theorem Edited.alone {edits : List (Edit Writer Found)} {after : TaskStore}
    (edited : Edited cfg id s rec edits after) {edit : Edit Writer Found}
    (taken : (editing cfg id).Takes after edit) (prompt : Prompt s.retentionMs edit.write)
    (kept : s.Keeps (replay cfg s.isPersistent rec (edits ++ [edit]))) :
    Edited cfg id s rec (edits ++ [edit]) ((editing cfg id).alone after edit) := by
  obtain ⟨current, read, admitted⟩ := taken
  have found := TaskStore.getRaw_of_get read
  obtain rfl := Option.some.inj (found.symm.trans edited.record)
  let changed := (editing cfg id).change edit.op edit.write (replay cfg s.isPersistent rec edits)
  have changedId : changed.id = id := ((edit.op.closure cfg).id_apply _).trans edited.own
  have next : replay cfg s.isPersistent rec (edits ++ [edit]) =
      if takes s.isPersistent edit.write then changed
      else replay cfg s.isPersistent rec edits :=
    replay_append _ _ _ _
  have stored := getRaw_put_own after edit.write changed
    (by rw [edited.retention]; exact prompt) (by
    intro took
    rw [edited.persistent] at took
    rw [edited.keeps]
    rwa [next, if_pos took] at kept)
  have keeps := put_keeps after edit.write changed
  rw [changedId, edited.record, edited.persistent] at stored
  rw [(editing cfg id).alone_of_read read admitted]
  refine ⟨stored.trans ?_, ?_, keeps.1.trans edited.persistent,
    keeps.2.1.trans edited.retention, keeps.2.2.trans edited.keeps, ?_⟩
  · rw [next]
    split <;> rfl
  · rw [next]
    split
    · exact changedId
    · exact edited.own
  · intro ended
    have same := edited.ending ended
    rw [next]
    split
    · have state : (replay cfg s.isPersistent rec edits).state = rec.state :=
        congrArg TaskEnding.state same
      have free : edit.op.isGuarded = false := by simpa [editing, state, ended] using admitted
      have touched : changed.ending = (replay cfg s.isPersistent rec edits).ending :=
        ending_of_unguarded free _
      exact touched.trans same
    · exact same

/-- The stored record is that of the edits, one applied to the outcome of the
other. -/
theorem edited_run {edits : List (Edit Writer Found)}
    (effective : EveryStep (editing cfg id).alone (editing cfg id).Takes s edits)
    (found : s.getRaw id = some rec) (own : rec.id = id)
    (prompt : ∀ edit ∈ edits, Prompt s.retentionMs edit.write)
    (kept : ∀ front, front <+: edits → s.Keeps (replay cfg s.isPersistent rec front)) :
    Edited cfg id s rec edits (run (editing cfg id).alone s edits) := by
  induction edits using List.reverseRecOn with
  | nil => exact ⟨found, own, rfl, rfl, rfl, fun _ => rfl⟩
  | append_singleton edits edit ih =>
    obtain ⟨before, last⟩ := (everyStep_append _ _ _).mp effective
    obtain ⟨earlier, now⟩ := List.forall_mem_append.mp prompt
    rw [run_append, run_cons, run_nil]
    have shorter := ih before earlier fun front cut =>
      kept front (cut.trans (List.prefix_append _ _))
    exact shorter.alone last.1 (now edit List.mem_cons_self) (kept _ List.prefix_rfl)

/-! ## Every interleaving -/

/-- The writers of a task after some moves. -/
def writersAfter (cfg : Runner) (id : String) (first : TaskStore)
    (moves : List (Move Writer Found)) : Locked TaskStore TaskRecord Writer Found :=
  run (Locked.step (editing cfg id)) (Locked.start first) moves

section

variable (cfg : Runner) (id : String) (first : TaskStore) (before rest : List (Move Writer Found))

theorem serial_writersAfter :
    Locked.Serial (editing cfg id) first (writersAfter cfg id first before) :=
  Locked.serial_run (editing cfg id) first before

theorem edits_writersAfter :
    ∃ more, (writersAfter cfg id first (before ++ rest)).edits =
      (writersAfter cfg id first before).edits ++ more := by
  rw [writersAfter, run_append]
  exact Locked.edits_run (editing cfg id) (writersAfter cfg id first before) rest

end

section

variable {first : TaskStore} {stored : TaskRecord} {before rest : List (Move Writer Found)}
  (found : first.getRaw id = some stored) (own : stored.id = id)

include found own

theorem edited_writersAfter
    (prompt : ∀ i out, .turn i out ∈ before → Prompt first.retentionMs out)
    (kept : ∀ front, front <+: (writersAfter cfg id first before).edits →
      first.Keeps (replay cfg first.isPersistent stored front)) :
    Edited cfg id first stored (writersAfter cfg id first before).edits
      (writersAfter cfg id first before).store := by
  have serial := serial_writersAfter cfg id first before
  rw [serial.store]
  exact edited_run serial.effective found own
    (Locked.forall_mem_edits (editing cfg id) first prompt) kept

/-- Once the stored state is terminal, later edits leave the ending as it is. -/
theorem ending_writersAfter
    (prompt : ∀ i out, .turn i out ∈ before ++ rest → Prompt first.retentionMs out)
    (kept : ∀ front, front <+: (writersAfter cfg id first (before ++ rest)).edits →
      first.Keeps (replay cfg first.isPersistent stored front))
    (middle : (writersAfter cfg id first before).store.getRaw id = some rec)
    (ended : rec.state.isTerminal = true) :
    (replay cfg first.isPersistent stored
      (writersAfter cfg id first (before ++ rest)).edits).ending = rec.ending := by
  obtain ⟨more, all⟩ := edits_writersAfter cfg id first before rest
  have prompts := Locked.forall_mem_edits (editing cfg id) first prompt
  have effective := (serial_writersAfter cfg id first (before ++ rest)).effective
  rw [← writersAfter, all] at prompts
  rw [all, everyStep_append, ← (serial_writersAfter cfg id first before).store] at effective
  rw [all] at kept
  have edited : Edited cfg id first stored _ (writersAfter cfg id first before).store :=
    edited_writersAfter found own
      (fun i out member => prompt i out (List.mem_append_left _ member))
      fun front cut => kept front (cut.trans (List.prefix_append _ _))
  have same := Option.some.inj (middle.symm.trans edited.record)
  rw [all, replay_append, ← same, ← edited.persistent]
  -- the rest is a run of its own, from the record of the middle
  apply (edited_run effective.2 middle _ _ _).ending ended
  · rw [same]
    exact edited.own
  · rw [edited.retention]
    exact (List.forall_mem_append.mp prompts).2
  · intro front cut
    rw [edited.keeps, edited.persistent, same, ← replay_append]
    exact kept _ (List.prefix_append_right_inj _ |>.mpr cut)

end

/-- Any writers of a stored task in any interleaving, with prunes that come within the
retention period and records that the store reads as they were written. The stored
record is that of the edits that were made and taken, one applied to the outcome of the
other; a writer that answers with a record has made its edit, once, and one that answers
without has made none; a writer that was called after another had answered comes after
it; and once the stored state is terminal, how the task has ended never changes. -/
theorem writers_keep_edits_and_endings (cfg : Runner) (id : String) (first : TaskStore)
    (stored : TaskRecord) (found : first.getRaw id = some stored) (own : stored.id = id)
    (moves : List (Move Writer Found))
    (prompt : ∀ i out, .turn i out ∈ moves → Prompt first.retentionMs out)
    (kept : ∀ front, front <+: (writersAfter cfg id first moves).edits →
      first.Keeps (replay cfg first.isPersistent stored front)) :
    (writersAfter cfg id first moves).store.getRaw id =
        some (replay cfg first.isPersistent stored (writersAfter cfg id first moves).edits) ∧
      (∀ (i : ℕ) (writer : Writer) (answer : Option TaskRecord),
        (writersAfter cfg id first moves).threads[i]? = some (writer, .answered answer) →
        (answer.isSome = true ↔ ∃ read write,
          .wrote i ⟨writer, read, write⟩ ∈ (writersAfter cfg id first moves).history)) ∧
      (writersAfter cfg id first moves).writers.Nodup ∧
      (∀ i j, [.returned i, .called j].Sublist (writersAfter cfg id first moves).history →
        i ∈ (writersAfter cfg id first moves).writers →
        j ∈ (writersAfter cfg id first moves).writers →
        [i, j].Sublist (writersAfter cfg id first moves).writers) ∧
      ∀ before rest, moves = before ++ rest → ∀ rec,
        (writersAfter cfg id first before).store.getRaw id = some rec →
        rec.state.isTerminal = true →
        ∃ last, (writersAfter cfg id first moves).store.getRaw id = some last ∧
          last.ending = rec.ending := by
  have serial := serial_writersAfter cfg id first moves
  have record := (edited_writersAfter found own prompt kept).record
  refine ⟨record, fun i writer answer there => serial.wrote_iff there, serial.once,
    serial.inTime, ?_⟩
  rintro before rest rfl rec middle ended
  exact ⟨_, record, ending_writersAfter found own prompt kept middle ended⟩

/-! ### A note and a failure -/

def sampleConfig : Runner where
  taskMaxMs := 600000
  render _ := ""
  jsonLen _ := some 0

def workingTask : TaskRecord :=
  { TaskRecord.new 0 "t1" "c1" "report" none with state := .working }

def sampleDisk : TaskStore :=
  (TaskStore.put ⟨.sqlite depthLimited ∅, 86400000, 0⟩ 0 none workingTask).1

def noting (note : String) : Touch where
  apply r := { r with note := some note }
  id_apply _ := rfl
  ending_apply _ := rfl

/-- A turn at a reading, and what the database says. -/
def turnAt (i : ℕ) (now : Int) (fault : Option String) : Move Writer Found :=
  .turn i ⟨now, now, fault⟩

/-- The second writer is called while the first is at work, and waits. -/
def noteThenFail : List (Move Writer Found) :=
  [.call (.update (noting "seen")), turnAt 0 1 none, .call (.fail "tool" "broken"),
    turnAt 1 2 none, turnAt 0 3 none, turnAt 0 4 none, turnAt 0 5 none, turnAt 1 6 none,
    turnAt 1 7 none, turnAt 1 8 none]

theorem note_and_failure_kept :
    (writersAfter sampleConfig "t1" sampleDisk noteThenFail).store.getRaw "t1" =
        some { workingTask with
          state := .failed, note := some "seen", error := some "broken", errorClass := some "tool",
          updatedMs := 8 } ∧
      (writersAfter sampleConfig "t1" sampleDisk noteThenFail).writers = [0, 1] := by
  have prompt : ∀ i out, .turn i out ∈ noteThenFail → Prompt sampleDisk.retentionMs out := by
    intro i out member
    have calm : out.later = out.now := by
      simp only [noteThenFail, turnAt, List.mem_cons, Move.turn.injEq, List.not_mem_nil] at member
      rcases member with absurd | same | absurd | same | same | same | same | same | same | same |
        absurd
      all_goals first | cases absurd | rw [same.2]
    rw [Prompt, calm]
    show out.now - 86400000 ≤ out.now
    omega
  have read : ∀ front, front <+: (writersAfter sampleConfig "t1" sampleDisk noteThenFail).edits →
      sampleDisk.Keeps (replay sampleConfig sampleDisk.isPersistent workingTask front) := by
    intro front cut
    rcases List.prefix_cons_iff.mp (show front <+: [_, _] from cut) with rfl | ⟨_, rfl, next⟩
    · rfl
    · rcases List.prefix_cons_iff.mp next with rfl | ⟨_, rfl, last⟩
      · rfl
      · rw [List.prefix_nil.mp last]
        rfl
  have kept := (writers_keep_edits_and_endings sampleConfig "t1" sampleDisk workingTask rfl rfl
    noteThenFail prompt read).1
  exact ⟨kept.trans rfl, rfl⟩

/-- One writer, with what the database says to its write. -/
def aloneAt (writer : Writer) (fault : Option String) : Locked TaskStore TaskRecord Writer Found :=
  writersAfter sampleConfig "t1" sampleDisk
    [.call writer, turnAt 0 1 none, turnAt 0 2 none, turnAt 0 3 fault, turnAt 0 4 none]

set_option maxRecDepth 4000 in
/-- The database refuses a note, and takes a result that it cannot read again. Both callers
get the changed record; the note is lost, and then the whole task. -/
theorem refused_or_unread_write_is_lost :
    (∃ answer stored,
      (aloneAt (.update (noting "seen")) (some "disk full")).threads[0]? =
        some (.update (noting "seen"), .answered (some answer)) ∧
      answer.note = some "seen" ∧
      (aloneAt (.update (noting "seen")) (some "disk full")).store.getRaw "t1" = some stored ∧
      stored.note = none) ∧
    ∃ answer,
      (aloneAt (.finish (.ok (nested parserDepth))) none).threads[0]? =
        some (.finish (.ok (nested parserDepth)), .answered (some answer)) ∧
      answer.state = .completed ∧
      (aloneAt (.finish (.ok (nested parserDepth))) none).store.getRaw "t1" = none :=
  ⟨⟨_, _, rfl, rfl, rfl, rfl⟩, _, rfl, rfl, rfl⟩

end Triton.Tasks
