/-
# The channels of a running service

Only its holder can change what a task's channel and record tell, and a channel whose
entry is gone stays as it was left.
-/

import Triton.Tasks.Telling

namespace Triton.Tasks

open Triton.Lib

namespace System

variable {task : String} {s after : System} {cfg : Runner} {p : Process} {index tx : Nat}
  {turn : Turn} {label : Label}

/-- On the way to `after`, the store shows the task's holder its record and takes
its writes, and the record is neither lost nor unreadable. Whatever becomes of other tasks is left
open, and so is what a restart loses. -/
def SparesTo (task : String) (s after : System) : Label → Prop
  | .move index turn =>
    (∀ p, s.procs[index]? = some p → p.holds = some task →
      turn.fault = none ∧ s.store.get turn.now task = s.store.getRaw task) ∧
    ((s.store.getRaw task).isSome = true → (after.store.getRaw task).isSome = true)
  | .start _ | .ensure _ _ _ | .tick _ | .restart _ => True

/-- For this task, the step meets no failed write, no eviction and no expired
record. -/
def Spares (cfg : Runner) (task : String) (s : System) (label : Label) : Prop :=
  s.SparesTo task (s.step cfg label) label

theorem spares_of_keepsRows (kept : s.keepsRows cfg label = true) (task : String) :
    s.Spares cfg task label := by
  cases label with
  | move index turn =>
    obtain ⟨took, shown, _⟩ := undisturbed_of_keepsRows kept
    obtain ⟨_, kept⟩ := Bool.and_eq_true_iff.mp kept
    exact ⟨fun _ _ _ => ⟨took, shown task⟩, kept_of_rowsKept kept⟩
  | start | ensure | tick | restart => trivial

/-- Where the task is spared, a step that leaves it alone leaves its record alone. -/
theorem Apart.stored_of_spares (apart : s.Apart task label after)
    (spares : s.SparesTo task after label) : after.store.getRaw task = s.store.getRaw task := by
  refine apart.stored_eq ?_
  rintro index turn rfl _
  exact spares.2

/-! ## Holders tell what is stored -/

/-- The channel of the task tells what its record says, as far as its holder has
come. -/
structure Telling (task : String) (s : System) : Prop extends Sound s where
  tells : ∀ i p tx, s.Holder task i p → s.hub.live.lookup task = some tx →
    p.Tells (s.store.getRaw task) (s.hub.sent tx)

theorem telling_init (db : Option Database) : (init db).Telling task where
  toSound := sound_init db
  tells i p tx holder := by simp [init, Holder] at holder

/-- A process that holds the task, with the channel of its entry. -/
structure Holding (task : String) (tx : Nat) (s : System) (index : Nat) (p : Process) : Prop where
  holder : s.Holder task index p
  entry : s.hub.live.lookup task = some tx
  sends : p.SendsOn tx
  tells : p.Tells (s.store.getRaw task) (s.hub.sent tx)

theorem Telling.holding (telling : s.Telling task) (holder : s.Holder task index p) :
    ∃ tx, s.Holding task tx index p := by
  obtain ⟨tx, entry, sends⟩ := telling.entry_of_holder holder
  exact ⟨tx, holder, entry, sends, telling.tells index p tx holder entry⟩

/-- A turn of the holder keeps channel and record in step. -/
theorem Holding.turned (holding : s.Holding task tx index p) (telling : s.Telling task)
    (spares : s.SparesTo task after (.move index turn)) :
    Turned (s.store.getRaw task) ((p.move cfg s.toShared turn).1.store.getRaw task)
      (s.hub.sent tx) ((p.move cfg s.toShared turn).1.hub.sent tx)
      (p.move cfg s.toShared turn).2.1 := by
  obtain ⟨took, shown⟩ := spares.1 p holding.holder.1 holding.holder.2
  exact Process.move_turned telling.keyed cfg holding.holder.2 holding.sends
    (telling.bounded task tx holding.entry) took shown holding.tells

theorem telling_step (telling : s.Telling task) (spares : s.Spares cfg task label)
    (fresh : label.starts task = true → s.Unfiled task) : (s.step cfg label).Telling task := by
  refine ⟨sound_step telling.toSound cfg label, fun i p tx holder entry => ?_⟩
  have seen := seen telling.toSound cfg task label
  unfold Spares at spares
  generalize s.step cfg label = after at seen spares holder entry ⊢
  cases seen with
  | apart apart =>
    rw [apart.entry] at entry
    rw [apart.stored_of_spares spares,
      apart.sent tx (telling.bounded task tx entry) (.inl entry)]
    exact telling.tells i p tx ((apart.holders i p).mp holder) entry
  | entered entrance free own =>
    obtain ⟨_, rfl⟩ := (telling.holder_entered_iff free own rfl).mp holder
    have made := (TaskHub.lookup_enter task task).symm.trans entry
    rw [if_pos rfl] at made
    cases made
    have ongoing : Ongoing TaskEvent.isTerminal
        ((s.hub.enter task).1.sent s.hub.channels.length) := by
      rw [show (s.hub.enter task).1.sent s.hub.channels.length = [] from
        TaskHub.sent_enter_new task]
      exact fun event member => by cases member
    cases entrance with
    | start call _ same =>
      have unstored := (fresh (by simp [Label.starts, same])).unstored
      exact ⟨ongoing, fun rec found => by rw [unstored] at found; cases found⟩
    | claim _ record _ _ stored running =>
      exact ⟨ongoing, fun rec found => by cases stored.symm.trans found; exact running⟩
  | moved index turn q mover =>
    obtain ⟨_, rfl, still⟩ := (telling.holder_moved_iff mover rfl).mp holder
    obtain ⟨channel, holding⟩ := telling.holding mover
    have same : tx = channel := by
      rcases (Process.move_confined (w := s.toShared) cfg turn telling.keyed mover.2).entry with
        ⟨_, live⟩ | ⟨ended, _⟩
      · simp only [live] at entry
        exact Option.some.inj (entry.symm.trans holding.entry)
      · rw [ended] at still
        cases still
    rw [same]
    exact (holding.turned telling spares).tells
  | restarted now => simp [Holder] at holder

/-! ## A channel from its first event to its close -/

/-- The channel is the task's: it is entered under it, or was until the task came
to its end. -/
structure Attached (task : String) (tx : Nat) (s : System) : Prop where
  inside : tx < s.hub.channels.length
  entry : s.hub.live.lookup task = some tx ∨
    s.hub.isOpen tx = false ∧ task ∉ s.hub.live ∧
      Concluded (s.store.getRaw task) (s.hub.sent tx)

/-- Whoever finds the channel closed without an ending finds one in the store. -/
def Assured (task : String) (tx : Nat) (s : System) : Prop :=
  (s.store.getRaw task).isSome = true ∨ (∃ i run, s.Holder task i (.running run)) ∨
    ∃ last, EndsWith TaskEvent.isTerminal (s.hub.sent tx) last

/-- The task has come to its end: stored, sent, or by the close of its channel. -/
def Decided (task : String) (tx : Nat) (s : System) : Prop :=
  Final (s.store.getRaw task) (s.hub.sent tx) ∨ s.hub.isOpen tx = false

/-- What a step does to the task's channel and record. -/
structure Advances (task : String) (tx : Nat) (s after : System) : Prop where
  attached : after.Attached task tx
  grows : Grows TaskEvent.isTerminal (s.hub.sent tx) (after.hub.sent tx)
  final : s.Decided task tx → after.store.getRaw task = s.store.getRaw task
  closed : s.hub.isOpen tx = false → after.hub.isOpen tx = false
  kept : (s.store.getRaw task).isSome = true → (after.store.getRaw task).isSome = true
  assured : s.Assured task tx → after.Assured task tx

theorem Attached.advances_of_apart (attached : s.Attached task tx)
    (apart : s.Apart task label after) (spares : s.SparesTo task after label) :
    s.Advances task tx after := by
  have sent := apart.sent tx attached.inside (attached.entry.imp_right And.left)
  have stored := apart.stored_of_spares spares
  constructor
  · refine ⟨Nat.lt_of_lt_of_le attached.inside apart.longer, ?_⟩
    rw [apart.entry, sent, stored, ← AList.lookup_eq_none, apart.entry, AList.lookup_eq_none]
    exact attached.entry.imp_right (And.imp_left (apart.closed tx attached.inside))
  · exact .inl sent
  · exact fun _ => stored
  · exact apart.closed tx attached.inside
  · rw [stored]
    exact id
  · unfold Assured
    rw [stored, sent]
    rintro (known | ⟨i, run, holder⟩ | told)
    · exact .inl known
    · exact .inr (.inl ⟨i, run, (apart.holders i _).mpr holder⟩)
    · exact .inr (.inr told)

/-- A turn of the holder keeps the entry or gives it up with the channel
concluded. -/
theorem Holding.attached (holding : s.Holding task tx index p) (telling : s.Telling task)
    (hub : after.hub = (p.move cfg s.toShared turn).1.hub)
    (turned : Turned (s.store.getRaw task) (after.store.getRaw task) (s.hub.sent tx)
      (after.hub.sent tx) (p.move cfg s.toShared turn).2.1) : after.Attached task tx := by
  have entry := holding.entry
  have confined := Process.move_confined (w := s.toShared) cfg turn telling.keyed holding.holder.2
  refine ⟨?_, ?_⟩
  · rw [hub, (confined.sends tx holding.sends).2.length]
    exact telling.bounded task tx entry
  · rcases confined.entry with ⟨_, live⟩ | ⟨ended, live⟩
    · rw [hub, live]
      exact .inl entry
    · have concluded := turned.tells
      rw [ended] at concluded
      refine .inr ⟨TaskHub.isOpen_eq_false_iff.mpr fun id => ?_, ?_, concluded⟩
      · rw [hub, live, TaskHub.lookup_close]
        split
        · exact fun absurd => by cases absurd
        · rename_i different
          exact fun shared => different (telling.unshared id task tx shared entry)
      · rw [hub, ← AList.lookup_eq_none, live, TaskHub.lookup_close, if_pos rfl]

/-- A runner goes on, unless it has announced the end already. -/
theorem Holding.assured (holding : s.Holding task tx index p) (telling : s.Telling task)
    (procs : after.procs = s.procs.set index (p.move cfg s.toShared turn).2.1)
    (kept : (s.store.getRaw task).isSome = true → (after.store.getRaw task).isSome = true)
    (grows : Grows TaskEvent.isTerminal (s.hub.sent tx) (after.hub.sent tx))
    (assured : s.Assured task tx) : after.Assured task tx := by
  have announced : ∀ last, EndsWith TaskEvent.isTerminal (s.hub.sent tx) last →
      after.Assured task tx := fun last ends =>
    .inr (.inr ⟨last, (grows.eq_of_endsWith ends).symm ▸ ends⟩)
  rcases assured with stored | ⟨i, run, runs⟩ | ⟨last, ends⟩
  · exact .inl (kept stored)
  · obtain ⟨rfl, rfl⟩ := telling.eq_of_holder holding.holder runs
    rcases Process.move_running (w := s.toShared) telling.keyed cfg turn run with
      ⟨next, still, same⟩ | closing
    · rw [still] at procs
      refine .inr (.inl ⟨index, next, (telling.holder_moved_iff runs procs).mpr ⟨rfl, rfl, ?_⟩⟩)
      exact (congrArg some same).trans runs.2
    · have told := holding.tells.2
      rw [closing] at told
      obtain ⟨last, ends, _⟩ := told
      exact announced last ends
  · exact announced last ends

/-- A turn of the holder takes its channel forward, or closes it. -/
theorem Attached.advances_of_move (attached : s.Attached task tx) (telling : s.Telling task)
    (holder : s.Holder task index p) (store : after.store = (p.move cfg s.toShared turn).1.store)
    (hub : after.hub = (p.move cfg s.toShared turn).1.hub)
    (procs : after.procs = s.procs.set index (p.move cfg s.toShared turn).2.1)
    (spares : s.SparesTo task after (.move index turn)) : s.Advances task tx after := by
  obtain ⟨channel, holding⟩ := telling.holding holder
  have same : channel = tx := by
    rcases attached.entry with here | ⟨_, free, _⟩
    · exact Option.some.inj (holding.entry.symm.trans here)
    · exact absurd holding.entry (lookup_ne_some_of_notMem free channel)
  subst same
  have isOpen : s.hub.isOpen channel ≠ false := fun shut =>
    TaskHub.isOpen_eq_false_iff.mp shut task holding.entry
  have turned : Turned (s.store.getRaw task) (after.store.getRaw task) (s.hub.sent channel)
      (after.hub.sent channel) (p.move cfg s.toShared turn).2.1 := by
    rw [store, hub]
    exact holding.turned telling spares
  exact
    { attached := holding.attached telling hub turned
      grows := turned.grows
      final := fun decided => decided.elim turned.final fun shut => absurd shut isOpen
      closed := fun shut => absurd shut isOpen
      kept := spares.2
      assured := holding.assured telling procs spares.2 turned.grows }

/-- Short of a restart and of another start, every step takes the channel forward
or leaves it as it is. -/
theorem Attached.advances (attached : s.Attached task tx) (telling : s.Telling task)
    (spares : s.Spares cfg task label) (other : label.starts task = false)
    (stays : ∀ now, label ≠ .restart now) : s.Advances task tx (s.step cfg label) := by
  have seen := seen telling.toSound cfg task label
  unfold Spares at spares
  generalize s.step cfg label = after at seen spares ⊢
  cases seen with
  | apart apart => exact attached.advances_of_apart apart spares
  | entered entrance free =>
    cases entrance with
    | start _ _ same => simp [Label.starts, same] at other
    | claim _ record _ _ stored running =>
      rcases attached.entry with entry | ⟨_, _, concluded⟩
      · exact absurd entry (lookup_ne_some_of_notMem free tx)
      · rw [concluded.isTerminal stored] at running
        cases running
  | moved index turn p holder => exact attached.advances_of_move telling holder rfl rfl rfl spares
  | restarted now => exact absurd rfl (stays now)

theorem Advances.decided (advances : s.Advances task tx after) (decided : s.Decided task tx) :
    after.Decided task tx := by
  have same := advances.final decided
  rcases decided with (stored | ⟨last, ends⟩) | shut
  · exact .inl (.inl (same ▸ stored))
  · exact .inl (.inr ⟨last, (advances.grows.eq_of_endsWith ends).symm ▸ ends⟩)
  · exact .inr (advances.closed shut)

/-! ## What a reader can rely on -/

theorem Attached.shape (attached : s.Attached task tx) (telling : s.Telling task) :
    Ongoing TaskEvent.isTerminal (s.hub.sent tx) ∨
      ∃ last, EndsWith TaskEvent.isTerminal (s.hub.sent tx) last ∧
        ∀ rec, s.store.getRaw task = some rec → last.Fits rec := by
  rcases attached.entry with entry | ⟨_, _, concluded⟩
  · obtain ⟨i, p, holder⟩ := telling.holder_of_entry entry
    have tells := telling.tells i p tx holder entry
    cases p with
    | starting | claiming | failing => exact .inl tells.1
    | refusing => exact tells.elim
    | running run =>
      have tells := tells.2
      cases phase : run.phase with
      | closing =>
        rw [phase] at tells
        exact .inr tells
      | telling event =>
        rw [phase] at tells
        exact .inl tells.2.1
      | _ =>
        rw [phase] at tells
        exact .inl tells.1
    | ended => cases holder.2
  · rcases concluded with told | ⟨ongoing, _⟩
    · exact .inr told
    · exact .inl ongoing

/-- A closed channel that has not told the end, or not to everyone, leaves it in
the store. -/
theorem Attached.stored_of_closed (attached : s.Attached task tx) (telling : s.Telling task)
    (assured : s.Assured task tx) (shut : s.hub.isOpen tx = false)
    (untold : Ongoing TaskEvent.isTerminal (s.hub.sent tx) ∨
      (s.store.getRaw task).isSome = true) :
    ∃ rec, s.store.getRaw task = some rec ∧ rec.state.isTerminal = true := by
  rcases attached.entry with entry | ⟨_, free, concluded⟩
  · exact absurd entry (TaskHub.isOpen_eq_false_iff.mp shut task)
  · have stored : (s.store.getRaw task).isSome = true := by
      rcases untold with ongoing | stored
      · rcases assured with stored | ⟨i, run, runs⟩ | ⟨last, ends⟩
        · exact stored
        · exact absurd runs (telling.unheld free i _)
        · exact absurd ongoing ends.not_ongoing
      · exact stored
    obtain ⟨rec, found⟩ := Option.isSome_iff_exists.mp stored
    exact ⟨rec, found, concluded.isTerminal found⟩

/-! ## Readers of a task -/

section Readers

universe v

variable {β : Type v} {isEnding : β → Bool} {fits : TaskRecord → β → Prop} {r : Reader β}
  {tell : TaskEvent → List β} {closing : List β}

/-- The reader has an ending before it, or has told one that fits the record. -/
def Heeds (isEnding : β → Bool) (fits : TaskRecord → β → Prop) (task : String) (tx : Nat)
    (s : System) (r : Reader β) : Prop :=
  r.Waits TaskEvent.isTerminal isEnding (s.hub.sent tx) ((s.store.getRaw task).isSome = true) ∨
    r.Stopped isEnding (fun last => ∀ rec, s.store.getRaw task = some rec → fits rec last) ∧
      s.Decided task tx

theorem Heeds.advance (heeds : s.Heeds isEnding fits task tx r) {after : System}
    (advances : s.Advances task tx after) : after.Heeds isEnding fits task tx r := by
  rcases heeds with waits | ⟨stopped, decided⟩
  · exact .inl (waits.grow advances.grows advances.kept)
  · refine .inr ⟨⟨stopped.finished, ?_⟩, advances.decided decided⟩
    rw [advances.final decided]
    exact stopped.ends

/-- A reader that tells the events and the stored end as what they are tells the
end of the task. -/
theorem Attached.tells (attached : s.Attached task tx) (telling : s.Telling task)
    (assured : s.Assured task tx)
    (goesOn : ∀ event : TaskEvent, event.isTerminal = false → Ongoing isEnding (tell event))
    (ends : ∀ event : TaskEvent, event.isTerminal = true →
      ∃ last, EndsWith isEnding (tell event) last ∧
        ∀ rec, s.store.getRaw task = some rec → event.Fits rec → fits rec last)
    (closes : ∀ rec, s.store.getRaw task = some rec → rec.state.isTerminal = true →
      ∃ last, EndsWith isEnding closing last ∧ fits rec last) :
    Reader.Tells TaskEvent.isTerminal isEnding (s.hub.sent tx) (s.hub.isOpen tx)
      ((s.store.getRaw task).isSome = true)
      (fun last => ∀ rec, s.store.getRaw task = some rec → fits rec last) tell closing where
  goesOn := goesOn
  ends event sent := by
    rcases attached.shape telling with ongoing | ⟨final, isLast, agrees⟩
    · exact absurd ongoing sent.not_ongoing
    · cases sent.eq_last isLast
      obtain ⟨before, _, _, terminal⟩ := sent
      obtain ⟨last, told, right⟩ := ends event terminal
      exact ⟨last, told, fun rec found => right rec found (agrees rec found)⟩
  closes shut untold := by
    obtain ⟨rec, stored, ended⟩ := attached.stored_of_closed telling assured shut untold
    obtain ⟨last, told, right⟩ := closes rec stored ended
    refine ⟨last, told, fun again found => ?_⟩
    cases stored.symm.trans found
    exact right

/-- A round of such a reader keeps it so. -/
theorem Heeds.poll (heeds : s.Heeds isEnding fits task tx r) (attached : s.Attached task tx)
    (telling : s.Telling task) {capacity : Nat} (room : 0 < capacity)
    (tells : Reader.Tells TaskEvent.isTerminal isEnding (s.hub.sent tx) (s.hub.isOpen tx)
      ((s.store.getRaw task).isSome = true)
      (fun last => ∀ rec, s.store.getRaw task = some rec → fits rec last) tell closing) :
    s.Heeds isEnding fits task tx
      (r.poll TaskEvent.isTerminal capacity (s.hub.sent tx) (s.hub.isOpen tx) tell closing) := by
  rcases heeds with waits | ⟨stopped, decided⟩
  · have shape : Ongoing TaskEvent.isTerminal (s.hub.sent tx) ∨
        ∃ last, EndsWith TaskEvent.isTerminal (s.hub.sent tx) last :=
      (attached.shape telling).imp_right fun ⟨last, ends, _⟩ => ⟨last, ends⟩
    rcases waits.poll room shape tells with waits | ⟨stopped, told | shut⟩
    · exact .inl waits
    · exact .inr ⟨stopped, .inl (.inr told)⟩
    · exact .inr ⟨stopped, .inr shut⟩
  · rw [Reader.poll_of_isOver stopped.finished]
    exact .inr ⟨stopped, decided⟩

/-- What such a reader has told: no ending, or one that fits as the last. -/
theorem Heeds.told (heeds : s.Heeds isEnding fits task tx r) :
    (r.isOver = false → Ongoing isEnding r.told) ∧
      (r.isOver = true → ∃ last, EndsWith isEnding r.told last ∧
        ∀ rec, s.store.getRaw task = some rec → fits rec last) := by
  rcases heeds with waits | ⟨stopped, _⟩
  · exact ⟨fun _ => waits.quiet,
      fun isOver => absurd (waits.unfinished.symm.trans isOver) Bool.false_ne_true⟩
  · exact ⟨fun going => absurd (going.symm.trans stopped.finished) Bool.false_ne_true,
      fun _ => stopped.ends⟩

end Readers

end System

end Triton.Tasks
