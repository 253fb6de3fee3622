/-
# What a task sees of a step

The hub entry of a task passes from hand to hand but is never held twice, and its
holder sends on the channel of the entry. So to a task a step is one of four
things: it leaves the task alone, but for the eviction of its record; it enters the
task, by its start or by a claim; it is a turn of the task's holder; or it is a
restart.
-/

import Triton.Tasks.Filing

namespace Triton.Tasks

open Triton.Lib Triton.Core

def Label.starts (task : String) : Label → Bool
  | .start call => call.record.id == task
  | _ => false

theorem eq_ended_of_holds_none {p : Process} (idle : p.holds = none) : p = .ended := by
  cases p with
  | ended => rfl
  | _ => cases idle

namespace System

/-! ## Holders and entries -/

/-- The process at this place holds the entry of the task. -/
def Holder (s : System) (task : String) (i : Nat) (p : Process) : Prop :=
  s.procs[i]? = some p ∧ p.holds = some task

/-- The task has no entry and no holder, or an entry and one holder, which sends on its
channel. -/
inductive Entry (task : String) (s : System) : Prop where
  | free (unentered : task ∉ s.hub.live) (unheld : ∀ i p, ¬ s.Holder task i p)
  | held (tx i : Nat) (p : Process) (entry : s.hub.live.lookup task = some tx)
      (sends : p.SendsOn tx) (alone : ∀ j q, s.Holder task j q ↔ j = i ∧ q = p)

/-- No entry is held twice or left without a holder, no two share a channel, and every
record is stored under its own id. -/
structure Sound (s : System) : Prop where
  keyed : s.store.Keyed
  entries : ∀ task, s.Entry task
  bounded : ∀ id tx, s.hub.live.lookup id = some tx → tx < s.hub.channels.length
  unshared : ∀ id other tx, s.hub.live.lookup id = some tx →
    s.hub.live.lookup other = some tx → id = other

variable {task id : String} {s after : System} {cfg : Runner} {p q : Process} {i j tx index : Nat}
  {turn : Turn} {label : Label}

theorem lookup_ne_some_of_notMem (free : task ∉ s.hub.live) (tx : Nat) :
    s.hub.live.lookup task ≠ some tx := by
  rw [AList.lookup_eq_none.mpr free]
  exact fun absurd => by cases absurd

namespace Sound

variable (sound : s.Sound)

include sound

theorem unheld (free : task ∉ s.hub.live) (i : Nat) (p : Process) : ¬ s.Holder task i p := by
  cases sound.entries task with
  | free _ unheld => exact unheld i p
  | held tx _ _ entry => exact absurd entry (lookup_ne_some_of_notMem free tx)

theorem eq_of_holder (one : s.Holder task i p) (other : s.Holder task j q) : i = j ∧ p = q := by
  cases sound.entries task with
  | free _ unheld => exact absurd one (unheld i p)
  | held _ _ _ _ _ alone =>
    obtain ⟨rfl, rfl⟩ := (alone i p).mp one
    obtain ⟨rfl, rfl⟩ := (alone j q).mp other
    exact ⟨rfl, rfl⟩

theorem entry_of_holder (holder : s.Holder task i p) :
    ∃ tx, s.hub.live.lookup task = some tx ∧ p.SendsOn tx := by
  cases sound.entries task with
  | free _ unheld => exact absurd holder (unheld i p)
  | held tx _ _ entry sends alone =>
    obtain ⟨rfl, rfl⟩ := (alone i p).mp holder
    exact ⟨tx, entry, sends⟩

theorem holder_of_entry (entry : s.hub.live.lookup task = some tx) :
    ∃ i p, s.Holder task i p := by
  cases sound.entries task with
  | free free => exact absurd entry (lookup_ne_some_of_notMem free tx)
  | held _ i p _ _ alone => exact ⟨i, p, (alone i p).mpr ⟨rfl, rfl⟩⟩

end Sound

theorem holder_append_iff (procs : after.procs = s.procs ++ [q]) :
    after.Holder task i p ↔
      s.Holder task i p ∨ i = s.procs.length ∧ p = q ∧ q.holds = some task := by
  unfold Holder
  rw [procs]
  constructor
  · rintro ⟨found, own⟩
    rcases getElem?_concat_cases found with old | ⟨rfl, rfl⟩
    · exact .inl ⟨old, own⟩
    · exact .inr ⟨rfl, rfl, own⟩
  · rintro (⟨found, own⟩ | ⟨rfl, rfl, own⟩)
    · exact ⟨by rw [List.getElem?_append_left (List.getElem?_eq_some_iff.mp found).1, found], own⟩
    · exact ⟨List.getElem?_concat_length, own⟩

theorem holder_set_iff {old next : Process} (found : s.procs[index]? = some old)
    (procs : after.procs = s.procs.set index next) :
    after.Holder task i p ↔
      if index = i then p = next ∧ next.holds = some task else s.Holder task i p := by
  unfold Holder
  rw [procs, getElem?_set_of_getElem? found]
  split
  · constructor
    · rintro ⟨⟨⟩, own⟩
      exact ⟨rfl, own⟩
    · rintro ⟨rfl, own⟩
      exact ⟨rfl, own⟩
  · rfl

/-! ## Steps, seen from one task -/

/-- A turn of this process is not one of the task's holder. -/
def Spared (s : System) (index : Nat) (task : String) : Prop :=
  ∀ p, s.procs[index]? = some p → p.holds ≠ some task

/-- The step leaves the task alone: its holder, its entry, its channel, and every channel
that is closed. A turn may evict its record. -/
structure Apart (task : String) (s : System) (label : Label) (after : System) : Prop where
  history : ∃ log, after.history = s.history ++ log ∧ ∀ event ∈ log, event.Silent task
  stored : after.store.getRaw task = s.store.getRaw task ∨
    (∃ index turn, label = .move index turn ∧ s.Spared index task) ∧
      after.store.getRaw task = none
  entry : after.hub.live.lookup task = s.hub.live.lookup task
  holders : ∀ i p, after.Holder task i p ↔ s.Holder task i p
  longer : s.hub.channels.length ≤ after.hub.channels.length
  sent : ∀ tx < s.hub.channels.length,
    s.hub.live.lookup task = some tx ∨ s.hub.isOpen tx = false →
      after.hub.sent tx = s.hub.sent tx
  closed : ∀ tx < s.hub.channels.length, s.hub.isOpen tx = false → after.hub.isOpen tx = false

/-- How a task is entered: by its start, or by the claim of a record that runs. -/
inductive Entrance (task : String) (s : System) : Label → Process → Happening → Prop where
  | start (call : StartCall) (tx : Nat) (same : call.record.id = task) :
      Entrance task s (.start call) (.starting call tx)
        (.started task call.record.upstreamTaskId call.start)
  | claim (label : Label) (record : TaskRecord) (principal : Principal) (tx : Nat)
      (stored : s.store.getRaw task = some record) (running : record.state.isTerminal = false) :
      Entrance task s label (.claiming record principal tx) (.claimed task record.upstreamTaskId)

/-- What a step can mean for a task. -/
inductive Seen (cfg : Runner) (task : String) (s : System) : Label → System → Prop where
  | apart {label : Label} {after : System} (apart : s.Apart task label after) :
      Seen cfg task s label after
  | entered {label : Label} {p : Process} {event : Happening}
      (entrance : s.Entrance task label p event) (free : task ∉ s.hub.live)
      (own : p.holds = some task) (sends : p.SendsOn s.hub.channels.length) :
      Seen cfg task s label
        { s with
          hub := (s.hub.enter task).1
          procs := s.procs ++ [p]
          history := s.history ++ [event] }
  | moved (index : Nat) (turn : Turn) (p : Process) (holder : s.Holder task index p) :
      Seen cfg task s (.move index turn)
        { (p.move cfg s.toShared turn).1 with
          procs := s.procs.set index (p.move cfg s.toShared turn).2.1
          history := s.history ++ (p.move cfg s.toShared turn).2.2 }
  | restarted (now : Int) :
      Seen cfg task s (.restart now)
        { store := reopened s.store now
          hub := TaskHub.new
          instant := s.instant
          procs := []
          history := s.history ++ [.restarted] }

theorem apart_of_same (log : List Happening) (history : after.history = s.history ++ log)
    (silent : ∀ event ∈ log, event.Silent task) (store : after.store = s.store)
    (hub : after.hub = s.hub) (procs : after.procs = s.procs) : s.Apart task label after where
  history := ⟨log, history, silent⟩
  stored := .inl (by rw [store])
  entry := by rw [hub]
  holders i p := by rw [Holder, Holder, procs]
  longer := by rw [hub]
  sent tx _ _ := by rw [hub]
  closed tx _ shut := by rwa [hub]

theorem apart_of_enter (different : id ≠ task) (own : p.holds = some id) {event : Happening}
    (silent : event.Silent task) :
    s.Apart task label
      { s with
        hub := (s.hub.enter id).1
        procs := s.procs ++ [p]
        history := s.history ++ [event] } where
  history := ⟨[event], rfl, List.forall_mem_singleton.mpr silent⟩
  stored := .inl rfl
  entry := by
    simp only [TaskHub.lookup_enter]
    rw [if_neg (Ne.symm different)]
  holders i q := by
    have other : p.holds ≠ some task := fun same =>
      different (Option.some.inj (own.symm.trans same))
    rw [holder_append_iff rfl]
    simp [other]
  longer := by simp [TaskHub.enter]
  sent tx inside _ := TaskHub.sent_enter inside id
  closed tx inside shut := by
    rw [TaskHub.isOpen_eq_false_iff] at shut ⊢
    intro other
    simp only [TaskHub.lookup_enter]
    split
    · exact fun same => Nat.lt_irrefl _ (Option.some.inj same ▸ inside)
    · exact shut other

/-- A turn of a process that does not hold the task leaves the task alone. -/
theorem apart_of_move (sound : s.Sound) (found : s.procs[index]? = some p)
    (other : p.holds ≠ some task) :
    s.Apart task (.move index turn)
      { (p.move cfg s.toShared turn).1 with
        procs := s.procs.set index (p.move cfg s.toShared turn).2.1
        history := s.history ++ (p.move cfg s.toShared turn).2.2 } := by
  cases own : p.holds with
  | none =>
    cases eq_ended_of_holds_none own
    exact apart_of_same [] rfl (by simp) rfl rfl (set_of_getElem? found)
  | some mine =>
    have confined := Process.move_confined cfg turn sound.keyed own
    have different : task ≠ mine := fun same => other (same ▸ own)
    obtain ⟨channel, entered, sends⟩ := sound.entry_of_holder ⟨found, own⟩
    obtain ⟨_, only⟩ := confined.sends channel sends
    constructor
    case history =>
      refine ⟨_, rfl, fun event member => ?_⟩
      rcases Process.move_log (w := s.toShared) s.history own cfg turn with
        nothing | ⟨only, shown, about, _, _⟩
      · rw [nothing] at member
        cases member
      · rw [shown] at member
        cases List.mem_singleton.mp member
        exact silent_of_task_ne fun same => different (Option.some.inj (same.symm.trans about))
    case stored =>
      refine (confined.writes task different).imp_right fun gone => ⟨⟨_, _, rfl, ?_⟩, gone⟩
      intro q there
      cases found.symm.trans there
      exact other
    case entry =>
      rcases confined.entry with ⟨_, live⟩ | ⟨_, live⟩
      · simp only [live]
      · simp only [live]
        rw [TaskHub.lookup_close, if_neg different]
    case holders =>
      intro i q
      have gone : (p.move cfg s.toShared turn).2.1.holds ≠ some task := by
        rcases confined.entry with ⟨still, _⟩ | ⟨ended, _⟩
        · rw [still, ← own]
          exact other
        · rw [ended]
          exact fun holding => by cases holding
      rw [holder_set_iff found rfl]
      split
      case isFalse => rfl
      case isTrue here =>
        subst here
        refine iff_of_false (fun moved => gone moved.2) fun holder => ?_
        cases found.symm.trans holder.1
        exact other holder.2
    case longer => exact Nat.le_of_eq only.length.symm
    case sent =>
      intro tx _ concerned
      refine only.others tx ?_
      rintro rfl
      rcases concerned with ours | shut
      · exact different (sound.unshared _ _ _ ours entered)
      · exact TaskHub.isOpen_eq_false_iff.mp shut mine entered
    case closed =>
      intro tx _ shut
      rw [TaskHub.isOpen_eq_false_iff] at shut ⊢
      intro id
      rcases confined.entry with ⟨_, live⟩ | ⟨_, live⟩
      · simp only [live]
        exact shut id
      · simp only [live]
        rw [TaskHub.lookup_close]
        split
        · exact fun absurd => by cases absurd
        · exact shut id

theorem seen (sound : s.Sound) (cfg : Runner) (task : String) (label : Label) :
    Seen cfg task s label (s.step cfg label) := by
  have taken := s.stepped cfg label
  generalize s.step cfg label = after at taken ⊢
  cases taken with
  | idle store hub procs history =>
    rcases history with same | ⟨call, error, _, refused⟩
    · exact .apart (apart_of_same [] (by simpa using same) (by simp) store hub procs)
    · refine .apart (apart_of_same _ refused ?_ store hub procs)
      exact List.forall_mem_singleton.mpr ⟨rfl, rfl⟩
  | opened call free =>
    by_cases same : call.record.id = task
    · subst same
      exact .entered (.start call _ rfl) free rfl rfl
    · refine .apart (apart_of_enter same rfl (silent_of_task_ne ?_))
      exact fun other => same (Option.some.inj other)
  | claimed snapshot principal now record free found running =>
    have stored := TaskStore.getRaw_of_get found
    have named : record.id = snapshot.id := sound.keyed _ _ stored
    rw [← named] at free stored ⊢
    by_cases same : record.id = task
    · subst same
      exact .entered (.claim _ record principal _ stored running) free rfl rfl
    · refine .apart (apart_of_enter same rfl (silent_of_task_ne ?_))
      exact fun other => same (Option.some.inj other)
  | moved index turn p found =>
    by_cases own : p.holds = some task
    · exact .moved index turn p ⟨found, own⟩
    · exact .apart (apart_of_move sound found own)
  | restarted now => exact .restarted now

/-- Whoever is entered is the only holder. -/
theorem Sound.holder_entered_iff (sound : s.Sound) (free : task ∉ s.hub.live)
    (own : q.holds = some task) (procs : after.procs = s.procs ++ [q]) :
    after.Holder task i p ↔ i = s.procs.length ∧ p = q := by
  rw [holder_append_iff procs]
  simp [sound.unheld free, own]

/-- After its turn a holder is the only one, as long as it holds the task. -/
theorem Sound.holder_moved_iff (sound : s.Sound) (holder : s.Holder task index p)
    {next : Process} (procs : after.procs = s.procs.set index next) :
    after.Holder task i q ↔ i = index ∧ q = next ∧ next.holds = some task := by
  rw [holder_set_iff holder.1 procs]
  split
  case isTrue here => simp [here]
  case isFalse elsewhere =>
    refine iff_of_false (fun other => ?_) fun moved => elsewhere moved.1.symm
    exact elsewhere (sound.eq_of_holder holder other).1

/-! ## Soundness -/

theorem sound_init (db : Option Database) : (init db).Sound where
  keyed id rec found := by cases db <;> cases found
  entries task := .free (AList.notMem_empty task) fun i p holder => by simp [init, Holder] at holder
  bounded id tx found := by cases found
  unshared id other tx found := by cases found

theorem keyed_reopened (keyed : s.store.Keyed) (now : Int) : (reopened s.store now).Keyed := by
  unfold reopened
  split
  · intro id rec found
    cases found
  · rename_i codec rows backend
    apply TaskStore.keyed_prune
    intro id rec found
    exact keyed id rec (by simpa [TaskStore.getRaw, backend] using found)

theorem keyed_step (keyed : s.store.Keyed) (cfg : Runner) (label : Label) :
    (s.step cfg label).store.Keyed := by
  have taken := s.stepped cfg label
  generalize s.step cfg label = after at taken ⊢
  cases taken with
  | idle store => exact store ▸ keyed
  | opened | claimed => exact keyed
  | moved index turn p =>
    cases own : p.holds with
    | none =>
      cases eq_ended_of_holds_none own
      exact keyed
    | some id => exact (Process.move_confined cfg turn keyed own).keyed
  | restarted now => exact keyed_reopened keyed now

theorem entry_step (sound : s.Sound) (cfg : Runner) (label : Label) (task : String) :
    (s.step cfg label).Entry task := by
  have seen := seen sound cfg task label
  generalize s.step cfg label = after at seen ⊢
  cases seen with
  | apart apart =>
    cases sound.entries task with
    | free free unheld =>
      refine .free ?_ fun i p holder => unheld i p ((apart.holders i p).mp holder)
      rwa [← AList.lookup_eq_none, apart.entry, AList.lookup_eq_none]
    | held tx i p entry sends alone =>
      exact .held tx i p (apart.entry.trans entry) sends fun j q =>
        (apart.holders j q).trans (alone j q)
  | entered entrance free own sends =>
    refine .held _ _ _ ?_ sends fun j q => sound.holder_entered_iff free own rfl
    exact (TaskHub.lookup_enter task task).trans (if_pos rfl)
  | moved index turn p holder =>
    obtain ⟨tx, entry, sends⟩ := sound.entry_of_holder holder
    have confined := Process.move_confined (w := s.toShared) cfg turn sound.keyed holder.2
    rcases confined.entry with ⟨still, live⟩ | ⟨ended, live⟩
    · refine .held tx index _ ?_ (confined.sends tx sends).1 fun j q => ?_
      · exact live ▸ entry
      · rw [sound.holder_moved_iff holder rfl]
        simp [still]
    · refine .free ?_ fun j q again => ?_
      · rw [← AList.lookup_eq_none]
        simp only [live]
        rw [TaskHub.lookup_close, if_pos rfl]
      · have still := ((sound.holder_moved_iff holder rfl).mp again).2.2
        rw [ended] at still
        cases still
  | restarted now =>
    exact .free (AList.notMem_empty task) fun i p holder => by simp [Holder] at holder

/-- An entry was there before, or it is the one that was made. -/
theorem lookup_step_cases (sound : s.Sound)
    (entry : (s.step cfg label).hub.live.lookup task = some tx) :
    (s.hub.live.lookup task = some tx ∧
        s.hub.channels.length ≤ (s.step cfg label).hub.channels.length) ∨
      tx = s.hub.channels.length ∧ (s.step cfg label).hub = (s.hub.enter task).1 := by
  have seen := seen sound cfg task label
  generalize s.step cfg label = after at seen entry ⊢
  cases seen with
  | apart apart => exact .inl ⟨apart.entry ▸ entry, apart.longer⟩
  | entered =>
    refine .inr ⟨?_, rfl⟩
    have made := (TaskHub.lookup_enter task task).symm.trans entry
    rw [if_pos rfl] at made
    exact (Option.some.inj made).symm
  | moved index turn p holder =>
    obtain ⟨channel, _, sends⟩ := sound.entry_of_holder holder
    have confined := Process.move_confined (w := s.toShared) cfg turn sound.keyed holder.2
    refine .inl ⟨?_, Nat.le_of_eq (confined.sends channel sends).2.length.symm⟩
    rcases confined.entry with ⟨_, live⟩ | ⟨_, live⟩
    · exact live ▸ entry
    · simp only [live] at entry
      rw [TaskHub.lookup_close, if_pos rfl] at entry
      cases entry
  | restarted now => cases entry

theorem sound_step (sound : s.Sound) (cfg : Runner) (label : Label) :
    (s.step cfg label).Sound where
  keyed := keyed_step sound.keyed cfg label
  entries := entry_step sound cfg label
  bounded id tx entry := by
    rcases lookup_step_cases sound entry with ⟨old, longer⟩ | ⟨rfl, hub⟩
    · exact Nat.lt_of_lt_of_le (sound.bounded id tx old) longer
    · rw [hub]
      simp [TaskHub.enter]
  unshared id other tx first second := by
    rcases lookup_step_cases sound first with ⟨old, _⟩ | ⟨rfl, hub⟩
    · rcases lookup_step_cases sound second with ⟨too, _⟩ | ⟨rfl, _⟩
      · exact sound.unshared id other tx old too
      · exact absurd (sound.bounded id _ old) (Nat.lt_irrefl _)
    · rw [hub, TaskHub.lookup_enter] at second
      split at second
      case isTrue same => exact same.symm
      case isFalse => exact absurd (sound.bounded other _ second) (Nat.lt_irrefl _)

end System

end Triton.Tasks
