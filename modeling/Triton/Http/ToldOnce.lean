/-
# Every reader is told one ending

The readers of a task follow its channel from wherever they join: from the start,
while it runs, between the store write and the broadcast, or before the entry is
gone. What they have told agrees with the channel and the record at every point,
so that each stream has one ending before it or has told it.
-/

import Triton.Http.TaskStream

namespace Triton.Http

open Triton.Lib Triton.Core Triton.Tasks

variable {task : String} {s : System} {cfg : Runner} {label : Label} {asked : Subscription}

/-! ## Where a subscription begins -/

/-- What a reader of the task starts from. -/
structure Begins (task : String) (asked : Subscription) (s : System) : Prop where
  attached : s.Attached task asked.rx.channel
  inside : asked.rx.position ≤ (s.hub.sent asked.rx.channel).length
  fromStart : asked.rx.position = 0 ∨ asked.resubscribes = true
  spawned : asked.resubscribes = false → ∃ i run, s.Holder task i (.running run)

theorem live_of_subscription {snapshot : TaskRecord} {principal : Principal} {now : Int}
    (found : subscription cfg s (.ensure snapshot principal now) = some asked) :
    ∃ tx, s.hub.live.lookup snapshot.id = some tx ∧ asked = ⟨snapshot, true, s.hub.follow tx⟩ ∧
      s.step cfg (.ensure snapshot principal now) = s := by
  simp only [subscription, TaskHub.subscribeOrClaim] at found
  split at found
  · cases found
  · rename_i going
    cases entry : s.hub.live.lookup snapshot.id with
    | none =>
      rw [entry] at found
      cases read : s.store.get now snapshot.id with
      | none =>
        rw [read] at found
        cases found
      | some rec =>
        rw [read] at found
        cases ended : rec.state.isTerminal <;> simp [ended] at found
    | some tx =>
      rw [entry] at found
      cases found
      refine ⟨tx, rfl, rfl, ?_⟩
      simp [System.step, System.ensureRunning, going, TaskHub.subscribeOrClaim, entry]

/-- A start and a claim hand out their channel from its first event. -/
theorem spawned_of_subscription {index : Nat} {turn : Turn}
    (found : subscription cfg s (.move index turn) = some asked) :
    ∃ p run, s.Holder asked.given.id index p ∧ p.SendsOn asked.rx.channel ∧
      asked.rx.position = 0 ∧ (p.move cfg s.toShared turn).2.1 = .running run := by
  have after : ∀ p, s.procs[index]? = some p →
      (s.step cfg (.move index turn)).procs[index]? =
        some (p.move cfg s.toShared turn).2.1 := by
    intro p here
    simp only [System.step, here]
    exact List.getElem?_set_self (List.getElem?_eq_some_iff.mp here).1
  simp only [subscription] at found
  split at found
  · rename_i call tx run here there
    cases found
    rw [after _ here] at there
    exact ⟨_, run, ⟨here, rfl⟩, rfl, rfl, Option.some.inj there⟩
  · rename_i record principal tx run here there
    cases found
    rw [after _ here] at there
    exact ⟨_, run, ⟨here, rfl⟩, rfl, rfl, Option.some.inj there⟩
  · cases found

theorem begins (telling : s.Telling task) (after : (s.step cfg label).Telling task)
    (found : subscription cfg s label = some asked) (ours : asked.given.id = task) :
    Begins task asked (s.step cfg label) := by
  cases label with
  | start | tick | restart => cases found
  | ensure snapshot principal now =>
    obtain ⟨tx, entry, rfl, same⟩ := live_of_subscription found
    have entry : s.hub.live.lookup task = some tx := ours ▸ entry
    rw [same]
    exact ⟨⟨telling.bounded task tx entry, .inl entry⟩, Nat.le_refl _, .inr rfl,
      fun absurd => by cases absurd⟩
  | move index turn =>
    obtain ⟨p, run, holder, sends, position, spawned⟩ := spawned_of_subscription found
    rw [ours] at holder
    have confined := Process.move_confined (w := s.toShared) cfg turn telling.keyed holder.2
    have channel := (confined.sends _ sends).1
    rw [spawned] at channel
    have named : run.record.id = task := by
      rcases confined.entry with ⟨still, _⟩ | ⟨ended, _⟩
      · rw [spawned] at still
        exact Option.some.inj still
      · rw [spawned] at ended
        cases ended
    have holder : (s.step cfg (.move index turn)).Holder task index (.running run) := by
      refine ⟨?_, congrArg some named⟩
      simp only [System.step, holder.1]
      rw [spawned]
      exact List.getElem?_set_self (List.getElem?_eq_some_iff.mp holder.1).1
    obtain ⟨tx, entry, same⟩ := after.entry_of_holder holder
    rw [← show run.tx = tx from same, show run.tx = asked.rx.channel from channel] at entry
    refine ⟨⟨after.bounded task _ entry, .inl entry⟩, ?_, .inl position,
      fun _ => ⟨index, run, holder⟩⟩
    rw [position]
    exact Nat.zero_le _

/-! ## What holds of a reader -/

/-- The reader is on the way to its one ending, or has told it. A client that was
shown a finished task has nothing more to come. -/
def Followed (task : String) (s : System) : Subscriber → Prop
  | .courier id tx reader => id = task →
      s.Attached task tx ∧ s.Assured task tx ∧
        s.Heeds StreamEvent.isTerminal TellsEnd task tx reader
  | .caller asked => asked.given.id = task →
      s.Attached task asked.rx.channel ∧ (s.store.getRaw task).isSome = true ∧
        asked.rx.position ≤ (s.hub.sent asked.rx.channel).length
  | .client first tx reader => first.id = task →
      s.Attached task tx ∧ (s.store.getRaw task).isSome = true ∧
        (first.state.isTerminal = true →
          reader.isOver = true ∧ reader.told = [.task first] ∧ s.store.getRaw task = some first) ∧
        (first.state.isTerminal = false → s.Heeds Frame.isTerminal ShowsEnd task tx reader)
  | .refused _ _ => True

theorem followed_join {audience : Audience} (ours : asked.given.id = task →
      Begins task asked s ∧
        (audience = .client ∨ audience = .courier ∧ asked.resubscribes = true →
          (s.store.getRaw task).isSome = true)) :
    Followed task s (.join asked audience) := by
  cases audience with
  | client =>
    intro same
    obtain ⟨begins, known⟩ := ours same
    exact ⟨begins.attached, known (.inl rfl), begins.inside⟩
  | courier =>
    intro same
    obtain ⟨begins, known⟩ := ours same
    refine ⟨begins.attached, ?_, .inl ⟨rfl, fun _ member => (by cases member), begins.inside, ?_⟩⟩
    · cases again : asked.resubscribes with
      | true => exact .inl (known (.inr ⟨rfl, again⟩))
      | false => exact .inr (.inl (begins.spawned again))
    · rcases begins.fromStart with first | again
      · left
        rw [first]
        exact fun _ member => by cases member
      · exact .inr (known (.inr ⟨rfl, again⟩))

/-- A step of the service, as a reader sees it. -/
theorem followed_step (telling : s.Telling task) (spares : s.Spares cfg task label)
    (other : label.starts task = false) (stays : ∀ now, label ≠ .restart now)
    {reader : Subscriber} (followed : Followed task s reader) :
    Followed task (s.step cfg label) reader := by
  cases reader with
  | courier id tx reader =>
    intro ours
    obtain ⟨attached, assured, heeds⟩ := followed ours
    have advances := attached.advances telling spares other stays
    exact ⟨advances.attached, advances.assured assured, heeds.advance advances⟩
  | caller asked =>
    intro ours
    obtain ⟨attached, stored, inside⟩ := followed ours
    have advances := attached.advances telling spares other stays
    exact ⟨advances.attached, advances.kept stored, Nat.le_trans inside advances.grows.length_le⟩
  | client first tx reader =>
    intro ours
    obtain ⟨attached, stored, shown, heeds⟩ := followed ours
    have advances := attached.advances telling spares other stays
    refine ⟨advances.attached, advances.kept stored, fun ended => ?_,
      fun going => (heeds going).advance advances⟩
    obtain ⟨isOver, told, same⟩ := shown ended
    exact ⟨isOver, told, (advances.final (.inl (.inl ⟨first, same, ended⟩))).trans same⟩
  | refused => trivial

/-- A round of a reader. -/
theorem followed_read (telling : s.Telling task) {now : Int}
    (shown : s.store.get now task = s.store.getRaw task) {reader : Subscriber}
    (named : reader.task = task) (followed : Followed task s reader) :
    Followed task s (reader.read s now) := by
  cases reader with
  | courier id tx reader =>
    intro ours
    subst ours
    obtain ⟨attached, assured, heeds⟩ := followed rfl
    exact ⟨attached, assured, heeds_asStreamEvents telling attached assured shown heeds⟩
  | caller asked =>
    have named : asked.given.id = task := named
    obtain ⟨attached, stored, inside⟩ := followed named
    obtain ⟨rec, found⟩ := Option.isSome_iff_exists.mp stored
    simp only [Subscriber.read, named, shown, found, Option.getD_some]
    split
    · trivial
    · intro ours
      refine ⟨attached, stored, fun ended => ⟨ended, rfl, found⟩, fun going => .inl ?_⟩
      exact ⟨going, List.forall_mem_singleton.mpr rfl, inside, .inr stored⟩
  | client first tx reader =>
    have named : first.id = task := named
    intro _
    obtain ⟨attached, stored, finished, heeds⟩ := followed named
    refine ⟨attached, stored, fun ended => ?_, fun going => ?_⟩
    · obtain ⟨isOver, told, same⟩ := finished ended
      have stopped : taskStream s now first tx reader = reader := Reader.poll_of_isOver isOver
      rw [stopped]
      exact ⟨isOver, told, same⟩
    · exact heeds_taskStream telling attached (.inl stored) shown named (heeds going)
  | refused => trivial

/-- Nothing is asked of the readers of other tasks. -/
theorem followed_of_ne {reader : Subscriber} (other : reader.task ≠ task) :
    Followed task s reader := by
  cases reader with
  | courier | caller | client => exact fun ours => absurd ours other
  | refused => trivial

/-- A reader keeps to its task. -/
theorem task_read (keyed : s.store.Keyed) (now : Int) (reader : Subscriber) :
    (reader.read s now).task = reader.task := by
  cases reader with
  | courier | client | refused => rfl
  | caller asked =>
    have named : ((s.store.get now asked.given.id).getD asked.given).id = asked.given.id := by
      cases found : s.store.get now asked.given.id with
      | none => rfl
      | some rec => exact keyed _ rec (TaskStore.getRaw_of_get found)
    simp only [Subscriber.read]
    split
    · rfl
    · exact named

theorem mem_of_mem_modify {readers : List Subscriber} {index : Nat}
    {change : Subscriber → Subscriber} {reader : Subscriber}
    (member : reader ∈ readers.modify index change) :
    reader ∈ readers ∨ ∃ before, readers[index]? = some before ∧ reader = change before := by
  obtain ⟨j, here⟩ := List.getElem?_of_mem member
  rw [List.getElem?_modify] at here
  obtain ⟨before, found, changed⟩ := Option.map_eq_some_iff.mp here
  split at changed
  · rename_i same
    exact .inr ⟨before, same ▸ found, changed.symm⟩
  · exact .inl (changed ▸ List.mem_of_getElem? found)

namespace Service

variable {w : Service}

/-! ## Before the task is started -/

/-- Nothing is known of the task, and nobody follows it. -/
structure Unstarted (task : String) (w : Service) : Prop where
  unfiled : w.toSystem.Unfiled task
  unread : ∀ reader ∈ w.readers, reader.task ≠ task

/-- What is handed out belongs to a task that is held. -/
theorem holder_of_subscription (sound : s.Sound)
    (found : subscription cfg s label = some asked) : ∃ i p, s.Holder asked.given.id i p := by
  cases label with
  | start | tick | restart => cases found
  | ensure snapshot principal now =>
    obtain ⟨tx, entry, rfl, _⟩ := live_of_subscription found
    exact sound.holder_of_entry entry
  | move index turn =>
    obtain ⟨p, _, holder, _⟩ := spawned_of_subscription found
    exact ⟨index, p, holder⟩

theorem task_join (asked : Subscription) (audience : Audience) :
    (Subscriber.join asked audience).task = asked.given.id := by
  cases audience <;> rfl

theorem mem_joined {audience : Option Audience} {reader : Subscriber}
    (member : reader ∈ joined cfg s label audience) :
    ∃ asked kind, audience = some kind ∧ subscription cfg s label = some asked ∧
      reader = .join asked kind := by
  cases audience with
  | none => cases member
  | some kind =>
    obtain ⟨asked, found, rfl⟩ := Option.map_eq_some_iff.mp (Option.mem_toList.mp member)
    exact ⟨asked, kind, rfl, found, rfl⟩

theorem mem_of_mem_survivors {readers : List Subscriber} {reader : Subscriber}
    (member : reader ∈ survivors readers label) :
    reader ∈ readers ∧ ∀ now, label ≠ .restart now := by
  cases label with
  | restart => cases member
  | start | ensure | move | tick => exact ⟨member, fun _ absurd => by cases absurd⟩

theorem unstarted_step (telling : w.toSystem.Telling task) (unstarted : w.Unstarted task)
    {act : Act} (other : act.starts task = false) : (w.step cfg act).Unstarted task := by
  cases act with
  | turn label audience =>
    refine ⟨System.unfiled_step telling.toSound unstarted.unfiled other, fun reader member => ?_⟩
    rcases List.mem_append.mp member with old | new
    · exact unstarted.unread reader (mem_of_mem_survivors old).1
    · obtain ⟨asked, kind, _, found, rfl⟩ := mem_joined new
      obtain ⟨i, p, holder⟩ := holder_of_subscription telling.toSound found
      rw [task_join]
      exact fun ours => unstarted.unfiled.unheld i p (ours ▸ holder)
  | read index now =>
    refine ⟨unstarted.unfiled, fun reader member => ?_⟩
    rcases mem_of_mem_modify member with old | ⟨before, old, rfl⟩
    · exact unstarted.unread reader old
    · rw [task_read telling.keyed]
      exact unstarted.unread before (List.mem_of_getElem? old)

theorem telling_step (telling : w.toSystem.Telling task) {act : Act} (calm : w.Calm cfg task act)
    (fresh : act.starts task = true → w.Unstarted task) :
    (w.step cfg act).toSystem.Telling task := by
  cases act with
  | turn label audience =>
    exact System.telling_step telling calm.1 fun starts => (fresh starts).unfiled
  | read index now => exact telling

/-! ## Every run -/

/-- The channel of the task tells what is stored, and so do its readers. -/
structure Faithful (task : String) (w : Service) : Prop where
  telling : w.toSystem.Telling task
  followed : ∀ reader ∈ w.readers, Followed task w.toSystem reader

theorem faithful_step (faithful : w.Faithful task) {act : Act} (calm : w.Calm cfg task act)
    (fresh : act.starts task = true → w.Unstarted task) : (w.step cfg act).Faithful task := by
  have telling := faithful.telling
  have after := telling_step telling calm fresh
  refine ⟨after, fun reader member => ?_⟩
  cases act with
  | turn label audience =>
    rcases List.mem_append.mp member with old | new
    · obtain ⟨here, stays⟩ := mem_of_mem_survivors old
      cases starts : label.starts task with
      | true => exact followed_of_ne ((fresh starts).unread reader here)
      | false => exact followed_step telling calm.1 starts stays (faithful.followed reader here)
    · obtain ⟨asked, kind, rfl, found, rfl⟩ := mem_joined new
      apply followed_join
      intro ours
      refine ⟨begins telling after found ours, fun why => ?_⟩
      exact calm.2 asked found ours (why.imp (congrArg some) (And.imp_left (congrArg some)))
  | read index now =>
    rcases mem_of_mem_modify member with old | ⟨before, old, rfl⟩
    · exact faithful.followed reader old
    · by_cases ours : before.task = task
      · exact followed_read telling (calm before old ours) ours
          (faithful.followed before (List.mem_of_getElem? old))
      · apply followed_of_ne
        rwa [task_read telling.keyed]

end Service

/-! ## One ending -/

/-- What a reader has told: no ending while it goes on; and when it has stopped,
one ending as the last thing told, which agrees with the record that is stored. A
client that was shown a finished task was shown the stored one. -/
def Subscriber.ToldOnce (stored : Option TaskRecord) : Subscriber → Prop
  | .courier _ _ reader =>
    (reader.isOver = false → Ongoing StreamEvent.isTerminal reader.told) ∧
      (reader.isOver = true → ∃ last, EndsWith StreamEvent.isTerminal reader.told last ∧
        ∀ rec, stored = some rec → TellsEnd rec last)
  | .client first _ reader =>
    (reader.isOver = false → Ongoing Frame.isTerminal reader.told) ∧
      (reader.isOver = true →
        (first.state.isTerminal = true ∧ reader.told = [.task first] ∧ stored = some first) ∨
          first.state.isTerminal = false ∧
            ∃ last, EndsWith Frame.isTerminal reader.told last ∧
              ∀ rec, stored = some rec → ShowsEnd rec last)
  | .caller _ | .refused _ _ => True

/-- A reader is told once. It stops when its channel is closed, and as long as the
channel is open someone is at work on the task. -/
structure Service.Told (task : String) (w : Service) (reader : Subscriber) : Prop where
  once : reader.ToldOnce (w.store.getRaw task)
  stops : ∀ tx, reader.channel = some tx → w.hub.isOpen tx = false →
    ∀ now, ∃ n, ((Subscriber.read w.toSystem now)^[n] reader).isOver = true
  attended : ∀ tx, reader.channel = some tx → w.hub.isOpen tx = true →
    ∃ p ∈ w.procs, p.holds = some task

/-- Rounds of a subscriber that are rounds of the reader in it stop when those
do. -/
theorem exists_isOver {β : Type} {now : Int} {wrap : Reader β → Subscriber}
    {round : Reader β → Reader β} (rounds : Function.Semiconj wrap round (Subscriber.read s now))
    (wrapped : ∀ reader, (wrap reader).isOver = reader.isOver) {reader : Reader β}
    (stops : ∃ n, (round^[n] reader).isOver = true) :
    ∃ n, ((Subscriber.read s now)^[n] (wrap reader)).isOver = true := by
  obtain ⟨n, isOver⟩ := stops
  refine ⟨n, ?_⟩
  rw [← rounds.iterate_right n reader, wrapped]
  exact isOver

theorem exists_isOver_client {tx : Nat} (shut : s.hub.isOpen tx = false) (now : Int)
    (first : TaskRecord) (reader : Reader Frame) :
    ∃ n, ((Subscriber.read s now)^[n] (.client first tx reader)).isOver = true := by
  have rounds : Function.Semiconj (Subscriber.client first tx) (taskStream s now first tx)
      (Subscriber.read s now) := fun _ => rfl
  apply exists_isOver rounds fun _ => rfl
  unfold taskStream
  rw [shut]
  exact Reader.exists_over _ _ _ _ (by decide) reader

/-- A reader of a closed channel stops. -/
theorem exists_isOver_of_closed {reader : Subscriber} {tx : Nat}
    (reads : reader.channel = some tx) (shut : s.hub.isOpen tx = false) (now : Int) :
    ∃ n, ((Subscriber.read s now)^[n] reader).isOver = true := by
  cases reader with
  | courier id channel reader =>
    cases reads
    have rounds : Function.Semiconj (Subscriber.courier id tx) (asStreamEvents s now id tx)
        (Subscriber.read s now) := fun _ => rfl
    apply exists_isOver rounds fun _ => rfl
    unfold asStreamEvents
    rw [shut]
    exact Reader.exists_over _ _ _ _ (by decide) reader
  | client first channel reader =>
    cases reads
    exact exists_isOver_client shut now first reader
  | caller asked =>
    cases reads
    -- the first round takes the task as it is now
    have taken : ∃ n, ((Subscriber.read s now)^[n]
        (Subscriber.read s now (.caller asked))).isOver = true := by
      simp only [Subscriber.read]
      split
      · exact ⟨0, rfl⟩
      · exact exists_isOver_client shut now _ _
    obtain ⟨n, isOver⟩ := taken
    exact ⟨n + 1, isOver⟩
  | refused => cases reads

theorem attended_of_followed (telling : s.Telling task) {reader : Subscriber}
    (ours : reader.task = task) (followed : Followed task s reader) {tx : Nat}
    (reads : reader.channel = some tx) (isOpen : s.hub.isOpen tx = true) :
    ∃ p ∈ s.procs, p.holds = some task := by
  have attached : s.Attached task tx := by
    cases reader with
    | courier | client | caller =>
      cases reads
      exact (followed ours).1
    | refused => cases reads
  rcases attached.entry with entry | ⟨shut, _⟩
  · obtain ⟨i, p, found, own⟩ := telling.holder_of_entry entry
    exact ⟨p, List.mem_of_getElem? found, own⟩
  · rw [shut] at isOpen
    cases isOpen

theorem toldOnce_of_followed {reader : Subscriber} (ours : reader.task = task)
    (followed : Followed task s reader) : reader.ToldOnce (s.store.getRaw task) := by
  cases reader with
  | caller | refused => trivial
  | courier id tx reader => exact (followed ours).2.2.told
  | client first tx reader =>
    obtain ⟨_, _, finished, heeds⟩ := followed ours
    cases ended : first.state.isTerminal with
    | true =>
      obtain ⟨isOver, told, same⟩ := finished ended
      exact ⟨fun going => absurd (going.symm.trans isOver) Bool.false_ne_true,
        fun _ => .inl ⟨ended, told, same⟩⟩
    | false =>
      obtain ⟨quiet, ends⟩ := (heeds ended).told
      exact ⟨quiet, fun isOver => .inr ⟨ended, ends isOver⟩⟩

namespace Service

/-- Along every interleaving of the processes and the readers of a service: if the
store takes what is written of a task, keeps its record, reads it and shows it, and the task
is started once, then each of its readers, wherever it joins and however slow it
is, is told one ending, which agrees with the stored record. -/
theorem every_reader_told_once (cfg : Runner) (db : Option Database) (task : String)
    (acts : List Act) (calm : EveryStep (step cfg) (Calm cfg task) (init db) acts)
    (once : acts.countP (Act.starts task) ≤ 1) :
    EveryState (step cfg)
      (fun w => ∀ reader ∈ w.readers, reader.task = task → w.Told task reader)
      (init db) acts := by
  have quiet : ∀ (w : Service) (act : Act), w.toSystem.Telling task ∧ w.Unstarted task →
      w.Calm cfg task act → act.starts task = false →
        (w.step cfg act).toSystem.Telling task ∧ (w.step cfg act).Unstarted task :=
    fun w act here calm other =>
      ⟨telling_step here.1 calm fun _ => here.2, unstarted_step here.1 here.2 other⟩
  have fresh := everyStep_of_countP_le_one quiet
    ⟨System.telling_init db, System.unfiled_init db,
      fun _ member => by cases member⟩ calm once
  have preserved : ∀ (w : Service) (act : Act), w.Faithful task →
      w.Calm cfg task act ∧ (act.starts task = true → w.toSystem.Telling task ∧ w.Unstarted task) →
        (w.step cfg act).Faithful task :=
    fun w act faithful met => faithful_step faithful met.1 fun starts => (met.2 starts).2
  apply everyState_of_invariant preserved _
    ⟨System.telling_init db, fun _ member => by cases member⟩
      ((everyStep_and _ _).mpr ⟨calm, fresh⟩)
  intro w faithful reader member ours
  have followed := faithful.followed reader member
  exact ⟨toldOnce_of_followed ours followed, fun tx reads => exists_isOver_of_closed reads,
    fun tx reads isOpen => attended_of_followed faithful.telling ours followed reads isOpen⟩

/-! ## Some runs -/

/-- Every row is kept, read and shown, and those who join find the task. -/
def keepsRows (cfg : Runner) (task : String) (w : Service) : Act → Bool
  | .turn label audience =>
    w.toSystem.keepsRows cfg label &&
      (audience.isNone || ((w.toSystem.step cfg label).store.getRaw task).isSome)
  | .read _ now => w.rowsKept w.toSystem now

theorem calm_of_keepsRows {w : Service} {act : Act} (kept : w.keepsRows cfg task act = true) :
    w.Calm cfg task act := by
  cases act with
  | turn label audience =>
    obtain ⟨kept, known⟩ := Bool.and_eq_true_iff.mp kept
    refine ⟨System.spares_of_keepsRows kept task, fun _ _ _ why => ?_⟩
    rcases Bool.or_eq_true_iff.mp known with alone | stored
    · rw [Option.isNone_iff_eq_none.mp alone] at why
      simp at why
    · exact stored
  | read index now => exact fun _ _ _ => System.shown_of_rowsKept kept task

def reader : Principal := ⟨"alice", [], [], "acme", "", "t1", none, none, none⟩

def newTask : TaskRecord := TaskRecord.new 0 "t1" "c1" "agent" none

/-- A turn of the one process of the runs below. -/
def turnOf (input : Input) (audience : Option Audience) : Act :=
  .turn (.move 0 ⟨0, none, input⟩) audience

/-- The first acts of all: the task is started, its caller follows it as a
courier, and the upstream answers. -/
def openedTask : List Act :=
  [.turn (.start ⟨newTask, .dispatch .null, reader, "a2a", {}, .now⟩) none,
    turnOf .proceed (some .courier), turnOf .proceed none, turnOf (.opened (.ok ())) none]

/-- A task that completes. A client joins while it runs, and another after its end
is stored and before it is sent. -/
def followedTask : List Act :=
  openedTask ++ [.turn (.ensure newTask reader 0) (some .client), .read 1 0,
    turnOf (.event (.done (.string "ok"))) none, turnOf .proceed none,
    .turn (.ensure newTask reader 0) (some .client), turnOf .proceed none, .read 0 0, .read 1 0,
    .read 2 0, turnOf .proceed none]

theorem followed_task_told_once :
    EveryState (step System.plainRunner)
      (fun w => ∀ reader ∈ w.readers, reader.task = "t1" → w.Told "t1" reader)
      (init (some System.plainDatabase)) followedTask := by
  apply every_reader_told_once System.plainRunner (some System.plainDatabase) "t1" followedTask _
    (by decide)
  have kept : EveryStep (step System.plainRunner)
      (fun w act => w.keepsRows System.plainRunner "t1" act = true)
      (init (some System.plainDatabase)) followedTask := by
    decide
  exact kept.imp fun _ _ => calm_of_keepsRows

def ranUntil (acts : List Act) : Service :=
  run (step System.plainRunner) (init (some System.plainDatabase)) acts

/-- The task is over: its end is stored, sent, and the entry is given up. -/
def ends : List Act := [turnOf .proceed none, turnOf .proceed none, turnOf .proceed none]

/-- A task that the upstream fails with an error of its own. -/
def refusedTask : List Act :=
  openedTask ++ turnOf (.event (.error (.tool "out of stock") none)) none :: ends ++ [.read 0 0]

/-- A task that completes and is started again under its id, with the courier of the
first start behind. -/
def repeatedTask : List Act :=
  openedTask ++ turnOf (.event (.done (.string "ok"))) none :: ends ++
    [.turn (.start ⟨newTask, .dispatch .null, reader, "a2a", {}, .now⟩) none,
      .turn (.move 1 ⟨0, none, .proceed⟩) none, .read 0 0]

/-- A task whose result is written and not read again. A second courier joins when the end
has been sent. -/
def unreadTask : List Act :=
  openedTask ++ [turnOf (.event (.done (nested parserDepth))) none, turnOf .proceed none,
    turnOf .proceed none, .turn (.ensure newTask reader 0) (some .courier),
    turnOf .proceed none, .read 1 0]

set_option maxRecDepth 4000 in
/-- Three ways to be told amiss. The record has the agent's class of an error, and the
courier is told one of the tools; the courier of a first start is told that a task is
done which a second start has set to work; and a courier finds a row that it cannot read,
and is told nothing. -/
theorem endings_told_amiss :
    (EveryStep (step System.plainRunner) (Calm System.plainRunner "t1")
        (init (some System.plainDatabase)) refusedTask ∧
      refusedTask.countP (Act.starts "t1") = 1 ∧
      (∃ courier error, (ranUntil refusedTask).readers = [.courier "t1" 0 courier] ∧
        courier.told = [.error error none] ∧ error.errorClass = "tool") ∧
      ((ranUntil refusedTask).store.getRaw "t1").map (·.errorClass) = some (some classAgent)) ∧
    (EveryStep (step System.plainRunner) (Calm System.plainRunner "t1")
        (init (some System.plainDatabase)) repeatedTask ∧
      (∃ courier value, (ranUntil repeatedTask).readers = [.courier "t1" 0 courier] ∧
        courier.told = [.done value]) ∧
      ((ranUntil repeatedTask).store.getRaw "t1").map (·.state) = some .working) ∧
    (∃ first second codec rows row,
      (ranUntil unreadTask).readers = [.courier "t1" 0 first, .courier "t1" 0 second] ∧
      second.isOver = true ∧ second.told = [] ∧
      (ranUntil unreadTask).store.backend = .sqlite codec rows ∧
      rows.lookup "t1" = some row ∧ row.record.state = .completed) := by
  have refused : EveryStep (step System.plainRunner)
      (fun w act => w.keepsRows System.plainRunner "t1" act = true)
      (init (some System.plainDatabase)) refusedTask := by
    decide
  have repeated : EveryStep (step System.plainRunner)
      (fun w act => w.keepsRows System.plainRunner "t1" act = true)
      (init (some System.plainDatabase)) repeatedTask := by
    decide
  exact ⟨⟨refused.imp fun _ _ => calm_of_keepsRows, by decide, ⟨_, _, rfl, rfl, rfl⟩, by decide⟩,
    ⟨repeated.imp fun _ _ => calm_of_keepsRows, ⟨_, _, rfl, rfl⟩, by decide⟩,
    ⟨_, _, _, _, _, rfl, rfl, rfl, rfl, rfl, rfl⟩⟩

end Service

end Triton.Http
