import GitDrift.Proofs.Wakeup

/-!
Starting a watcher. The task whose handle is answered goes on for as long as nobody stops it, unless
it was stopped before: then it only has to exit, and the watcher that was to be started stands
still.
-/
namespace GitDrift.Drift

variable {w w' v v' : Watcher} {now time : Instant} {id i : TaskId} {a : Event} {k : PatternKey}
  {s : Schedule} {e f : Entry} {t : Task} {P Q : Event → Prop}

/-- An event at which the clock has not come to half of its range. -/
def Event.InRange : Event → Prop
  | .finish _ _ time _ => 2 * time < Instant.limit
  | _ => True

/-- A watcher comes to be another by events of a kind, none of which comes late in the clock's
range. -/
inductive Leads (P : Event → Prop) (w : Watcher) : Watcher → Prop
  | refl : Leads P w w
  | step {v v' : Watcher} {now : Instant} {a : Event} (h : Leads P w v) (hs : Step now v a v')
      (hr : a.InRange) (ha : P a) : Leads P w v'

/-- What a new watcher can come to be. -/
def Reached (w : Watcher) : Prop := Leads (fun _ => True) {} w

/-- What a watcher can come to be while nobody stops a task. -/
def Spared (id : TaskId) (w v : Watcher) : Prop := Leads (· ≠ .stop id) w v

/-- What was scheduled was scheduled at a reading of the clock. -/
def Scheduled (s : Schedule) : Prop := ∀ e ∈ s, e.interval ≤ e.nextCheck

theorem scheduled_place (h : Scheduled s) (he : e.interval ≤ e.nextCheck) :
    Scheduled (s.place e) := by
  intro f hf
  rcases Schedule.mem_place.mp hf with rfl | hf
  · exact he
  · exact h f hf

theorem scheduled_without (h : Scheduled s) (k : PatternKey) : Scheduled (s.without k) :=
  fun e he => h e (Schedule.mem_without.mp he).1

theorem scheduled_apply (x : Effect) (now : Instant) (h : Scheduled s) :
    Scheduled (x.apply now s) := by
  cases x with
  | books k d => exact scheduled_place (scheduled_without h k) (Nat.le_add_left d now)
  | drops k => exact scheduled_without h k
  | loses k => exact scheduled_without h k
  | completes k time =>
    simp only [Effect.apply]
    split
    · exact scheduled_place (scheduled_without h k) (Nat.le_add_left _ time)
    · exact h
  | keeps => exact h

/-- In the first half of the clock's range there is time for the next check of an entry that is due,
because an interval that has passed is no longer than the time until now. -/
theorem next_in_range (hs : e.interval ≤ e.nextCheck) (hd : e.nextCheck ≤ time)
    (ht : 2 * time < Instant.limit) : time + e.interval < Instant.limit := calc
  time + e.interval ≤ time + time := Nat.add_le_add_left (Nat.le_trans hs hd) time
  _ = 2 * time := (Nat.two_mul time).symm
  _ < Instant.limit := ht

/-- A check that is over in the first half of the clock's range finds time for the next one. -/
theorem exists_complete_ok (hs : Scheduled s) (ht : 2 * time < Instant.limit) (k : PatternKey) :
    ∃ b, (s.complete k time).1 = .ok b := by
  rw [Schedule.complete]
  cases he : s.entryOf k with
  | none => exact ⟨false, rfl⟩
  | some e =>
    dsimp only
    split_ifs with hdue
    · exact ⟨false, rfl⟩
    · have hfits := next_in_range (hs e (Schedule.mem_of_entryOf he)) (Nat.not_lt.mp hdue) ht
      rw [Instant.after?, if_pos hfits]
      exact ⟨true, rfl⟩

theorem finish_ne_overflow (hs : Scheduled w.schedule) (h : Step now w a w') (hr : a.InRange)
    (i : TaskId) (k : PatternKey) (time : Instant) : a ≠ .finish i k time (.error .overflow) := by
  rintro rfl
  cases h with
  | finish hp h =>
    obtain ⟨b, hb⟩ := exists_complete_ok hs hr k
    have hx : (w.schedule.complete k time).1 = .error .overflow := congrArg Prod.fst h
    cases hb.symm.trans hx

/-- What a watcher always is. -/
structure Sound (w : Watcher) : Prop where
  ordered : w.schedule.Ordered
  scheduled : Scheduled w.schedule
  oneAlive : OneAlive w
  alive : ∀ i, w.running = some i → w.Alive i
  awake : Awake w

theorem sound_new : Sound {} where
  ordered := List.Pairwise.nil
  scheduled := by simp [Scheduled]
  oneAlive := by simp [OneAlive, Watcher.phase?]
  alive := by simp
  awake := by simp [Awake]

theorem sound_step (hw : Sound w) (h : Step now w a w') (hr : a.InRange) : Sound w' where
  ordered := schedule_step h ▸ Effect.ordered_apply _ now hw.ordered
  scheduled := schedule_step h ▸ scheduled_apply _ now hw.scheduled
  oneAlive := oneAlive_step h hw.oneAlive
  alive := running_alive_step h (finish_ne_overflow hw.scheduled h hr) hw.alive
  awake := awake_step h hw.ordered hw.oneAlive hw.awake

theorem Leads.sound (h : Leads P w v) (hw : Sound w) : Sound v := by
  induction h with
  | refl => exact hw
  | step _ hs hr _ ih => exact sound_step ih hs hr

theorem reached_of_execution {E : Execution} (h : Valid E) (ht : Timely E)
    (hc : ∀ n, 2 * E.clock n < Instant.limit) (n : ℕ) : Reached (E.state n) := by
  induction n with
  | zero => exact h.initial ▸ .refl
  | succ n ih =>
    cases ha : E.event n with
    | none => rwa [h.idle n ha]
    | some a =>
      refine ih.step (h.step n a ha) ?_ trivial
      cases a with
      | finish id k time x =>
        obtain ⟨m, _, hread, _⟩ := ht.finish n id k time x ha
        exact hread ▸ hc m
      | _ => trivial

theorem clock_replay_le {l : List (Instant × Event)} {b : Instant} (hl : ∀ p ∈ l, p.1 ≤ b)
    (n : ℕ) : (Execution.replay l).clock n ≤ b := by
  simp only [Execution.replay]
  cases h : (l.take (n + 1)).getLast? with
  | none => exact Nat.zero_le b
  | some p => exact hl p (List.mem_of_mem_take (List.mem_of_getLast? h))

/-- Only its own exit makes the running task give way. -/
theorem running_step (h : Step now w a w') (ho : OneAlive w) (hr : w.running = some id) :
    w'.running = some id ∨ a = .task id .exit := by
  cases h with
  | start => exact Or.inl (by rw [Watcher.start_of_running hr, hr])
  | stop i => exact Or.inl hr
  | add h => exact Or.inl ((Watcher.add_edited h).running.trans hr)
  | remove h => exact Or.inl ((Watcher.remove_edited h).running.trans hr)
  | update h => exact Or.inl ((Watcher.updateInterval_edited h).running.trans hr)
  | @task i t step ht he =>
    rw [Watcher.takeStep_running]
    split_ifs with hexit
    · subst hexit
      have hi := ho i t.phase (by simp [Watcher.phase?, ht]) he.phase_ne_ended
      obtain rfl := Option.some.inj (hi.symm.trans hr)
      exact Or.inr rfl
    · exact Or.inl hr
  | finish hp h => exact Or.inl ((Watcher.finishCheck_running h).trans hr)

theorem exit_isStopped (h : Step now w (.task id .exit) w') : w.isStopped id = true := by
  cases h with
  | task ht he => simpa [Watcher.isStopped, ht] using he.1

/-- A task that was not stopped stays the running one while nobody stops it. -/
theorem Spared.running (h : Spared id w v) (hw : Sound w) (hr : w.running = some id)
    (hstop : w.isStopped id = false) : v.running = some id ∧ v.isStopped id = false := by
  induction h with
  | refl => exact ⟨hr, hstop⟩
  | @step v v' now a h hs hrange ha ih =>
    obtain ⟨hrun, hfree⟩ := ih
    have hfree' : v'.isStopped id = false := by
      rw [← Bool.not_eq_true, isStopped_step hs, hfree]
      simp [ha]
    refine ⟨(running_step hs (h.sound hw).oneAlive hrun).resolve_right ?_, hfree'⟩
    rintro rfl
    exact Bool.false_ne_true (hfree.symm.trans (exit_isStopped hs))

/-- The watcher after a task has taken steps by itself, one after another. -/
def Watcher.alone (id : TaskId) (now : Instant) : ℕ → Watcher → Watcher
  | 0, w => w
  | n + 1, w =>
    match w.nextStep? id now with
    | some step => alone id now n (w.takeStep id step)
    | none => w

theorem alone_succ {step : Watcher.TaskStep} (h : w.nextStep? id now = some step) (n : ℕ) :
    w.alone id now (n + 1) = (w.takeStep id step).alone id now n := by
  rw [Watcher.alone, h]

/-- A task that goes to look at the schedule reads its notes, looks again after each, and then
checks the head if that is due. -/
theorem alone_of_looking {n : ℕ} (ht : w.tasks[id]? = some ⟨.looking, n, false⟩)
    (hf : w.schedule.head? = some f) (hdue : f.nextCheck ≤ now) :
    (w.alone id now (2 * n + 2)).phase? id = some (.checking f.key) := by
  have harm : w.nextStep? id now = some .arm := by simp [Watcher.nextStep?, ht]
  have hwait : (w.takeStep id .arm).tasks[id]? =
      some ⟨.waiting (some f.nextCheck) w.generation, n, false⟩ := by
    simp [Watcher.takeStep, Watcher.onTask_tasks, ht, hf]
  induction n generalizing w with
  | zero =>
    have hkey : (w.takeStep id .arm).dueKey? w.generation now = some f.key :=
      Watcher.dueKey?_eq_some_iff.mpr ⟨rfl, f, hf, hdue, rfl⟩
    have hfire : (w.takeStep id .arm).nextStep? id now = some (.fire (some f.key)) := by
      simp [Watcher.nextStep?, hwait, hdue, hkey]
    rw [alone_succ harm, alone_succ hfire, Watcher.alone, Watcher.phase?_takeStep hwait,
      if_pos rfl, Watcher.TaskStep.phase]
  | succ n ih =>
    have hread : (w.takeStep id .arm).nextStep? id now = some .readNote := by
      simp [Watcher.nextStep?, hwait]
    have hlook : ((w.takeStep id .arm).takeStep id .readNote).tasks[id]? =
        some ⟨.looking, n, false⟩ := by
      simp [Watcher.takeStep, Watcher.onTask_tasks, ht]
    rw [show 2 * (n + 1) + 2 = 2 * n + 2 + 1 + 1 from rfl, alone_succ harm, alone_succ hread]
    exact ih hlook (by simpa using hf) (by simp [Watcher.nextStep?, hlook])
      (by simp [Watcher.takeStep, Watcher.onTask_tasks, ht, hf])

/-- A task that waits reads its notes first; without any its timer is the right one. -/
theorem alone_of_waiting {n : ℕ} {d : Option Instant} {g : UInt64} (hw : Awake w)
    (ht : w.tasks[id]? = some ⟨.waiting d g, n, false⟩) (hf : w.schedule.head? = some f)
    (hdue : f.nextCheck ≤ now) :
    (w.alone id now (2 * n + 1)).phase? id = some (.checking f.key) := by
  cases n with
  | zero =>
    obtain ⟨rfl, hcovers⟩ := (hw id _ d g ht rfl).resolve_left (Nat.lt_irrefl 0)
    obtain ⟨deadline, rfl, hle⟩ := hcovers f (List.mem_of_head? hf)
    have hkey : w.dueKey? w.generation now = some f.key :=
      Watcher.dueKey?_eq_some_iff.mpr ⟨rfl, f, hf, hdue, rfl⟩
    have hfire : w.nextStep? id now = some (.fire (some f.key)) := by
      simp [Watcher.nextStep?, ht, Nat.le_trans hle hdue, hkey]
    rw [alone_succ hfire, Nat.mul_zero, Watcher.alone, Watcher.phase?_takeStep ht, if_pos rfl,
      Watcher.TaskStep.phase]
  | succ n =>
    have hread : w.nextStep? id now = some .readNote := by simp [Watcher.nextStep?, ht]
    have hlook : (w.takeStep id .readNote).tasks[id]? = some ⟨.looking, n, false⟩ := by
      simp [Watcher.takeStep, Watcher.onTask_tasks, ht]
    rw [alone_succ hread]
    exact alone_of_looking hlook (by simpa using hf) hdue

/-- How many notes a task has not read. -/
def Watcher.notesOf (w : Watcher) (id : TaskId) : ℕ := (w.tasks[id]?.map (·.notes)).getD 0

/-- A watcher does what it was started for: clients can add keys, and when a key is due its task is
checking, or is going to check the head of the schedule after a few steps by itself. -/
structure Serves (w : Watcher) (id : TaskId) : Prop where
  running : w.running = some id
  adds : ∀ key seconds now, 0 ≤ seconds → now + Span.ofSeconds seconds.toNat < Instant.limit →
    (w.add key seconds now).1 = .ok
  checks : ∀ now, ∀ e ∈ w.schedule, e.nextCheck ≤ now →
    (∃ key, w.phase? id = some (.checking key)) ∨
    ∃ f n, w.schedule.head? = some f ∧ f.nextCheck ≤ now ∧ n ≤ 2 * w.notesOf id + 2 ∧
      (w.alone id now n).phase? id = some (.checking f.key)

theorem add_ok {seconds : Int} (hr : w.running = some id) (hs : 0 ≤ seconds)
    (hn : now + Span.ofSeconds seconds.toNat < Instant.limit) : (w.add k seconds now).1 = .ok := by
  have hrun : w.isRunning = true := by simp [Watcher.isRunning, hr]
  rw [Watcher.add, if_neg (Int.not_lt.mpr hs), if_neg (by simp [hrun]), Watcher.reschedule]
  simp [Schedule.upsert, Instant.after?, hn]

theorem serves_of_running (hw : Sound w) (hr : w.running = some id)
    (hstop : w.isStopped id = false) : Serves w id where
  running := hr
  adds _ _ _ := add_ok hr
  checks now e he hdue := by
    obtain ⟨p, hp, hne⟩ := hw.alive id hr
    obtain ⟨⟨p, n, stopped⟩, ht, rfl⟩ := Option.map_eq_some_iff.mp hp
    obtain rfl : stopped = false := by simpa [Watcher.isStopped, ht] using hstop
    have hnotes : w.notesOf id = n := by simp [Watcher.notesOf, ht]
    obtain ⟨f, hf⟩ : ∃ f, w.schedule.head? = some f := by
      cases hh : w.schedule.head? with
      | none => simp [List.head?_eq_none_iff.mp hh] at he
      | some f => exact ⟨f, rfl⟩
    have hfdue := Nat.le_trans (hw.ordered.head_le hf he) hdue
    cases p with
    | looking =>
      exact Or.inr ⟨f, _, hf, hfdue, by omega, alone_of_looking ht hf hfdue⟩
    | waiting d g =>
      exact Or.inr ⟨f, _, hf, hfdue, by omega, alone_of_waiting hw.awake ht hf hfdue⟩
    | checking key => exact Or.inl ⟨key, hp⟩
    | ended => exact absurd rfl hne

/-- A running task that was stopped can exit. -/
theorem exit_step (hw : Sound w) (hr : w.running = some id) (hstop : w.isStopped id = true) :
    Step now w (.task id .exit) (w.takeStep id .exit) := by
  obtain ⟨p, hp, hne⟩ := hw.alive id hr
  obtain ⟨t, ht, rfl⟩ := Option.map_eq_some_iff.mp hp
  exact .task ht ⟨by simpa [Watcher.isStopped, ht] using hstop, hne⟩

/-- Whatever clients and the task do after a start, the watcher goes on to serve while nobody stops
the task whose handle was answered, exactly if that task had not been stopped before. -/
theorem serves_after_start_iff (h : Reached w) :
    (∀ v, Spared w.start.1 w.start.2 v → Serves v w.start.1) ↔
      w.isStopped w.start.1 = false := by
  have hstart : Step 0 w .start w.start.2 := .start
  have hw : Sound w.start.2 := sound_step (h.sound sound_new) hstart trivial
  constructor
  · intro hserves
    by_contra hstop
    rw [Bool.not_eq_false, ← Watcher.isStopped_start] at hstop
    have hexit : Step 0 w.start.2 _ _ := exit_step hw Watcher.running_start hstop
    have hlost := (hserves _ (.step .refl hexit trivial (by simp))).running
    rw [Watcher.takeStep_running, if_pos rfl] at hlost
    cases hlost
  · intro hfree v hv
    obtain ⟨hr, hs⟩ := hv.running hw Watcher.running_start (by rwa [Watcher.isStopped_start])
    exact serves_of_running (hv.sound hw) hr hs

/-- A watcher is stopped, and its task exits. -/
def stoppedRun : List (Instant × Event) :=
  [(0, .start), (0, .add sampleKey 5 .ok), (0, .stop 0), (0, .task 0 .exit)]

theorem reached_stoppedRun (n : ℕ) : Reached ((Execution.replay stoppedRun).state n) := by
  have hl : Legal {} stoppedRun :=
    ⟨trivial, rfl, trivial, ⟨_, rfl, rfl, by simp⟩, trivial⟩
  refine reached_of_execution (valid_replay hl)
    (timely_replay hl (by decide) (by simp [stoppedRun])) (fun m => ?_) n
  rw [Nat.le_zero.mp (clock_replay_le (l := stoppedRun) (b := 0) (by decide) m)]
  decide

/-- Once the task has exited, the watcher starts anew. -/
theorem stoppedRun_starts_anew :
    ((Execution.replay stoppedRun).state 4).running = none ∧
      ∀ v, Spared 1 ((Execution.replay stoppedRun).state 4).start.2 v → Serves v 1 :=
  ⟨rfl, (serves_after_start_iff (reached_stoppedRun 4)).mpr rfl⟩

/-- Before that, who starts the watcher gets the handle of the task that was stopped. When it exits,
the watcher stands still and takes no keys, although nobody stopped it since. -/
theorem start_before_exit_is_lost :
    Reached ((Execution.replay stoppedRun).state 3) ∧
      ((Execution.replay stoppedRun).state 3).start.1 = 0 ∧
      ∃ v, Spared 0 ((Execution.replay stoppedRun).state 3).start.2 v ∧ v.isRunning = false ∧
        (v.add otherKey 60 0).1 = .refused .notStarted := by
  have hexit : Step 0 ((Execution.replay stoppedRun).state 3).start.2 (.task 0 .exit)
      (((Execution.replay stoppedRun).state 3).start.2.takeStep 0 .exit) :=
    .task (t := ⟨.looking, 1, true⟩) rfl ⟨rfl, by simp⟩
  exact ⟨reached_stoppedRun 3, rfl, _, .step .refl hexit trivial (by simp), rfl, rfl⟩

end GitDrift.Drift
