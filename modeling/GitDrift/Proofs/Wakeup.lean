import GitDrift.Proofs.Execution

/-! A task that waits is woken in time: it has a note to read, or its timer is early enough. -/
namespace GitDrift.Drift

variable {E : Execution} {n : ℕ} {now : Instant} {w w' : Watcher} {a : Event} {s s' : Schedule}
  {d : Option Instant} {g : UInt64} {id : TaskId} {t : Task}

/-- A timer goes off before anything is due. -/
def Covers (d : Option Instant) (s : Schedule) : Prop :=
  ∀ e ∈ s, ∃ deadline, d = some deadline ∧ deadline ≤ e.nextCheck

/-- What a task waits with: a note that it has not read, or a timer of the current generation that
covers the schedule. -/
def Awake (w : Watcher) : Prop :=
  ∀ (i : TaskId) (t : Task) d g, w.tasks[i]? = some t → t.phase = .waiting d g →
    0 < t.notes ∨ g = w.generation ∧ Covers d w.schedule

theorem covers_head (h : s.Ordered) : Covers (s.head?.map (·.nextCheck)) s := by
  intro e he
  cases hs : s.head? with
  | none => simp [List.head?_eq_none_iff.mp hs] at he
  | some f => exact ⟨f.nextCheck, rfl, h.head_le hs he⟩

theorem Covers.sublist (h : Covers d s) (hs : s'.Sublist s) : Covers d s' :=
  fun e he => h e (hs.subset he)

/-- A client's call either leaves a note or can only make the next check later. -/
theorem awake_edited (h : Watcher.Edited w w') (ho : OneAlive w) (hw : Awake w) : Awake w' := by
  intro i t d g ht hp
  cases h with
  | noted s =>
    have hphase : w.phase? i = some (.waiting d g) := by
      rw [← (Watcher.Edited.noted s).phase? i, Watcher.phase?, ht, Option.map_some, hp]
    have hrun := ho i _ hphase (by simp)
    rw [Watcher.touch_tasks (w := { w with schedule := s }) hrun] at ht
    obtain ⟨u, _, rfl⟩ := Option.map_eq_some_iff.mp ht
    exact Or.inl (Nat.succ_pos u.notes)
  | silent hs => exact (hw i t d g ht hp).imp_right (And.imp_right fun hc => hc.sublist hs)

theorem awake_step (h : Step now w a w') (hs : w.schedule.Ordered) (ho : OneAlive w)
    (hw : Awake w) : Awake w' := by
  cases h with
  | start =>
    cases hr : w.running with
    | none =>
      intro i t d g ht hp
      simp only [Watcher.start, hr, List.getElem?_append] at ht ⊢
      split at ht
      · exact hw i t d g ht hp
      · obtain rfl : t = {} := by simpa using List.mem_of_getElem? ht
        cases hp
    | some id => rwa [Watcher.start_of_running hr]
  | stop id =>
    intro i t d g ht hp
    rw [Watcher.stop, Watcher.onTask_tasks] at ht
    split at ht
    · obtain ⟨u, hu, rfl⟩ := Option.map_eq_some_iff.mp ht
      exact hw i u d g hu hp
    · exact hw i t d g ht hp
  | add h => exact awake_edited (Watcher.add_edited h) ho hw
  | remove h => exact awake_edited (Watcher.remove_edited h) ho hw
  | update h => exact awake_edited (Watcher.updateInterval_edited h) ho hw
  | @task id u step hu he =>
    intro i t d g ht hp
    rw [Watcher.takeStep_schedule, Watcher.takeStep_generation]
    by_cases hi : id = i
    · -- only arming makes a task wait, and it looks at the head
      have hphase : (w.takeStep id step).phase? i = some (.waiting d g) := by
        rw [Watcher.phase?, ht, Option.map_some, hp]
      rw [Watcher.phase?_takeStep hu, if_pos hi] at hphase
      cases step with
      | arm =>
        obtain ⟨rfl, rfl⟩ := TaskPhase.waiting.inj (Option.some.inj hphase)
        exact Or.inr ⟨rfl, covers_head hs⟩
      | readNote => cases hphase
      | fire key => cases key <;> cases hphase
      | exit => cases hphase
    · rw [Watcher.takeStep_tasks_of_ne hi] at ht
      exact hw i t d g ht hp
  | @finish id k time x w' hc h =>
    intro i t d g ht hp
    have hphase : w'.phase? i = some (.waiting d g) := by
      rw [Watcher.phase?, ht, Option.map_some, hp]
    rw [Watcher.phase?_finishCheck h hc] at hphase
    split at hphase
    · cases x <;> cases hphase
    · -- no other task waits while a check is under way
      rename_i hi
      have hid := ho id _ hc (by simp)
      exact absurd (Option.some.inj (hid.symm.trans (ho i _ hphase (by simp)))) hi

theorem awake (h : Valid E) (n : ℕ) : Awake (E.state n) := by
  induction n with
  | zero => simp [h.initial, Awake]
  | succ n ih =>
    cases ha : E.event n with
    | none => rwa [h.idle n ha]
    | some a => exact awake_step (h.step n a ha) (ordered_schedule h n) (oneAlive h n) ih

/-- With a timer of the current generation that covers the schedule, a key that is due is found. -/
theorem dueKey?_of_due {e : Entry} (hs : w.schedule.Ordered) (he : e ∈ w.schedule)
    (hd : e.nextCheck ≤ now) : ∃ key, w.dueKey? w.generation now = some key := by
  cases hh : w.schedule.head? with
  | none => simp [List.head?_eq_none_iff.mp hh] at he
  | some f =>
    have hle := hs.head_le hh he
    exact ⟨f.key, Watcher.dueKey?_eq_some_iff.mpr ⟨rfl, f, hh, Nat.le_trans hle hd, rfl⟩⟩

/-- A task that waits while a key is due has something to do. -/
theorem nextStep?_of_due {e : Entry} (hw : Awake w) (hs : w.schedule.Ordered)
    (ht : w.tasks[id]? = some t) (hp : t.phase = .waiting d g) (he : e ∈ w.schedule)
    (hd : e.nextCheck ≤ now) :
    t.stopped = true ∧ w.nextStep? id now = some .exit ∨
      0 < t.notes ∧ w.nextStep? id now = some .readNote ∨
      ∃ key, w.nextStep? id now = some (.fire (some key)) := by
  by_cases hstop : t.stopped
  · simp [Watcher.nextStep?, ht, hp, hstop]
  · by_cases hn : 0 < t.notes
    · simp [Watcher.nextStep?, ht, hp, hstop, hn]
    · obtain ⟨rfl, hc⟩ := (hw id t d g ht hp).resolve_left hn
      obtain ⟨deadline, rfl, hle⟩ := hc e he
      obtain ⟨key, hk⟩ := dueKey?_of_due hs he hd
      refine Or.inr (Or.inr ⟨key, ?_⟩)
      simp [Watcher.nextStep?, ht, hp, hstop, hn, Nat.le_trans hle hd, hk]

/-- A task that waits has a note, or its timer is set and goes off no later than any key is due. So
when a key is due the task is not idle: unless it was stopped, it reads a note or starts a check. -/
theorem no_lost_wakeup (h : Valid E) (ht : (E.state n).tasks[id]? = some t)
    (hp : t.phase = .waiting d g) :
    (0 < t.notes ∨ ∀ e ∈ (E.state n).schedule, ∃ deadline, d = some deadline ∧
      deadline ≤ e.nextCheck) ∧
    ∀ now, ∀ e ∈ (E.state n).schedule, e.nextCheck ≤ now →
      t.stopped = true ∧ (E.state n).nextStep? id now = some .exit ∨
      0 < t.notes ∧ (E.state n).nextStep? id now = some .readNote ∨
      ∃ key, (E.state n).nextStep? id now = some (.fire (some key)) := by
  have hw := awake h n
  constructor
  · exact (hw id t d g ht hp).imp_right And.right
  · intro now e he hd
    exact nextStep?_of_due hw (ordered_schedule h n) ht hp he hd

theorem sampleRun_no_lost_wakeup :
    ((Execution.replay sampleRun).state 5).tasks[0]? = some ⟨.waiting (some 5000) 1, 0, false⟩ ∧
      ∀ now, 5000 ≤ now →
        ∃ key,
          ((Execution.replay sampleRun).state 5).nextStep? 0 now = some (.fire (some key)) := by
  have ht : ((Execution.replay sampleRun).state 5).tasks[0]? =
      some ⟨.waiting (some 5000) 1, 0, false⟩ := rfl
  have hs : ⟨sampleKey, 5000, none, 5000⟩ ∈ ((Execution.replay sampleRun).state 5).schedule :=
    List.mem_singleton_self _
  refine ⟨ht, fun now hnow => ?_⟩
  obtain ⟨hstop, _⟩ | ⟨hnote, _⟩ | hf := (no_lost_wakeup valid_sampleRun ht rfl).2 now _ hs hnow
  · cases hstop
  · cases hnote
  · exact hf

end GitDrift.Drift
