import GitDrift.Drift.Watcher
import GitDrift.Proofs.Schedule

/-! What the operations of a watcher do to its schedule and its tasks, and what they leave alone. -/
namespace GitDrift.Drift

variable {k key : PatternKey} {d : Span} {now time : Instant} {seconds : Int}

theorem Instant.after?_eq_some_iff {t next : Instant} :
    t.after? d = some next ↔ t + d < Instant.limit ∧ next = t + d := by
  unfold Instant.after?
  split
  · rename_i hlt
    simp [hlt, eq_comm]
  · rename_i hlt
    simp [hlt]

namespace Schedule

variable {s s' : Schedule}

/-- The schedule in which a key is booked anew: its next check is one interval away. -/
def book (s : Schedule) (k : PatternKey) (d : Span) (now : Instant) : Schedule :=
  place ⟨k, d, none, now + d⟩ (without s k)

/-- An entry whose check has just finished. -/
def checked (e : Entry) (time : Instant) : Entry :=
  { e with lastCheck := some time, nextCheck := time + e.interval }

theorem upsert_cases {r : Except ClockOverflow Bool} (h : upsert s k d now = (r, s')) :
    ((∃ b, r = .ok b) ∧ s' = book s k d now) ∨ (r = .error .overflow ∧ s' = without s k) := by
  simp only [upsert] at h
  cases hn : now.after? d with
  | none =>
    rw [hn] at h
    obtain ⟨rfl, rfl⟩ := Prod.mk.inj h
    exact Or.inr ⟨rfl, rfl⟩
  | some next =>
    rw [hn] at h
    obtain ⟨rfl, rfl⟩ := Prod.mk.inj h
    obtain ⟨_, rfl⟩ := Instant.after?_eq_some_iff.mp hn
    exact Or.inl ⟨⟨_, rfl⟩, rfl⟩

theorem complete_cases {r : Except ClockOverflow Bool} (h : complete s k time = (r, s')) :
    (∃ e, entryOf s k = some e ∧ e.nextCheck ≤ time ∧ r = .ok true ∧
      s' = place (checked e time) (without s k)) ∨
    ((∀ e, entryOf s k = some e → time < e.nextCheck) ∧ r = .ok false ∧ s' = s) ∨
    (r = .error .overflow ∧ s' = without s k) := by
  unfold complete at h
  cases he : entryOf s k with
  | none =>
    rw [he] at h
    obtain ⟨rfl, rfl⟩ := Prod.mk.inj h
    exact Or.inr (Or.inl ⟨by simp, rfl, rfl⟩)
  | some e =>
    simp only [he] at h
    split at h
    · rename_i hlt
      obtain ⟨rfl, rfl⟩ := Prod.mk.inj h
      exact Or.inr (Or.inl ⟨by simpa using hlt, rfl, rfl⟩)
    · rename_i hlt
      cases hn : time.after? e.interval with
      | none =>
        simp only [hn] at h
        obtain ⟨rfl, rfl⟩ := Prod.mk.inj h
        exact Or.inr (Or.inr ⟨rfl, rfl⟩)
      | some next =>
        simp only [hn] at h
        obtain ⟨rfl, rfl⟩ := Prod.mk.inj h
        obtain ⟨_, rfl⟩ := Instant.after?_eq_some_iff.mp hn
        exact Or.inl ⟨e, rfl, Nat.le_of_not_lt hlt, rfl, rfl⟩

end Schedule

/-- The entry of a key when a check of it is over: one that is not due stays, and one that is due is
scheduled anew, unless the clock overflows. -/
def Entry.finished (e : Entry) (time : Instant) : Option Entry :=
  if time < e.nextCheck then some e
  else if time + e.interval < Instant.limit then some (Schedule.checked e time)
  else none

/-- What the end of a check makes of the entry that it finds, if it finds one. -/
theorem Schedule.entryOf_complete (s : Schedule) (k : PatternKey) (time : Instant) :
    (s.complete k time).2.entryOf k = (s.entryOf k).bind (·.finished time) := by
  cases he : s.entryOf k with
  | none => simp [Schedule.complete, he]
  | some e =>
    obtain rfl := Schedule.key_of_entryOf he
    simp only [Schedule.complete, he, Instant.after?, Option.bind_some, Entry.finished]
    by_cases hlate : time < e.nextCheck
    · simp [hlate, he]
    · by_cases hfits : time + e.interval < Instant.limit
      · simp only [hlate, hfits, if_false, if_true]
        exact (Schedule.entryOf_replace s (Schedule.checked e time) e.key).trans (if_pos rfl)
      · simp only [hlate, hfits, if_false]
        exact (Schedule.entryOf_without s e.key e.key).trans (if_pos rfl)

namespace Watcher

variable {w w' : Watcher} {id i : TaskId} {f : Task → Task} {s : Schedule} {r : ChangeResult}

/-- Where a task stands, if it was ever started. -/
def phase? (w : Watcher) (id : TaskId) : Option TaskPhase := w.tasks[id]?.map (·.phase)

@[simp] theorem onTask_schedule : (w.onTask id f).schedule = w.schedule := rfl

@[simp] theorem onTask_running : (w.onTask id f).running = w.running := rfl

@[simp] theorem onTask_generation : (w.onTask id f).generation = w.generation := rfl

theorem onTask_tasks (w : Watcher) (id : TaskId) (f : Task → Task) (i : TaskId) :
    (w.onTask id f).tasks[i]? = if id = i then w.tasks[i]?.map f else w.tasks[i]? := by
  rw [onTask, List.getElem?_modify]
  split <;> simp

theorem phase?_onTask (w : Watcher) (id : TaskId) (f : Task → Task) (i : TaskId) :
    (w.onTask id f).phase? i =
      if id = i then w.tasks[i]?.map fun t => (f t).phase else w.phase? i := by
  rw [phase?, onTask_tasks]
  split
  · rw [Option.map_map]
    rfl
  · rfl

/-- Changing a task in other respects leaves all tasks where they stand. -/
theorem phase?_onTask_same (hf : ∀ t, (f t).phase = t.phase) :
    (w.onTask id f).phase? i = w.phase? i := by
  rw [phase?_onTask]
  simp [hf, phase?]

@[simp] theorem phase?_stop : (w.stop id).phase? i = w.phase? i :=
  phase?_onTask_same fun _ => rfl

@[simp] theorem touch_schedule : w.touch.schedule = w.schedule := by
  simp only [touch]
  split <;> rfl

@[simp] theorem touch_running : w.touch.running = w.running := by
  simp only [touch]
  split <;> simp_all

@[simp] theorem phase?_touch : w.touch.phase? i = w.phase? i := by
  simp only [touch]
  split
  · exact phase?_onTask_same fun _ => rfl
  · rfl

/-- The running task finds a note after a change. -/
theorem touch_tasks (h : w.running = some id) :
    w.touch.tasks[id]? = w.tasks[id]?.map fun t => { t with notes := t.notes + 1 } := by
  simp only [touch, h]
  simp [onTask_tasks]

@[simp] theorem start_schedule : w.start.2.schedule = w.schedule := by
  unfold start
  split <;> rfl

theorem start_of_running (h : w.running = some id) : w.start.2 = w := by simp [start, h]

theorem start_running (h : w.running = none) : w.start.2.running = some w.tasks.length := by
  simp [start, h]

/-- The handle that starting answers with is that of the task that runs then. -/
theorem running_start : w.start.2.running = some w.start.1 := by
  unfold start
  split
  · assumption
  · rfl

theorem phase?_start (h : w.running = none) :
    w.start.2.phase? i = if i = w.tasks.length then some .looking else w.phase? i := by
  simp only [start, h, phase?]
  split
  · rename_i hi
    simp [hi]
  · rename_i hi
    rcases Nat.lt_or_gt_of_ne hi with hlt | hlt
    · simp [List.getElem?_append_left hlt]
    · have hlen : (w.tasks ++ [({} : Task)]).length ≤ i := by
        rw [List.length_append]
        exact hlt
      rw [List.getElem?_eq_none hlen, List.getElem?_eq_none (Nat.le_of_lt hlt)]

theorem reschedule_cases (h : w.reschedule k d now = (r, w')) :
    (r = .ok ∧ w' = touch { w with schedule := w.schedule.book k d now }) ∨
    (r = .overflow ∧ w' = { w with schedule := w.schedule.without k }) := by
  simp only [reschedule] at h
  generalize hu : w.schedule.upsert k d now = u at h
  obtain ⟨x, s⟩ := u
  rcases Schedule.upsert_cases hu with ⟨⟨b, rfl⟩, rfl⟩ | ⟨rfl, rfl⟩
  · obtain ⟨rfl, rfl⟩ := Prod.mk.inj h
    exact Or.inl ⟨rfl, rfl⟩
  · obtain ⟨rfl, rfl⟩ := Prod.mk.inj h
    exact Or.inr ⟨rfl, rfl⟩

theorem add_cases (h : w.add k seconds now = (r, w')) :
    (0 ≤ seconds ∧ w.reschedule k (Span.ofSeconds seconds.toNat) now = (r, w')) ∨
    ((∃ e, r = .refused e) ∧ w' = w) := by
  unfold add at h
  split at h
  · obtain ⟨rfl, rfl⟩ := Prod.mk.inj h
    exact Or.inr ⟨⟨_, rfl⟩, rfl⟩
  · split at h
    · obtain ⟨rfl, rfl⟩ := Prod.mk.inj h
      exact Or.inr ⟨⟨_, rfl⟩, rfl⟩
    · exact Or.inl ⟨by omega, h⟩

theorem remove_cases (h : w.remove k = (r, w')) :
    (r = .ok ∧ w' = touch { w with schedule := w.schedule.without k }) ∨
    ((∃ e, r = .refused e) ∧ w' = w) := by
  simp only [remove, Schedule.remove] at h
  split at h
  · obtain ⟨rfl, rfl⟩ := Prod.mk.inj h
    exact Or.inr ⟨⟨_, rfl⟩, rfl⟩
  · cases he : w.schedule.entryOf k with
    | none =>
      simp only [he] at h
      obtain ⟨rfl, rfl⟩ := Prod.mk.inj h
      exact Or.inr ⟨⟨_, rfl⟩, rfl⟩
    | some e =>
      simp only [he] at h
      obtain ⟨rfl, rfl⟩ := Prod.mk.inj h
      exact Or.inl ⟨rfl, rfl⟩

theorem updateInterval_cases (h : w.updateInterval k seconds now = (r, w')) :
    (seconds < 0 ∧ w.remove k = (r, w')) ∨
    (0 ≤ seconds ∧ ∃ e, w.schedule.entryOf k = some e ∧
      ((e.interval = Span.ofSeconds seconds.toNat ∧ r = .ok ∧ w' = w) ∨
        (e.interval ≠ Span.ofSeconds seconds.toNat ∧
          w.reschedule k (Span.ofSeconds seconds.toNat) now = (r, w')))) ∨
    ((∃ e, r = .refused e) ∧ w' = w) := by
  unfold updateInterval at h
  split at h
  · rename_i hs
    exact Or.inl ⟨hs, h⟩
  · rename_i hs
    split at h
    · obtain ⟨rfl, rfl⟩ := Prod.mk.inj h
      exact Or.inr (Or.inr ⟨⟨_, rfl⟩, rfl⟩)
    · cases he : w.schedule.entryOf k with
      | none =>
        simp only [he] at h
        obtain ⟨rfl, rfl⟩ := Prod.mk.inj h
        exact Or.inr (Or.inr ⟨⟨_, rfl⟩, rfl⟩)
      | some e =>
        refine Or.inr (Or.inl ⟨by omega, e, rfl, ?_⟩)
        simp only [he] at h
        split at h
        · rename_i hi
          obtain ⟨rfl, rfl⟩ := Prod.mk.inj h
          exact Or.inl ⟨hi, rfl, rfl⟩
        · rename_i hi
          exact Or.inr ⟨hi, h⟩

/-- What a client's call makes of a watcher: either the running task finds a note of the change, or
the schedule has lost an entry at most. -/
inductive Edited (w : Watcher) : Watcher → Prop
  | noted (s : Schedule) : Edited w (touch { w with schedule := s })
  | silent {s : Schedule} (hs : s.Sublist w.schedule) : Edited w { w with schedule := s }

theorem Edited.phase? (h : Edited w w') (i : TaskId) : w'.phase? i = w.phase? i := by
  cases h with
  | noted s => exact phase?_touch
  | silent hs => rfl

theorem Edited.running (h : Edited w w') : w'.running = w.running := by
  cases h with
  | noted s => exact touch_running
  | silent hs => rfl

theorem reschedule_edited (h : w.reschedule k d now = (r, w')) : Edited w w' := by
  rcases reschedule_cases h with ⟨_, rfl⟩ | ⟨_, rfl⟩
  · exact .noted _
  · exact .silent (Schedule.without_sublist w.schedule k)

theorem add_edited (h : w.add k seconds now = (r, w')) : Edited w w' := by
  rcases add_cases h with ⟨_, h⟩ | ⟨_, rfl⟩
  · exact reschedule_edited h
  · exact .silent (List.Sublist.refl _)

theorem remove_edited (h : w.remove k = (r, w')) : Edited w w' := by
  rcases remove_cases h with ⟨_, rfl⟩ | ⟨_, rfl⟩
  · exact .noted _
  · exact .silent (List.Sublist.refl _)

theorem updateInterval_edited (h : w.updateInterval k seconds now = (r, w')) : Edited w w' := by
  rcases updateInterval_cases h with ⟨_, h⟩ | ⟨_, e, _, ⟨_, _, rfl⟩ | ⟨_, h⟩⟩ | ⟨_, rfl⟩
  · exact remove_edited h
  · exact .silent (List.Sublist.refl _)
  · exact reschedule_edited h
  · exact .silent (List.Sublist.refl _)

theorem dueKey?_eq_some_iff {generation : UInt64} :
    w.dueKey? generation now = some k ↔ w.generation = generation ∧
      ∃ e, w.schedule.head? = some e ∧ e.nextCheck ≤ now ∧ e.key = k := by
  unfold dueKey?
  split
  · simp_all
  · rename_i hg
    simp [not_not.mp hg, Option.filter_eq_some_iff, and_assoc]

/-- Where a step of its own brings a task. -/
def TaskStep.phase (w : Watcher) : TaskStep → TaskPhase
  | .arm => .waiting (w.schedule.head?.map (·.nextCheck)) w.generation
  | .readNote | .fire none => .looking
  | .fire (some key) => .checking key
  | .exit => .ended

@[simp] theorem takeStep_schedule {step : TaskStep} :
    (w.takeStep id step).schedule = w.schedule := by
  unfold takeStep
  split <;> rfl

@[simp] theorem takeStep_generation {step : TaskStep} :
    (w.takeStep id step).generation = w.generation := by
  unfold takeStep
  split <;> rfl

theorem takeStep_running {step : TaskStep} :
    (w.takeStep id step).running = if step = .exit then none else w.running := by
  unfold takeStep
  split <;> simp

theorem phase?_takeStep {step : TaskStep} {t : Task} (ht : w.tasks[id]? = some t) :
    (w.takeStep id step).phase? i =
      if id = i then some (step.phase w) else w.phase? i := by
  by_cases hi : id = i
  · subst hi
    unfold takeStep TaskStep.phase
    split <;> simp [phase?, onTask_tasks, ht]
  · unfold takeStep
    split <;> simp [phase?, onTask_tasks, hi]

theorem takeStep_tasks_of_ne {step : TaskStep} (h : id ≠ i) :
    (w.takeStep id step).tasks[i]? = w.tasks[i]? := by
  unfold takeStep
  split <;> simp [onTask_tasks, h]

theorem finishCheck_cases {x : Except ClockOverflow Bool}
    (h : w.finishCheck id k time = (x, w')) :
    (∃ e, w.schedule.entryOf k = some e ∧ e.nextCheck ≤ time ∧ x = .ok true ∧
      w'.schedule = (w.schedule.without k).place (Schedule.checked e time)) ∨
    ((∀ e, w.schedule.entryOf k = some e → time < e.nextCheck) ∧ x = .ok false ∧
      w'.schedule = w.schedule) ∨
    (x = .error .overflow ∧ w'.schedule = w.schedule.without k) := by
  simp only [finishCheck] at h
  generalize hc : w.schedule.complete k time = c at h
  obtain ⟨y, s⟩ := c
  obtain ⟨rfl, rfl⟩ := Prod.mk.inj h
  exact Schedule.complete_cases hc

theorem finishCheck_running {x : Except ClockOverflow Bool}
    (h : w.finishCheck id k time = (x, w')) : w'.running = w.running := by
  obtain rfl := congrArg Prod.snd h
  rfl

/-- Where the end of a check brings its task. -/
def phaseAfter : Except ClockOverflow Bool → TaskPhase
  | .ok _ => .looking
  | .error _ => .ended

theorem phase?_finishCheck {x : Except ClockOverflow Bool} {p : TaskPhase}
    (h : w.finishCheck id k time = (x, w')) (hp : w.phase? id = some p) (i : TaskId) :
    w'.phase? i = if id = i then some (phaseAfter x) else w.phase? i := by
  obtain ⟨t, ht, _⟩ := Option.map_eq_some_iff.mp hp
  simp only [finishCheck] at h
  obtain ⟨rfl, rfl⟩ := Prod.mk.inj h
  rw [phase?_onTask]
  split
  · rename_i hi
    subst hi
    simp only [ht]
    cases (w.schedule.complete k time).1 <;> rfl
  · rfl

theorem isStopped_onTask (w : Watcher) (id : TaskId) (f : Task → Task) (i : TaskId) :
    (w.onTask id f).isStopped i =
      if id = i then (w.tasks[i]?.map fun t => (f t).stopped).getD false else w.isStopped i := by
  rw [isStopped, onTask_tasks]
  split
  · rw [Option.map_map]
    rfl
  · rfl

/-- Changing a task in other respects leaves it stopped or not. -/
theorem isStopped_onTask_same (hf : ∀ t, (f t).stopped = t.stopped) :
    (w.onTask id f).isStopped i = w.isStopped i := by
  rw [isStopped_onTask]
  simp [hf, isStopped]

@[simp] theorem isStopped_touch : w.touch.isStopped i = w.isStopped i := by
  simp only [touch]
  split
  · exact isStopped_onTask_same fun _ => rfl
  · rfl

@[simp] theorem isStopped_takeStep {step : TaskStep} :
    (w.takeStep id step).isStopped i = w.isStopped i := by
  unfold takeStep
  split <;> exact isStopped_onTask_same fun _ => rfl

theorem isStopped_finishCheck {x : Except ClockOverflow Bool}
    (h : w.finishCheck id k time = (x, w')) : w'.isStopped i = w.isStopped i := by
  obtain rfl := congrArg Prod.snd h
  exact isStopped_onTask_same fun _ => rfl

/-- A task that was just started is not stopped. -/
@[simp] theorem isStopped_start : w.start.2.isStopped i = w.isStopped i := by
  unfold start
  split
  · rfl
  · simp only [isStopped, List.getElem?_append]
    split
    · rfl
    · rename_i hi
      rw [List.getElem?_eq_none (Nat.not_lt.mp hi)]
      cases i - w.tasks.length <;> rfl

theorem isStopped_stop : (w.stop id).isStopped i = true ↔
    w.isStopped i = true ∨ i = id ∧ w.phase? i ≠ none := by
  rw [stop, isStopped_onTask]
  split
  · rename_i hi
    subst hi
    cases ht : w.tasks[id]? <;> simp [isStopped, phase?, ht]
  · rename_i hi
    simp [Ne.symm hi]

theorem Edited.isStopped (h : Edited w w') (i : TaskId) : w'.isStopped i = w.isStopped i := by
  cases h with
  | noted s => exact isStopped_touch
  | silent hs => rfl

end Watcher
end GitDrift.Drift
