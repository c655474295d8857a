import GitDrift.Proofs.Watcher

/-!
Steps of a watcher, in which clients and tasks act one at a time. What a step does to the schedule
is its effect, and whatever holds in all executions is shown by effects.
-/
namespace GitDrift.Drift

/-- What happens to a watcher in one step. The calls of clients come with their outcome, and the end
of a check with the time at which it was over and with what became of its entry. -/
inductive Event where
  | start
  | stop (id : TaskId)
  | add (key : PatternKey) (seconds : Int) (result : ChangeResult)
  | remove (key : PatternKey) (result : ChangeResult)
  | update (key : PatternKey) (seconds : Int) (result : ChangeResult)
  | task (id : TaskId) (step : Watcher.TaskStep)
  | finish (id : TaskId) (key : PatternKey) (time : Instant) (result : Except ClockOverflow Bool)
deriving DecidableEq

/-- The task whose own step an event is. -/
def Event.actor? : Event → Option TaskId
  | .task id _ | .finish id _ _ _ => some id
  | _ => none

/-- When a task can take a step of its own. A task looks for notes and for its being stopped only
now and then, and clients may act in between, so neither keeps it from arming or going off. -/
def Watcher.Enabled (w : Watcher) (now : Instant) (t : Task) : Watcher.TaskStep → Prop
  | .arm => t.phase = .looking
  | .readNote => 0 < t.notes ∧ ∃ d g, t.phase = .waiting d g
  | .fire key => ∃ d g, t.phase = .waiting (some d) g ∧ d ≤ now ∧ key = w.dueKey? g now
  | .exit => t.stopped ∧ t.phase ≠ .ended

open Watcher in
/-- One step at a reading of the clock. A check may end at any time and with any result. -/
inductive Step (now : Instant) (w : Watcher) : Event → Watcher → Prop
  | start : Step now w .start w.start.2
  | stop (id : TaskId) : Step now w (.stop id) (w.stop id)
  | add {k seconds r w'} (h : w.add k seconds now = (r, w')) : Step now w (.add k seconds r) w'
  | remove {k r w'} (h : w.remove k = (r, w')) : Step now w (.remove k r) w'
  | update {k seconds r w'} (h : w.updateInterval k seconds now = (r, w')) :
      Step now w (.update k seconds r) w'
  | task {id t step} (ht : w.tasks[id]? = some t) (he : w.Enabled now t step) :
      Step now w (.task id step) (w.takeStep id step)
  | finish {id k time x w'} (hp : w.phase? id = some (.checking k))
      (h : w.finishCheck id k time = (x, w')) : Step now w (.finish id k time x) w'

variable {now : Instant} {w w' : Watcher} {a : Event} {s : Schedule} {e : Entry}
  {k key : PatternKey} {d : Span} {id i : TaskId}

/-- What a step does to the schedule. -/
inductive Effect where
  /-- A client gives a key a new schedule. -/
  | books (key : PatternKey) (interval : Span)
  | drops (key : PatternKey)
  /-- A check that was over at a time reschedules its key. -/
  | completes (key : PatternKey) (time : Instant)
  /-- The clock overflows, and the entry of the key is gone. -/
  | loses (key : PatternKey)
  | keeps
deriving DecidableEq

/-- The effect of an event. A change to the interval that a key has already is none. -/
def Watcher.effect (w : Watcher) : Event → Effect
  | .add k seconds .ok => .books k (Span.ofSeconds seconds.toNat)
  | .add k _ .overflow => .loses k
  | .remove k .ok => .drops k
  | .update k seconds .ok =>
    if seconds < 0 then .drops k
    else if (w.schedule.entryOf k).map (·.interval) = some (Span.ofSeconds seconds.toNat) then
      .keeps
    else .books k (Span.ofSeconds seconds.toNat)
  | .update k _ .overflow => .loses k
  | .finish _ k time (.ok true) => .completes k time
  | .finish _ k _ (.error _) => .loses k
  | _ => .keeps

namespace Effect

/-- The key whose entry an effect concerns. -/
def key? : Effect → Option PatternKey
  | .books key _ | .drops key | .completes key _ | .loses key => some key
  | .keeps => none

/-- The schedule after an effect. -/
def apply (now : Instant) (s : Schedule) : Effect → Schedule
  | .books k d => s.book k d now
  | .drops k | .loses k => s.without k
  | .completes k time =>
    match s.entryOf k with
    | some e => (s.without k).place (Schedule.checked e time)
    | none => s
  | .keeps => s

/-- The entry of a key after an effect. -/
def onEntry (now : Instant) (k : PatternKey) (o : Option Entry) : Effect → Option Entry
  | .books key d => if k = key then some ⟨key, d, none, now + d⟩ else o
  | .drops key | .loses key => if k = key then none else o
  | .completes key time => if k = key then o.map (Schedule.checked · time) else o
  | .keeps => o

theorem entryOf_apply (f : Effect) (now : Instant) (s : Schedule) (k : PatternKey) :
    (f.apply now s).entryOf k = f.onEntry now k (s.entryOf k) := by
  cases f with
  | books key d => exact Schedule.entryOf_replace s ⟨key, d, none, now + d⟩ k
  | drops key => exact Schedule.entryOf_without s key k
  | loses key => exact Schedule.entryOf_without s key k
  | completes key time =>
    cases he : s.entryOf key with
    | none => by_cases hk : k = key <;> simp_all [apply, onEntry]
    | some e =>
      have hr := Schedule.entryOf_replace s (Schedule.checked e time) k
      have hke : (Schedule.checked e time).key = key := Schedule.key_of_entryOf (e := e) he
      rw [hke] at hr
      by_cases hk : k = key <;> simp_all [apply, onEntry]
  | keeps => rfl

theorem onEntry_of_ne {f : Effect} (h : f.key? ≠ some k) (now : Instant) (o : Option Entry) :
    f.onEntry now k o = o := by
  cases f <;> simp_all [key?, onEntry, eq_comm]

theorem ordered_apply (f : Effect) (now : Instant) (h : s.Ordered) : (f.apply now s).Ordered := by
  cases f with
  | books key d => exact (h.without key).place _
  | drops key => exact h.without key
  | loses key => exact h.without key
  | completes key time =>
    simp only [apply]
    split
    · exact (h.without key).place _
    · exact h
  | keeps => exact h

theorem nodup_apply (f : Effect) (now : Instant) (h : s.keys.Nodup) :
    (f.apply now s).keys.Nodup := by
  cases f with
  | books key d => exact Schedule.nodup_replace h ⟨key, d, none, now + d⟩
  | drops key => exact Schedule.nodup_without h key
  | loses key => exact Schedule.nodup_without h key
  | completes key time =>
    simp only [apply]
    split
    · rename_i e he
      have hke : (Schedule.checked e time).key = key := Schedule.key_of_entryOf (e := e) he
      exact hke ▸ Schedule.nodup_replace h (Schedule.checked e time)
    · exact h
  | keeps => exact h

end Effect

/-- A step changes the schedule by its effect and in no other way. -/
theorem schedule_step (h : Step now w a w') : w'.schedule = (w.effect a).apply now w.schedule := by
  cases h with
  | start => simp [Watcher.effect, Effect.apply]
  | stop id => rfl
  | add h =>
    rcases Watcher.add_cases h with ⟨_, h⟩ | ⟨⟨e, rfl⟩, rfl⟩
    · rcases Watcher.reschedule_cases h with ⟨rfl, rfl⟩ | ⟨rfl, rfl⟩ <;>
        simp [Watcher.effect, Effect.apply]
    · rfl
  | remove h =>
    rcases Watcher.remove_cases h with ⟨rfl, rfl⟩ | ⟨⟨e, rfl⟩, rfl⟩
    · simp [Watcher.effect, Effect.apply]
    · rfl
  | @update k seconds r w' h =>
    rcases Watcher.updateInterval_cases h with ⟨hs, h⟩ | ⟨hs, e, he, h⟩ | ⟨⟨e, rfl⟩, rfl⟩
    · rcases Watcher.remove_cases h with ⟨rfl, rfl⟩ | ⟨⟨e, rfl⟩, rfl⟩
      · simp [Watcher.effect, Effect.apply, hs]
      · rfl
    · have hs : ¬ seconds < 0 := by omega
      rcases h with ⟨hi, rfl, rfl⟩ | ⟨hi, h⟩
      · simp [Watcher.effect, Effect.apply, hs, he, hi]
      · rcases Watcher.reschedule_cases h with ⟨rfl, rfl⟩ | ⟨rfl, rfl⟩ <;>
          simp [Watcher.effect, Effect.apply, hs, he, hi]
    · rfl
  | task ht he => simp [Watcher.effect, Effect.apply]
  | finish hp h =>
    rcases Watcher.finishCheck_cases h with ⟨e, he, _, rfl, hs⟩ | ⟨_, rfl, hs⟩ | ⟨rfl, hs⟩ <;>
      simp_all [Watcher.effect, Effect.apply]

theorem effect_eq_completes_iff {time : Instant} :
    w.effect a = .completes k time ↔ ∃ id, a = .finish id k time (.ok true) := by
  constructor
  · intro h
    unfold Watcher.effect at h
    split at h <;> (try split_ifs at h) <;> simp_all
  · rintro ⟨id, rfl⟩
    rfl

/-- Only a check that finds its entry due reschedules it. -/
theorem completes_due {time : Instant} (h : Step now w a w')
    (ha : w.effect a = .completes k time) :
    ∃ e, w.schedule.entryOf k = some e ∧ e.nextCheck ≤ time := by
  obtain ⟨id, rfl⟩ := effect_eq_completes_iff.mp ha
  cases h with
  | finish hp h =>
    rcases Watcher.finishCheck_cases h with ⟨e, he, hle, _⟩ | ⟨_, hx, _⟩ | ⟨hx, _⟩
    · exact ⟨e, he, hle⟩
    · simp at hx
    · simp at hx

/-- Only steps of its own change where a task stands. -/
theorem phase?_step (h : Step now w a w') (ha : a.actor? ≠ some i) :
    w'.phase? i = w.phase? i ∨
      (w.running = none ∧ i = w.tasks.length ∧ w'.phase? i = some .looking) := by
  cases h with
  | start =>
    cases hr : w.running with
    | none =>
      rw [Watcher.phase?_start hr]
      split
      · rename_i hi
        exact Or.inr ⟨rfl, hi, rfl⟩
      · exact Or.inl rfl
    | some id => exact Or.inl (by rw [Watcher.start_of_running hr])
  | stop id => exact Or.inl Watcher.phase?_stop
  | add h => exact Or.inl ((Watcher.add_edited h).phase? i)
  | remove h => exact Or.inl ((Watcher.remove_edited h).phase? i)
  | update h => exact Or.inl ((Watcher.updateInterval_edited h).phase? i)
  | task ht he =>
    rw [Watcher.phase?_takeStep ht, if_neg (by simpa [Event.actor?] using ha)]
    exact Or.inl rfl
  | finish hp h =>
    rw [Watcher.phase?_finishCheck h hp, if_neg (by simpa [Event.actor?] using ha)]
    exact Or.inl rfl

theorem phase?_step_of_some {p : TaskPhase} (h : Step now w a w') (ha : a.actor? ≠ some i)
    (hp : w.phase? i = some p) : w'.phase? i = some p := by
  rcases phase?_step h ha with he | ⟨_, rfl, _⟩
  · exact he.trans hp
  · simp [Watcher.phase?] at hp

/-- Only arming makes a task wait, and then with a timer for the head of the schedule. -/
theorem waiting_step {deadline : Option Instant} {g : UInt64} (h : Step now w a w')
    (hp : w'.phase? i = some (.waiting deadline g)) :
    a = .task i .arm ∧ w.schedule.head?.map (·.nextCheck) = deadline ∧ w.generation = g ∨
    a.actor? ≠ some i ∧ w.phase? i = some (.waiting deadline g) := by
  by_cases ha : a.actor? = some i
  · left
    cases h with
    | @task id t step ht he =>
      obtain rfl : id = i := by simpa [Event.actor?] using ha
      rw [Watcher.phase?_takeStep ht, if_pos rfl] at hp
      cases step with
      | arm =>
        obtain ⟨hd, hg⟩ := TaskPhase.waiting.inj (Option.some.inj hp)
        exact ⟨rfl, hd, hg⟩
      | readNote => cases hp
      | fire key => cases key <;> cases hp
      | exit => cases hp
    | @finish id k time x w' hc h =>
      obtain rfl : id = i := by simpa [Event.actor?] using ha
      rw [Watcher.phase?_finishCheck h hc, if_pos rfl] at hp
      cases x <;> cases hp
    | _ => simp [Event.actor?] at ha
  · right
    refine ⟨ha, ?_⟩
    rcases phase?_step h ha with he | ⟨_, _, he⟩
    · rwa [← he]
    · rw [he] at hp
      cases hp

/-- A task that is checking goes on when the check has finished, or it ends. -/
theorem checking_step (h : Step now w a w') (hp : w.phase? i = some (.checking k))
    (ha : a.actor? = some i) : a = .task i .exit ∨ ∃ time x, a = .finish i k time x := by
  cases h with
  | @task id t step ht he =>
    obtain rfl : id = i := by simpa [Event.actor?] using ha
    have hphase : t.phase = .checking k := by simpa [Watcher.phase?, ht] using hp
    cases step with
    | arm => cases hphase.symm.trans he
    | readNote => obtain ⟨_, d, g, hw⟩ := he; cases hphase.symm.trans hw
    | fire key => obtain ⟨d, g, hw, _⟩ := he; cases hphase.symm.trans hw
    | exit => exact Or.inl rfl
  | @finish id key time x w' hc h =>
    obtain rfl : id = i := by simpa [Event.actor?] using ha
    obtain rfl : k = key := by simpa using hp.symm.trans hc
    exact Or.inr ⟨time, x, rfl⟩
  | _ => simp [Event.actor?] at ha

/-- At most one task is alive, and it is the one that counts as running. -/
def OneAlive (w : Watcher) : Prop :=
  ∀ i p, w.phase? i = some p → p ≠ .ended → w.running = some i

theorem Watcher.Enabled.phase_ne_ended {t : Task} {step : Watcher.TaskStep}
    (h : w.Enabled now t step) : t.phase ≠ .ended := by
  cases step with
  | arm => simp [show t.phase = .looking from h]
  | readNote => obtain ⟨_, d, g, hp⟩ := h; simp [hp]
  | fire key => obtain ⟨d, g, hp, _⟩ := h; simp [hp]
  | exit => exact h.2

theorem oneAlive_step (h : Step now w a w') (ho : OneAlive w) : OneAlive w' := by
  have hc (he : Watcher.Edited w w') : OneAlive w' := by
    intro i p hp hne
    rw [he.phase?] at hp
    rw [he.running]
    exact ho i p hp hne
  cases h with
  | start =>
    cases hr : w.running with
    | none =>
      intro i p hp hne
      rw [Watcher.phase?_start hr] at hp
      rw [Watcher.start_running hr]
      split at hp
      · rename_i hi
        rw [hi]
      · have hri := ho i p hp hne
        rw [hr] at hri
        cases hri
    | some id => rwa [Watcher.start_of_running hr]
  | stop id =>
    intro i p hp hne
    exact ho i p (by simpa using hp) hne
  | add h => exact hc (Watcher.add_edited h)
  | remove h => exact hc (Watcher.remove_edited h)
  | update h => exact hc (Watcher.updateInterval_edited h)
  | @task id t step ht he =>
    have hid : w.running = some id := ho id t.phase (by simp [Watcher.phase?, ht]) he.phase_ne_ended
    intro i p hp hne
    rw [Watcher.phase?_takeStep ht] at hp
    rw [Watcher.takeStep_running]
    split at hp
    · rename_i hi
      subst hi
      rw [if_neg, hid]
      rintro rfl
      exact hne (by simpa [Watcher.TaskStep.phase, eq_comm] using hp)
    · rename_i hi
      have hri := ho i p hp hne
      exact absurd (Option.some.inj (hid.symm.trans hri)) hi
  | @finish id k time x w' hp h =>
    have hid : w.running = some id := ho id _ hp (by simp)
    intro i p hpi hne
    rw [Watcher.phase?_finishCheck h hp] at hpi
    rw [Watcher.finishCheck_running h]
    split at hpi
    · rename_i hi
      rw [hid, hi]
    · exact ho i p hpi hne

/-- A task that was started and has not ended. -/
def Watcher.Alive (w : Watcher) (i : TaskId) : Prop := ∃ p, w.phase? i = some p ∧ p ≠ .ended

/-- The task that counts as running goes on to be alive, unless the clock overflows under it. -/
theorem running_alive_step (h : Step now w a w')
    (ha : ∀ id k time, a ≠ .finish id k time (.error .overflow))
    (hw : ∀ i, w.running = some i → w.Alive i) : ∀ i, w'.running = some i → w'.Alive i := by
  have hc (he : Watcher.Edited w w') : ∀ i, w'.running = some i → w'.Alive i := by
    intro i hi
    obtain ⟨p, hp, hne⟩ := hw i (he.running ▸ hi)
    exact ⟨p, (he.phase? i).trans hp, hne⟩
  cases h with
  | start =>
    cases hr : w.running with
    | none =>
      intro i hi
      obtain rfl := Option.some.inj ((Watcher.start_running hr).symm.trans hi)
      exact ⟨.looking, by rw [Watcher.phase?_start hr, if_pos rfl], by simp⟩
    | some id => rwa [Watcher.start_of_running hr]
  | stop id =>
    intro i hi
    obtain ⟨p, hp, hne⟩ := hw i hi
    exact ⟨p, Watcher.phase?_stop.trans hp, hne⟩
  | add h => exact hc (Watcher.add_edited h)
  | remove h => exact hc (Watcher.remove_edited h)
  | update h => exact hc (Watcher.updateInterval_edited h)
  | @task id t step ht he =>
    intro i hi
    rw [Watcher.takeStep_running] at hi
    split_ifs at hi with hexit
    by_cases hid : id = i
    · refine ⟨step.phase w, by rw [Watcher.phase?_takeStep ht, if_pos hid], ?_⟩
      cases step with
      | exit => exact absurd rfl hexit
      | fire key => cases key <;> simp [Watcher.TaskStep.phase]
      | _ => simp [Watcher.TaskStep.phase]
    · obtain ⟨p, hp, hne⟩ := hw i hi
      exact ⟨p, by rw [Watcher.phase?_takeStep ht, if_neg hid, hp], hne⟩
  | @finish id k time x w' hp h =>
    intro i hi
    rw [Watcher.finishCheck_running h] at hi
    by_cases hid : id = i
    · refine ⟨Watcher.phaseAfter x, by rw [Watcher.phase?_finishCheck h hp, if_pos hid], ?_⟩
      cases x with
      | ok b => simp [Watcher.phaseAfter]
      | error e => exact absurd rfl (ha id k time)
    · obtain ⟨p, hpi, hne⟩ := hw i hi
      exact ⟨p, by rw [Watcher.phase?_finishCheck h hp, if_neg hid, hpi], hne⟩

/-- A task that has ended does not come back. -/
theorem ended_step (h : Step now w a w') (hp : w.phase? i = some .ended) :
    w'.phase? i = some .ended := by
  refine phase?_step_of_some h ?_ hp
  intro ha
  cases h with
  | task ht he =>
    obtain rfl := Option.some.inj ha
    exact he.phase_ne_ended (by simpa [Watcher.phase?, ht] using hp)
  | finish hc h =>
    obtain rfl := Option.some.inj ha
    cases hp.symm.trans hc
  | _ => cases ha

/-- Only a call for it stops a task, and for good. -/
theorem isStopped_step (h : Step now w a w') : w'.isStopped i = true ↔
    w.isStopped i = true ∨ a = .stop i ∧ w.phase? i ≠ none := by
  cases h with
  | start => simp
  | stop id => rw [Watcher.isStopped_stop, Event.stop.injEq, @eq_comm _ id i]
  | add h => simp [(Watcher.add_edited h).isStopped]
  | remove h => simp [(Watcher.remove_edited h).isStopped]
  | update h => simp [(Watcher.updateInterval_edited h).isStopped]
  | task ht he => simp
  | finish hp h => simp [Watcher.isStopped_finishCheck h]

/-- The watcher after an event. -/
def Watcher.after (now : Instant) (w : Watcher) : Event → Watcher
  | .start => w.start.2
  | .stop id => w.stop id
  | .add k seconds _ => (w.add k seconds now).2
  | .remove k _ => (w.remove k).2
  | .update k seconds _ => (w.updateInterval k seconds now).2
  | .task id step => w.takeStep id step
  | .finish id k time _ => (w.finishCheck id k time).2

/-- When an event can happen. -/
def Watcher.Possible (now : Instant) (w : Watcher) : Event → Prop
  | .start | .stop _ => True
  | .add k seconds r => (w.add k seconds now).1 = r
  | .remove k r => (w.remove k).1 = r
  | .update k seconds r => (w.updateInterval k seconds now).1 = r
  | .task id step => ∃ t, w.tasks[id]? = some t ∧ w.Enabled now t step
  | .finish id k time x =>
    w.phase? id = some (.checking k) ∧ (w.finishCheck id k time).1 = x

/-- What can happen, and what comes of it, is determined by the event. -/
theorem step_iff : Step now w a w' ↔ w.Possible now a ∧ w' = w.after now a := by
  constructor
  · intro h
    cases h with
    | start => exact ⟨trivial, rfl⟩
    | stop id => exact ⟨trivial, rfl⟩
    | add h => exact ⟨congrArg Prod.fst h, (congrArg Prod.snd h).symm⟩
    | remove h => exact ⟨congrArg Prod.fst h, (congrArg Prod.snd h).symm⟩
    | update h => exact ⟨congrArg Prod.fst h, (congrArg Prod.snd h).symm⟩
    | task ht he => exact ⟨⟨_, ht, he⟩, rfl⟩
    | finish hp h => exact ⟨⟨hp, congrArg Prod.fst h⟩, (congrArg Prod.snd h).symm⟩
  · rintro ⟨h, rfl⟩
    cases a with
    | start => exact .start
    | stop id => exact .stop id
    | add k seconds r => exact .add (Prod.ext h rfl)
    | remove k r => exact .remove (Prod.ext h rfl)
    | update k seconds r => exact .update (Prod.ext h rfl)
    | task id step =>
      obtain ⟨t, ht, he⟩ := h
      exact .task ht he
    | finish id k time x => exact .finish h.1 (Prod.ext h.2 rfl)

end GitDrift.Drift
