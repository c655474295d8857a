import GitDrift.Proofs.SessionHistory

/-!
One task runs at a time, and a task that is stopped only exits. What it was checking comes to
nothing, and the schedule is left as it was.
-/
namespace GitDrift.Drift

variable {h : History} {s : Session} {w : Watcher} {i : TaskId} {m n : ℕ}

theorem nextStep?_of_stopped (now : Instant) (hi : w.isStopped i = true) :
    w.phase? i = some .ended ∧ w.nextStep? i now = none ∨ w.nextStep? i now = some .exit := by
  cases ht : w.tasks[i]? with
  | none => simp [Watcher.isStopped, ht] at hi
  | some t =>
    have hstop : t.stopped = true := by simpa [Watcher.isStopped, ht] using hi
    cases hp : t.phase with
    | ended => exact Or.inl (by simp [Watcher.phase?, Watcher.nextStep?, ht, hp])
    | _ => exact Or.inr (by simp [Watcher.nextStep?, ht, hp, hstop])

theorem checking?_of_ended (hr : w.running = some i) (hp : w.phase? i = some .ended) :
    w.checking? = none := by
  cases hc : w.checking? with
  | none => rfl
  | some c =>
    obtain ⟨hj, hcheck⟩ := Session.phase?_of_checking? hc
    obtain rfl := Option.some.inj (hr.symm.trans hj)
    cases hp.symm.trans hcheck

theorem step?_of_stopped (hr : s.watcher.running = some i)
    (hi : s.watcher.isStopped i = true) :
    s.step? = none ∨ s.step? = some (s.taskStep i .exit) ∧ s.stepEvents = [.task i .exit] := by
  rcases nextStep?_of_stopped s.now hi with ⟨hp, hn⟩ | hn
  · have hc := checking?_of_ended hr hp
    exact Or.inl (by simp [Session.step?, hr, hn, hc])
  · exact Or.inr (by simp [Session.step?, Session.stepEvents, Session.taskEvents, hr, hn])

/-- When its running task is stopped, a session sees nothing and counts nothing. -/
theorem moved_of_stopped (hr : s.watcher.running = some i) (hi : s.watcher.isStopped i = true)
    (c : Move) : (s.moved c).log = s.log ∧ (s.moved c).metrics = s.metrics := by
  cases c with
  | work =>
    rw [Session.moved]
    rcases step?_of_stopped hr hi with hs | ⟨hs, _⟩ <;> rw [hs] <;> exact ⟨rfl, rfl⟩
  | _ => exact ⟨rfl, rfl⟩

theorem log_until (hs : h.Stops i m) (hmn : m ≤ n)
    (hr : ∀ r, m < r → r < n → (h.watcher r).running = some i) :
    (h.session n).log = (h.session m).log ∧ (h.session n).metrics = (h.session m).metrics := by
  induction n, hmn using Nat.le_induction with
  | base => exact ⟨rfl, rfl⟩
  | succ n hmn ih =>
    obtain ⟨hlog, hmetrics⟩ := ih fun r hmr hrn => hr r hmr (Nat.lt_succ_of_lt hrn)
    rw [← hlog, ← hmetrics, History.session]
    rcases Nat.eq_or_lt_of_le hmn with rfl | hlt
    · rw [hs.1]
      exact ⟨rfl, rfl⟩
    · exact moved_of_stopped (hr n hlt (Nat.lt_succ_self n)) (isStopped_until hlt hs) _

theorem exit_of_stops {a : Event} (hs : h.Stops i m) (hmn : m < n) (ha : a ∈ h.events n)
    (hi : a.actor? = some i) : a = .task i .exit := by
  obtain ⟨hm, hr⟩ := running_of_actor ha hi
  rw [History.events, hm, Session.moveEvents] at ha
  rcases step?_of_stopped hr (isStopped_until hmn hs) with hnone | ⟨_, he⟩
  · simp [Session.stepEvents_of_none hnone] at ha
  · simpa [he] using ha

theorem exit_cases (ha : .task i .exit ∈ h.events n) :
    (h.session (n + 1)).check = none ∧ (h.watcher n).isStopped i = true ∧
      (h.watcher n).Alive i := by
  obtain ⟨hm, hr⟩ := running_of_actor ha rfl
  rw [History.events, hm, Session.moveEvents] at ha
  obtain ⟨id, _, ⟨step, hnext, he⟩ | ⟨key, x, he⟩⟩ := Session.mem_stepEvents ha
  · cases he
    obtain ⟨t, ht, hstop, hne⟩ := enabled_of_nextStep? hnext
    have hs : (h.session n).step? = some ((h.session n).taskStep i .exit) := by
      have hrun : (h.session n).watcher.running = some i := hr
      simp [Session.step?, hrun, hnext]
    refine ⟨?_, ?_, t.phase, ?_, hne⟩
    · rw [History.session, hm, Session.moved, hs]
      rfl
    · simpa [Watcher.isStopped, History.watcher, ht] using hstop
    · rw [Watcher.phase?, History.watcher, ht, Option.map_some]
  · cases he

/-- Nobody but who holds its handle stops a task that is alive. -/
theorem stops_of_exit (ha : .task i .exit ∈ h.events n) :
    ∃ m < n, h.Stops i m ∧ (h.watcher m).Alive i := by
  obtain ⟨_, hstop, p, hp, hne⟩ := exit_cases ha
  obtain ⟨m, hmn, hs⟩ := stops_of_isStopped hstop
  refine ⟨m, hmn, hs, ?_⟩
  obtain ⟨q, hq⟩ := Option.ne_none_iff_exists'.mp hs.2
  refine ⟨q, hq, ?_⟩
  rintro rfl
  exact hne (Option.some.inj (hp.symm.trans (ended_until (Nat.le_of_lt hmn) hq)))

/-- The schedule that calls make of another. -/
def Schedule.edited (s : Schedule) (l : List (Instant × Event)) : Schedule :=
  l.foldl (fun s c => (Watcher.effect { schedule := s } c.2).apply c.1 s) s

theorem effect_of_schedule (w : Watcher) (a : Event) :
    Watcher.effect { schedule := w.schedule } a = w.effect a := rfl

/-- Only calls and the ends of checks change the schedule. -/
theorem schedule_succ_of_no_finish (hf : ∀ id key t x, .finish id key t x ∉ h.events n) :
    (h.watcher (n + 1)).schedule = Schedule.edited (h.watcher n).schedule (h.callsAt n) := by
  cases hm : h.move n with
  | call c =>
    have hs := schedule_step (c.step (h.session n).now (h.watcher n))
    simp only [History.callsAt, hm, Schedule.edited, List.foldl_cons, List.foldl_nil,
      effect_of_schedule]
    rw [← hs, watcher_succ, hm]
    rfl
  | work =>
    have hk := (watcher_steps h n).keep (P := fun v => v.schedule = (h.watcher n).schedule) rfl
    simp only [History.callsAt, hm, Schedule.edited, List.foldl_nil]
    refine hk fun v v' a ha hs hv => ?_
    have ha' := ha
    rw [History.events, hm] at ha'
    obtain ⟨id, _, ⟨step, _, rfl⟩ | ⟨key, x, rfl⟩⟩ := Session.mem_stepEvents ha'
    · exact (schedule_step hs).trans hv
    · exact absurd ha (hf _ _ _ _)
  | _ =>
    rw [watcher_succ, hm]
    simp only [History.callsAt, hm]
    rfl

theorem schedule_until (hmn : m ≤ n)
    (hf : ∀ r, m ≤ r → r < n → ∀ id key t x, .finish id key t x ∉ h.events r) :
    (h.watcher n).schedule = Schedule.edited (h.watcher m).schedule (h.calls m n) := by
  induction n, hmn using Nat.le_induction with
  | base => simp [calls_self, Schedule.edited]
  | succ n hmn ih =>
    rw [schedule_succ_of_no_finish (hf n hmn (Nat.lt_succ_self n)),
      ih fun r hmr hrn => hf r hmr (Nat.lt_succ_of_lt hrn), calls_succ hmn, Schedule.edited,
      Schedule.edited, Schedule.edited, List.foldl_append]

/-- The end of a check in a history comes after its task was stopped only if it is another's. -/
theorem schedule_after_stop (hs : h.Stops i m) (hmn : m ≤ n)
    (hf : ∀ r, m < r → r < n → ∀ j ≠ i, ∀ key t x, .finish j key t x ∉ h.events r) :
    (h.watcher n).schedule = Schedule.edited (h.watcher m).schedule (h.calls m n) := by
  refine schedule_until hmn fun r hmr hrn id key t x hx => ?_
  rcases Nat.eq_or_lt_of_le hmr with rfl | hlt
  · simp [History.events, Session.moveEvents, hs.1, Call.event] at hx
  · by_cases hid : id = i
    · subst hid
      cases exit_of_stops hs hlt hx rfl
    · exact hf r hlt hrn id hid key t x hx

/-- In every history of a watcher:
at most one task is alive, and it is the one that counts as running, if no task dies of an overflow;
who starts the watcher has the handle of the task that runs;
after a task was stopped it does nothing but exit, nothing is listed, reported or counted while it
still runs, and its exit ends its check;
a task exits only if it was stopped itself, while it was alive;
and from then on, until another task ends a check, only calls of clients change the schedule. -/
theorem shutdown_safe (h : History) :
    (∀ n i j, (h.watcher n).Alive i → (h.watcher n).Alive j → i = j) ∧
    (∀ n i, h.PanicFree n → ((h.watcher n).Alive i ↔ (h.watcher n).running = some i)) ∧
    (∀ n, h.move n = .call .start →
      (h.watcher (n + 1)).running = some (h.watcher n).start.1) ∧
    (∀ m n i, h.Stops i m → m < n → ∀ a ∈ h.events n, a.actor? = some i → a = .task i .exit) ∧
    (∀ m n i, h.Stops i m → m ≤ n → (∀ r, m < r → r < n → (h.watcher r).running = some i) →
      (h.session n).log = (h.session m).log ∧
        (h.session n).metrics = (h.session m).metrics) ∧
    (∀ n i, .task i .exit ∈ h.events n → (h.session (n + 1)).check = none ∧
      ∃ m < n, h.Stops i m ∧ (h.watcher m).Alive i) ∧
    (∀ m n i, h.Stops i m → m ≤ n →
      (∀ r, m < r → r < n → ∀ j ≠ i, ∀ key t x, .finish j key t x ∉ h.events r) →
      (h.watcher n).schedule = Schedule.edited (h.watcher m).schedule (h.calls m n)) := by
  refine ⟨?_, ?_, ?_, ?_, ?_, ?_, ?_⟩
  · rintro n i j ⟨p, hi, hp⟩ ⟨q, hj, hq⟩
    have hri := oneAlive_watcher h n i p hi hp
    exact Option.some.inj (hri.symm.trans (oneAlive_watcher h n j q hj hq))
  · intro n i hp
    exact alive_iff_running hp
  · intro n hm
    rw [watcher_succ, hm]
    exact Watcher.running_start
  · intro m n i hs hmn a ha hi
    exact exit_of_stops hs hmn ha hi
  · intro m n i hs hmn hr
    exact log_until hs hmn hr
  · intro n i ha
    exact ⟨(exit_cases ha).1, stops_of_exit ha⟩
  · intro m n i hs hmn hf
    exact schedule_after_stop hs hmn hf

/-- A watcher that is stopped while it waits for a remote, and then started again. -/
def stoppedHistory : History where
  start :=
    { now := 0
      origin := 0
      store := ⟨[(sampleKey, { config := { originRepo := "origin", targetRepo := "target" } })]⟩
      remotes := ⟨[("origin", { listing := .ok [], latency := none })]⟩ }
  move n :=
    [.call .start, .call (.add sampleKey 5), .work, .work, .work, .wait 5000, .work,
      .call (.stop 0), .call (.add otherKey 60), .work, .call .start][n]?.getD .work
  fresh := rfl
  idle := rfl

/-- The check that was under way is given up, and the restarted watcher has the same schedule and
the key that was added meanwhile. -/
theorem stoppedHistory_safe :
    stoppedHistory.Stops 0 7 ∧ (stoppedHistory.watcher 7).phase? 0 = some (.checking sampleKey) ∧
      (stoppedHistory.session 10).check = none ∧
      (stoppedHistory.session 10).metrics = (stoppedHistory.session 7).metrics ∧
      (stoppedHistory.watcher 11).running = some 1 ∧
      (stoppedHistory.watcher 11).schedule = Schedule.edited (stoppedHistory.watcher 7).schedule
        [(5000, .stop 0), (5000, .add otherKey 60 .ok), (5000, .start)] ∧
      (stoppedHistory.watcher 11).schedule =
        [⟨sampleKey, 5000, none, 5000⟩, ⟨otherKey, 60000, none, 65000⟩] := by
  obtain ⟨_, _, hstart, _, hlog, hexit, hschedule⟩ := shutdown_safe stoppedHistory
  have hs : stoppedHistory.Stops 0 7 := ⟨rfl, by decide⟩
  have hev : Event.task 0 .exit ∈ stoppedHistory.events 9 := List.mem_singleton_self _
  have hcalls : stoppedHistory.calls 7 11 =
      [(5000, .stop 0), (5000, .add otherKey 60 .ok), (5000, .start)] := by decide
  refine ⟨hs, rfl, (hexit 9 0 hev).1, (hlog 7 10 0 hs (by decide) ?_).2, hstart 10 rfl, ?_,
    by decide⟩
  · intro r hr hr'
    interval_cases r <;> rfl
  · refine hcalls ▸ hschedule 7 11 0 hs (by decide) fun r hr hr' j _ key t x hx => ?_
    interval_cases r <;> cases List.mem_singleton.mp hx

end GitDrift.Drift
