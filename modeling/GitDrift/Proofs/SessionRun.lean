import GitDrift.Drift.Session
import GitDrift.Proofs.Wakeup

/-! What a step of a session is to its watcher: events that can happen to it, one after another. So
its watcher is that of an execution. -/
namespace GitDrift.Drift

/-- A watcher comes to be another by steps at readings of a clock that does not go back. -/
inductive Reach : Instant → Watcher → Instant → Watcher → Prop
  | refl (t : Instant) (w : Watcher) : Reach t w t w
  | wait {t u t' : Instant} {w w' : Watcher} (h : t ≤ u) (hr : Reach u w t' w') : Reach t w t' w'
  | step {t t' : Instant} {w v w' : Watcher} {a : Event} (h : Step t w a v)
      (hr : Reach t v t' w') : Reach t w t' w'

variable {w w' v : Watcher} {t t' u now time : Instant} {id : TaskId} {key : PatternKey}
  {s s' : Session}

theorem Reach.trans (h : Reach t w u v) (hv : Reach u v t' w') : Reach t w t' w' := by
  induction h with
  | refl => exact hv
  | wait h _ ih => exact .wait h (ih hv)
  | step h _ ih => exact .step h (ih hv)

/-- Events one after another, at one reading of the clock. -/
inductive Steps (now : Instant) : Watcher → List Event → Watcher → Prop
  | nil (w : Watcher) : Steps now w [] w
  | cons {w v w' : Watcher} {a : Event} {l : List Event} (h : Step now w a v)
      (hs : Steps now v l w') : Steps now w (a :: l) w'

theorem steps_of_step {a : Event} (h : Step t w a v) : Steps t w [a] v := .cons h (.nil v)

theorem Steps.reach {l : List Event} (h : Steps t w l w') : Reach t w t w' := by
  induction h with
  | nil w => exact .refl t w
  | cons h _ ih => exact .step h ih

theorem Reach.legal (h : Reach t w t' w') : ∃ l, Legal w l ∧ replayed w l l.length = w' := by
  induction h with
  | refl t w => exact ⟨[], trivial, rfl⟩
  | wait _ _ ih => exact ih
  | @step t t' w v w' a h _ ih =>
    obtain ⟨l, hl, hw⟩ := ih
    obtain ⟨hp, rfl⟩ := step_iff.mp h
    exact ⟨(t, a) :: l, ⟨hp, hl⟩, hw⟩

/-- What a new watcher comes to be, it is in an execution. -/
theorem Reach.execution (h : Reach t {} t' w) : ∃ E n, Valid E ∧ E.state n = w := by
  obtain ⟨l, hl, hw⟩ := h.legal
  exact ⟨.replay l, l.length, valid_replay hl, hw⟩

/-- What a task does next is something that it can do. -/
theorem enabled_of_nextStep? {step : Watcher.TaskStep} (h : w.nextStep? id now = some step) :
    ∃ x, w.tasks[id]? = some x ∧ w.Enabled now x step := by
  obtain ⟨x, hx, h⟩ := Option.bind_eq_some_iff.mp h
  refine ⟨x, hx, ?_⟩
  cases hp : x.phase with
  | ended => simp [hp] at h
  | looking =>
    simp only [hp, Option.some.injEq] at h
    subst h
    split
    · rename_i hs
      exact ⟨hs, by simp [hp]⟩
    · exact hp
  | checking k =>
    simp only [hp] at h
    split at h
    · rename_i hs
      cases h
      exact ⟨hs, by simp [hp]⟩
    · cases h
  | waiting d g =>
    simp only [hp] at h
    split_ifs at h with hs hn
    · cases h
      exact ⟨hs, by simp [hp]⟩
    · cases h
      exact ⟨hn, d, g, hp⟩
    · cases d with
      | none => cases h
      | some d =>
        simp only at h
        split at h
        · rename_i hd
          cases h
          exact ⟨d, g, hp, hd, rfl⟩
        · cases h

namespace Session

theorem report_watcher (key : PatternKey) (drifted : Bool) :
    (s.report key drifted).watcher = s.watcher ∧ (s.report key drifted).now = s.now := by
  simp only [report]
  split <;> split <;> exact ⟨rfl, rfl⟩

theorem conclude_watcher (id : TaskId) (key : PatternKey) (startedAt : Instant)
    (result : Except DriftError Bool) :
    (s.conclude id key startedAt result).watcher = (s.watcher.finishCheck id key s.now).2 ∧
      (s.conclude id key startedAt result).now = s.now := by
  cases result with
  | error e => exact ⟨rfl, rfl⟩
  | ok drifted =>
    simp only [conclude, report_watcher]
    trivial

/-- The end of a check. -/
def ending (s : Session) (id : TaskId) (key : PatternKey) : Event :=
  .finish id key s.now (s.watcher.finishCheck id key s.now).1

/-- What a detection that goes on is to the watcher: it waits for a listing or ends the check. -/
def proceedEvents (s : Session) (id : TaskId) (key : PatternKey) : Detection → List Event
  | .done _ => [s.ending id key]
  | .listing _ _ _ => []

/-- What a step of the running task is to the watcher. A check that starts may be over at once. -/
def taskEvents (s : Session) (id : TaskId) (step : Watcher.TaskStep) : List Event :=
  .task id step ::
    match step with
    | .fire (some key) =>
      proceedEvents { s with watcher := s.watcher.takeStep id step } id key
        (Detection.start key (s.store.config key))
    | _ => []

/-- What a step of the check that is under way is to the watcher. -/
def checkEvents (s : Session) (id : TaskId) (key : PatternKey) : List Event :=
  match s.check with
  | some c =>
    if c.readyAt.any (· ≤ s.now) then s.proceedEvents id key (c.resume c.answer)
    else if (s.deadline? c).any (· ≤ s.now) then [s.ending id key]
    else []
  | none => []

/-- What the next step of a session is to its watcher. -/
def stepEvents (s : Session) : List Event :=
  match s.watcher.running with
  | some id =>
    match s.watcher.nextStep? id s.now with
    | some step => s.taskEvents id step
    | none => (s.watcher.checking?.map fun c => s.checkEvents id c.2).getD []
  | none => []

theorem conclude_steps (hp : s.watcher.phase? id = some (.checking key)) (startedAt : Instant)
    (result : Except DriftError Bool) :
    (s.conclude id key startedAt result).now = s.now ∧
      Steps s.now s.watcher [s.ending id key] (s.conclude id key startedAt result).watcher := by
  obtain ⟨hw, hn⟩ := conclude_watcher (s := s) id key startedAt result
  exact ⟨hn, hw ▸ steps_of_step (.finish hp rfl)⟩

theorem proceed_steps (hp : s.watcher.phase? id = some (.checking key)) (startedAt : Instant)
    (d : Detection) :
    (s.proceed id key startedAt d).now = s.now ∧
      Steps s.now s.watcher (s.proceedEvents id key d) (s.proceed id key startedAt d).watcher := by
  cases d with
  | done result => exact conclude_steps hp startedAt result
  | listing side url resume => exact ⟨rfl, .nil _⟩

theorem taskStep_steps {step : Watcher.TaskStep} (h : s.watcher.nextStep? id s.now = some step) :
    (s.taskStep id step).now = s.now ∧
      Steps s.now s.watcher (s.taskEvents id step) (s.taskStep id step).watcher := by
  obtain ⟨x, hx, he⟩ := enabled_of_nextStep? h
  have hstep : Step s.now s.watcher (.task id step) (s.watcher.takeStep id step) := .task hx he
  cases step with
  | arm => exact ⟨rfl, steps_of_step hstep⟩
  | readNote => exact ⟨rfl, steps_of_step hstep⟩
  | exit => exact ⟨rfl, steps_of_step hstep⟩
  | fire k =>
    cases k with
    | none => exact ⟨rfl, steps_of_step hstep⟩
    | some k =>
      have hp : (s.watcher.takeStep id (.fire (some k))).phase? id = some (.checking k) := by
        rw [Watcher.phase?_takeStep hx, if_pos rfl, Watcher.TaskStep.phase]
      obtain ⟨hn, hs⟩ := proceed_steps
        (s := { s with watcher := s.watcher.takeStep id (.fire (some k)) }) hp s.now
        (Detection.start k (s.store.config k))
      exact ⟨hn, .cons hstep hs⟩

theorem checkStep?_steps (hp : s.watcher.phase? id = some (.checking key))
    (h : s.checkStep? id key = some s') :
    s'.now = s.now ∧ Steps s.now s.watcher (s.checkEvents id key) s'.watcher := by
  obtain ⟨c, hc, h⟩ := Option.bind_eq_some_iff.mp h
  rw [checkEvents, hc]
  split_ifs at h with hready hover
  · cases h
    simp only [hready, if_true]
    exact proceed_steps hp c.startedAt _
  · cases h
    simp only [hready, hover, if_true]
    exact conclude_steps hp c.startedAt (.error (.timeout (s.limit.getD 0)))

theorem phase?_of_checking? (h : w.checking? = some (id, key)) :
    w.running = some id ∧ w.phase? id = some (.checking key) := by
  obtain ⟨i, hi, h⟩ := Option.bind_eq_some_iff.mp h
  obtain ⟨x, hx, h⟩ := Option.bind_eq_some_iff.mp h
  split at h
  · rename_i k hk
    cases h
    exact ⟨hi, by simp [Watcher.phase?, hx, hk]⟩
  · cases h

theorem step?_steps (h : s.step? = some s') :
    s'.now = s.now ∧ Steps s.now s.watcher s.stepEvents s'.watcher := by
  obtain ⟨i, hi, h⟩ := Option.bind_eq_some_iff.mp h
  rw [stepEvents, hi]
  split at h
  · rename_i step hstep
    cases h
    simp only [hstep]
    exact taskStep_steps hstep
  · rename_i hstep
    obtain ⟨⟨j, k⟩, hc, h⟩ := Option.bind_eq_some_iff.mp h
    obtain ⟨hj, hp⟩ := phase?_of_checking? hc
    obtain rfl : i = j := Option.some.inj (hi.symm.trans hj)
    simp only [hstep, hc]
    exact checkStep?_steps hp h

theorem stepEvents_of_none (h : s.step? = none) : s.stepEvents = [] := by
  unfold stepEvents
  split
  · rename_i id hr
    split
    · rename_i step hstep
      simp [step?, hr, hstep] at h
    · rename_i hstep
      cases hc : s.watcher.checking? with
      | none => rfl
      | some c =>
        have hnone : s.checkStep? id c.2 = none := by simpa [step?, hr, hstep, hc] using h
        rw [Option.map_some, Option.getD_some, checkEvents]
        split
        · rename_i check hcheck
          simp only [checkStep?, hcheck, Option.bind_some] at hnone
          split_ifs at hnone with hready hover
          rw [if_neg hready, if_neg hover]
        · rfl
  · rfl

/-- All that a step of a session is to its watcher is done by the running task: what it does next,
or the end of its check now. -/
theorem mem_stepEvents {a : Event} (h : a ∈ s.stepEvents) :
    ∃ id, s.watcher.running = some id ∧
      ((∃ step, s.watcher.nextStep? id s.now = some step ∧ a = .task id step) ∨
        ∃ key x, a = .finish id key s.now x) := by
  have hproceed {r : Session} {id : TaskId} {key : PatternKey} {d : Detection}
      (h : a ∈ r.proceedEvents id key d) : ∃ key x, a = .finish id key r.now x := by
    cases d with
    | done result => exact ⟨key, _, List.mem_singleton.mp h⟩
    | listing side url resume => simp [proceedEvents] at h
  unfold stepEvents at h
  split at h
  · rename_i id hr
    refine ⟨id, hr, ?_⟩
    split at h
    · rename_i step hstep
      rcases List.mem_cons.mp h with rfl | h
      · exact Or.inl ⟨step, hstep, rfl⟩
      · split at h
        · exact Or.inr (hproceed h)
        · simp at h
    · cases hc : s.watcher.checking? with
      | none => simp [hc] at h
      | some c =>
        simp only [hc, Option.map_some, Option.getD_some, checkEvents] at h
        split at h
        · split_ifs at h
          · exact Or.inr (hproceed h)
          · exact Or.inr ⟨c.2, _, List.mem_singleton.mp h⟩
          · simp at h
        · simp at h
  · simp at h

theorem runUntil_reach (fuel : ℕ) (h : s.now ≤ time) :
    (runUntil fuel time s).now ≤ time ∧
      Reach s.now s.watcher (runUntil fuel time s).now (runUntil fuel time s).watcher := by
  induction fuel generalizing s with
  | zero => exact ⟨h, .refl _ _⟩
  | succ fuel ih =>
    rw [runUntil]
    split
    · rename_i s₁ hs
      obtain ⟨hn, hr⟩ := step?_steps hs
      obtain ⟨hle, hrun⟩ := ih (s := s₁) (by rw [hn]; exact h)
      rw [hn] at hrun
      exact ⟨hle, hr.reach.trans hrun⟩
    · split
      · rename_i t ht
        split
        · rename_i hle
          obtain ⟨hle, hrun⟩ := ih (s := { s with now := max t s.now }) (Nat.max_le.mpr ⟨hle, h⟩)
          exact ⟨hle, .wait (Nat.le_max_right t s.now) hrun⟩
        · exact ⟨Nat.le_refl time, .wait h (.refl _ _)⟩
      · exact ⟨Nat.le_refl time, .wait h (.refl _ _)⟩

/-- However long a session goes on, its watcher is in an execution. -/
theorem runUntil_execution (fuel : ℕ) (hr : Reach t {} s.now s.watcher) (h : s.now ≤ time) :
    ∃ E n, Valid E ∧ E.state n = (runUntil fuel time s).watcher :=
  (hr.trans (runUntil_reach fuel h).2).execution

/-- When nothing can be done in a session whose task waits, nothing is due. -/
theorem due_later {x : Task} {d : Option Instant} {g : UInt64} (hr : Reach t {} s.now s.watcher)
    (hs : s.step? = none) (hrun : s.watcher.running = some id) (hx : s.watcher.tasks[id]? = some x)
    (hp : x.phase = .waiting d g) : ∀ e ∈ s.watcher.schedule, s.now < e.nextCheck := by
  obtain ⟨E, n, hE, hn⟩ := hr.execution
  have hnone : s.watcher.nextStep? id s.now = none := by
    cases hstep : s.watcher.nextStep? id s.now with
    | none => rfl
    | some step => simp [step?, hrun, hstep] at hs
  intro e he
  by_contra hle
  have hdue := nextStep?_of_due (hn ▸ awake hE n) (hn ▸ ordered_schedule hE n) hx hp he
    (Nat.not_lt.mp hle)
  simp [hnone] at hdue

end Session
end GitDrift.Drift
