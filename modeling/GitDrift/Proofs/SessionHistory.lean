import GitDrift.Proofs.SessionRun

/-!
Histories of a session: clients call the watcher, its surroundings change, time passes, and the
running task does what it does next. What clients do between two steps of the task is free.
-/
namespace GitDrift.Drift

variable {w w' : Watcher} {now : Instant} {i j : TaskId} {l : List Event} {m n : ℕ}

/-- What each event keeps, all of them keep. -/
theorem Steps.keep {P : Watcher → Prop} (h : Steps now w l w') (hw : P w)
    (hstep : ∀ v v' a, a ∈ l → Step now v a v' → P v → P v') : P w' := by
  induction h with
  | nil => exact hw
  | @cons w v w' a l h _ ih =>
    exact ih (hstep w v a List.mem_cons_self h hw) fun u u' b hb =>
      hstep u u' b (List.mem_cons_of_mem a hb)

/-- A call of a client. -/
inductive Call where
  | start
  | stop (id : TaskId)
  | add (key : PatternKey) (seconds : Int)
  | remove (key : PatternKey)
  | update (key : PatternKey) (seconds : Int)

/-- A call with its outcome. -/
def Call.event (now : Instant) (w : Watcher) : Call → Event
  | .start => .start
  | .stop id => .stop id
  | .add key seconds => .add key seconds (w.add key seconds now).1
  | .remove key => .remove key (w.remove key).1
  | .update key seconds => .update key seconds (w.updateInterval key seconds now).1

theorem Call.step (c : Call) (now : Instant) (w : Watcher) :
    Step now w (c.event now w) (w.after now (c.event now w)) :=
  step_iff.mpr ⟨by cases c <;> first | exact trivial | rfl, rfl⟩

theorem Call.actor?_event {c : Call} : (c.event now w).actor? = none := by
  cases c <;> rfl

theorem Call.event_eq_stop_iff {c : Call} : c.event now w = .stop i ↔ c = .stop i := by
  cases c <;> simp [Call.event]

/-- What happens next in a session. -/
inductive Move where
  | call (c : Call)
  /-- The store and the remotes become others. -/
  | surround (store : MemoryStore) (refusesReports : Bool) (remotes : Table String RemoteScript)
  | wait (d : Span)
  /-- The running task does what it does next, if anything. -/
  | work

namespace Session

variable (s : Session)

/-- The session after a move. -/
def moved : Move → Session
  | .call c => { s with watcher := s.watcher.after s.now (c.event s.now s.watcher) }
  | .surround store refusesReports remotes => { s with store, refusesReports, remotes }
  | .wait d => { s with now := s.now + d }
  | .work => s.step?.getD s

/-- What a move is to the watcher. -/
def moveEvents : Move → List Event
  | .call c => [c.event s.now s.watcher]
  | .work => s.stepEvents
  | .surround _ _ _ | .wait _ => []

theorem moved_steps (c : Move) : Steps s.now s.watcher (s.moveEvents c) (s.moved c).watcher := by
  cases c with
  | call c => exact steps_of_step (c.step s.now s.watcher)
  | surround store refusesReports remotes => exact .nil s.watcher
  | wait d => exact .nil s.watcher
  | work =>
    cases hs : s.step? with
    | none =>
      rw [moveEvents, stepEvents_of_none hs, moved, hs]
      exact .nil s.watcher
    | some s' =>
      rw [moveEvents, moved, hs]
      exact (step?_steps hs).2

end Session

/-- A history of a new watcher. -/
structure History where
  start : Session
  move : ℕ → Move
  fresh : start.watcher = {}
  idle : start.check = none

namespace History

variable (h : History)

def session : ℕ → Session
  | 0 => h.start
  | n + 1 => (session n).moved (h.move n)

def watcher (n : ℕ) : Watcher := (h.session n).watcher

/-- What happens to the watcher between two states. -/
def events (n : ℕ) : List Event := (h.session n).moveEvents (h.move n)

/-- The call that a client makes, with its outcome and the reading of the clock. -/
def callsAt (n : ℕ) : List (Instant × Event) :=
  match h.move n with
  | .call c => [((h.session n).now, c.event (h.session n).now (h.watcher n))]
  | _ => []

/-- The calls of clients from `m` up to `n`. -/
def calls (m n : ℕ) : List (Instant × Event) := (List.range' m (n - m)).flatMap h.callsAt

/-- No task dies of an overflow of the clock before `n`. -/
def PanicFree (n : ℕ) : Prop :=
  ∀ m < n, ∀ id key time, .finish id key time (.error .overflow) ∉ h.events m

/-- A client stops a task that was started. -/
def Stops (i : TaskId) (n : ℕ) : Prop :=
  h.move n = .call (.stop i) ∧ (h.watcher n).phase? i ≠ none

end History

variable {h : History}

theorem calls_self : h.calls n n = [] := by simp [History.calls]

theorem calls_succ (hmn : m ≤ n) : h.calls m (n + 1) = h.calls m n ++ h.callsAt n := by
  simp only [History.calls]
  rw [Nat.succ_sub hmn, List.range'_concat, List.flatMap_append, Nat.one_mul,
    Nat.add_sub_cancel' hmn, List.flatMap_singleton]

theorem watcher_zero (h : History) : h.watcher 0 = {} := h.fresh

theorem watcher_succ (h : History) (n : ℕ) :
    h.watcher (n + 1) = ((h.session n).moved (h.move n)).watcher := rfl

theorem watcher_steps (h : History) (n : ℕ) :
    Steps (h.session n).now (h.watcher n) (h.events n) (h.watcher (n + 1)) :=
  (h.session n).moved_steps (h.move n)

theorem oneAlive_watcher (h : History) (n : ℕ) : OneAlive (h.watcher n) := by
  induction n with
  | zero => simp [watcher_zero, OneAlive, Watcher.phase?]
  | succ n ih => exact (watcher_steps h n).keep ih fun _ _ _ _ hs => oneAlive_step hs

/-- The task that counts as running is alive. -/
theorem running_alive (hp : h.PanicFree n) (hi : (h.watcher n).running = some i) :
    (h.watcher n).Alive i := by
  induction n generalizing i with
  | zero => simp [watcher_zero] at hi
  | succ n ih =>
    have hw : ∀ i, (h.watcher n).running = some i → (h.watcher n).Alive i := fun i hi =>
      ih (fun m hm => hp m (Nat.lt_succ_of_lt hm)) hi
    refine (watcher_steps h n).keep (P := fun v => ∀ i, v.running = some i → v.Alive i) hw ?_ i hi
    intro v v' a ha hs hv
    refine running_alive_step hs ?_ hv
    rintro id key time rfl
    exact hp n (Nat.lt_succ_self n) id key time ha

theorem alive_iff_running (hp : h.PanicFree n) :
    (h.watcher n).Alive i ↔ (h.watcher n).running = some i :=
  ⟨fun ⟨p, hi, hne⟩ => oneAlive_watcher h n i p hi hne, running_alive hp⟩

theorem ended_until (hmn : m ≤ n) (hm : (h.watcher m).phase? i = some .ended) :
    (h.watcher n).phase? i = some .ended := by
  induction n, hmn using Nat.le_induction with
  | base => exact hm
  | succ n _ ih => exact (watcher_steps h n).keep ih fun _ _ _ _ hs => ended_step hs

/-- All that a task does, the running task does. -/
theorem running_of_actor {a : Event} (ha : a ∈ h.events n) (hi : a.actor? = some i) :
    h.move n = .work ∧ (h.watcher n).running = some i := by
  unfold History.events Session.moveEvents at ha
  split at ha
  · rw [List.mem_singleton.mp ha, Call.actor?_event] at hi
    cases hi
  · rename_i hw
    obtain ⟨id, hr, ⟨step, _, rfl⟩ | ⟨key, x, rfl⟩⟩ := Session.mem_stepEvents ha <;>
      exact ⟨hw, hr.trans hi⟩
  · simp at ha
  · simp at ha

/-- Only a call for it stops a task. -/
theorem isStopped_succ : (h.watcher (n + 1)).isStopped i = true ↔
    (h.watcher n).isStopped i = true ∨ h.Stops i n := by
  cases hm : h.move n with
  | call c =>
    have hs : Step (h.session n).now (h.watcher n)
        (c.event (h.session n).now (h.watcher n)) (h.watcher (n + 1)) := by
      rw [watcher_succ, hm]
      exact c.step (h.session n).now (h.watcher n)
    rw [isStopped_step hs, Call.event_eq_stop_iff, History.Stops, hm, Move.call.injEq]
  | surround store refusesReports remotes =>
    rw [watcher_succ, hm, Session.moved]
    simp [History.Stops, hm, History.watcher]
  | wait d =>
    rw [watcher_succ, hm, Session.moved]
    simp [History.Stops, hm, History.watcher]
  | work =>
    have hk := (watcher_steps h n).keep
      (P := fun v => v.isStopped i = true ↔ (h.watcher n).isStopped i = true) Iff.rfl
    rw [hk, History.Stops, hm]
    · simp
    · intro v v' a ha hs hv
      rw [isStopped_step hs, hv]
      -- no step of a session stops a task
      refine or_iff_left ?_
      rintro ⟨rfl, _⟩
      rw [History.events, hm] at ha
      obtain ⟨id, _, ⟨step, _, h⟩ | ⟨key, x, h⟩⟩ := Session.mem_stepEvents ha <;> cases h

theorem isStopped_until (hmn : m < n) (hm : h.Stops i m) :
    (h.watcher n).isStopped i = true := by
  induction n, hmn using Nat.le_induction with
  | base => exact isStopped_succ.mpr (Or.inr hm)
  | succ n _ ih => exact isStopped_succ.mpr (Or.inl ih)

theorem stops_of_isStopped (hn : (h.watcher n).isStopped i = true) : ∃ m < n, h.Stops i m := by
  induction n with
  | zero => simp [watcher_zero, Watcher.isStopped] at hn
  | succ n ih =>
    rcases isStopped_succ.mp hn with hn | hn
    · obtain ⟨m, hmn, hm⟩ := ih hn
      exact ⟨m, Nat.lt_succ_of_lt hmn, hm⟩
    · exact ⟨n, Nat.lt_succ_self n, hn⟩

end GitDrift.Drift
