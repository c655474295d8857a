import GitDrift.Proofs.Step
import Mathlib.Order.Monotone.Basic
import Mathlib.Order.Nat
import Mathlib.Tactic.IntervalCases

/-! Executions of a watcher: steps of clients and tasks in any order, at readings of a clock. -/
namespace GitDrift.Drift

/-- States, readings of the clock, and what happens at each step; at some steps nothing does. -/
structure Execution where
  state : ℕ → Watcher
  clock : ℕ → Instant
  event : ℕ → Option Event

/-- An execution of a new watcher. -/
structure Valid (E : Execution) : Prop where
  initial : E.state 0 = {}
  idle : ∀ n, E.event n = none → E.state (n + 1) = E.state n
  step : ∀ n a, E.event n = some a → Step (E.clock n) (E.state n) a (E.state (n + 1))

/-- The clock does not go back, and a check is over at a time that is read while it is under way. -/
structure Timely (E : Execution) : Prop where
  monotone : Monotone E.clock
  finish : ∀ n id k time x, E.event n = some (.finish id k time x) →
    ∃ m ≤ n, E.clock m = time ∧ ∀ r, m ≤ r → r ≤ n → (E.state r).phase? id = some (.checking k)

/-- The last step before `n` at which something holds. -/
def Latest (P : ℕ → Prop) (n m : ℕ) : Prop := m < n ∧ P m ∧ ∀ r, m < r → r < n → ¬ P r

theorem latest_succ_self {P : ℕ → Prop} {n : ℕ} (h : P n) : Latest P (n + 1) n :=
  ⟨Nat.lt_succ_self n, h, fun _ hr hrn => by omega⟩

theorem Latest.succ {P : ℕ → Prop} {n m : ℕ} (h : Latest P n m) (hn : ¬ P n) :
    Latest P (n + 1) m := by
  refine ⟨Nat.lt_succ_of_lt h.1, h.2.1, ?_⟩
  intro r hmr hrn
  rcases Nat.lt_or_eq_of_le (Nat.le_of_lt_succ hrn) with hr | rfl
  · exact h.2.2 r hmr hr
  · exact hn

namespace Execution

variable (E : Execution) (n : ℕ)

/-- The effect of a step. -/
def effect : Effect := ((E.event n).map (E.state n).effect).getD .keeps

/-- The task whose own step a step is. -/
def actor? : Option TaskId := (E.event n).bind Event.actor?

/-- The entry of a key. -/
def entry (k : PatternKey) : Option Entry := (E.state n).schedule.entryOf k

end Execution

variable {E : Execution} {m n : ℕ} {w : Watcher} {k : PatternKey} {i : TaskId} {p : TaskPhase}

theorem effect_of_idle (ha : E.event n = none) : E.effect n = .keeps := by
  simp [Execution.effect, ha]

theorem effect_of_event {a : Event} (ha : E.event n = some a) :
    E.effect n = (E.state n).effect a := by
  simp [Execution.effect, ha]

theorem schedule_succ (h : Valid E) (n : ℕ) :
    (E.state (n + 1)).schedule = (E.effect n).apply (E.clock n) (E.state n).schedule := by
  cases ha : E.event n with
  | none => rw [effect_of_idle ha, h.idle n ha, Effect.apply]
  | some a => rw [effect_of_event ha, schedule_step (h.step n a ha)]

theorem entry_succ (h : Valid E) (n : ℕ) (k : PatternKey) :
    E.entry (n + 1) k = (E.effect n).onEntry (E.clock n) k (E.entry n k) := by
  rw [Execution.entry, schedule_succ h, Effect.entryOf_apply]
  rfl

theorem completes_entry (h : Valid E) {time : Instant} (hc : E.effect n = .completes k time) :
    ∃ e, E.entry n k = some e ∧ e.nextCheck ≤ time := by
  cases ha : E.event n with
  | none => cases (effect_of_idle ha).symm.trans hc
  | some a => exact completes_due (h.step n a ha) ((effect_of_event ha).symm.trans hc)

/-- What a step does to the entry of a key. -/
theorem entry_succ_cases (h : Valid E) (n : ℕ) (k : PatternKey) :
    (∃ d, E.effect n = .books k d ∧ E.entry (n + 1) k = some ⟨k, d, none, E.clock n + d⟩) ∨
    ((E.effect n = .drops k ∨ E.effect n = .loses k) ∧ E.entry (n + 1) k = none) ∨
    (∃ time e, E.effect n = .completes k time ∧ E.entry n k = some e ∧ e.nextCheck ≤ time ∧
      E.entry (n + 1) k = some (Schedule.checked e time)) ∨
    ((E.effect n).key? ≠ some k ∧ E.entry (n + 1) k = E.entry n k) := by
  have hs := entry_succ h n k
  by_cases hk : (E.effect n).key? = some k
  · cases hf : E.effect n with
    | books key d =>
      obtain rfl : key = k := by simpa [hf, Effect.key?] using hk
      exact Or.inl ⟨d, rfl, by simpa [hf, Effect.onEntry] using hs⟩
    | drops key =>
      obtain rfl : key = k := by simpa [hf, Effect.key?] using hk
      exact Or.inr (Or.inl ⟨Or.inl rfl, by simpa [hf, Effect.onEntry] using hs⟩)
    | loses key =>
      obtain rfl : key = k := by simpa [hf, Effect.key?] using hk
      exact Or.inr (Or.inl ⟨Or.inr rfl, by simpa [hf, Effect.onEntry] using hs⟩)
    | completes key time =>
      obtain rfl : key = k := by simpa [hf, Effect.key?] using hk
      obtain ⟨e, he, hle⟩ := completes_entry h hf
      refine Or.inr (Or.inr (Or.inl ⟨time, e, rfl, he, hle, ?_⟩))
      simpa [hf, Effect.onEntry, he] using hs
    | keeps => simp [hf, Effect.key?] at hk
  · exact Or.inr (Or.inr (Or.inr ⟨hk, hs.trans (Effect.onEntry_of_ne hk _ _)⟩))

theorem ordered_schedule (h : Valid E) (n : ℕ) : (E.state n).schedule.Ordered := by
  induction n with
  | zero => simp [h.initial, Schedule.Ordered]
  | succ n ih => exact schedule_succ h n ▸ Effect.ordered_apply _ _ ih

theorem nodup_watched (h : Valid E) (n : ℕ) : (E.state n).watched.Nodup := by
  induction n with
  | zero => simp [h.initial, Watcher.watched, Schedule.keys]
  | succ n ih =>
    rw [Watcher.watched, schedule_succ h]
    exact Effect.nodup_apply _ _ ih

theorem oneAlive (h : Valid E) (n : ℕ) : OneAlive (E.state n) := by
  induction n with
  | zero => simp [h.initial, OneAlive, Watcher.phase?]
  | succ n ih =>
    cases ha : E.event n with
    | none => rwa [h.idle n ha]
    | some a => exact oneAlive_step (h.step n a ha) ih

/-- Two tasks that are alive are one. -/
theorem alive_unique (h : Valid E) {j : TaskId} {q : TaskPhase}
    (hi : (E.state n).phase? i = some p) (hp : p ≠ .ended)
    (hj : (E.state n).phase? j = some q) (hq : q ≠ .ended) : i = j :=
  Option.some.inj ((oneAlive h n i p hi hp).symm.trans (oneAlive h n j q hj hq))

theorem phase?_succ (h : Valid E) (ha : E.actor? n ≠ some i)
    (hp : (E.state n).phase? i = some p) : (E.state (n + 1)).phase? i = some p := by
  cases he : E.event n with
  | none => rwa [h.idle n he]
  | some a =>
    have hne : a.actor? ≠ some i := by simpa [Execution.actor?, he] using ha
    exact phase?_step_of_some (h.step n a he) hne hp

/-- A task stands where it stood until it takes a step of its own. -/
theorem phase?_until (h : Valid E) (hmn : m ≤ n) (hp : (E.state m).phase? i = some p)
    (ha : ∀ r, m ≤ r → r < n → E.actor? r ≠ some i) : (E.state n).phase? i = some p := by
  induction n, hmn using Nat.le_induction with
  | base => exact hp
  | succ n hmn ih =>
    exact phase?_succ h (ha n hmn (Nat.lt_succ_self n)) (ih fun r hr hrn => ha r hr (by omega))

theorem task_step (h : Valid E) {step : Watcher.TaskStep}
    (ha : E.event n = some (.task i step)) :
    ∃ t, (E.state n).tasks[i]? = some t ∧ (E.state n).Enabled (E.clock n) t step ∧
      E.state (n + 1) = (E.state n).takeStep i step := by
  have hs := h.step n _ ha
  generalize E.state (n + 1) = w' at hs ⊢
  cases hs with
  | task ht he => exact ⟨_, ht, he, rfl⟩

theorem finish_step (h : Valid E) {time : Instant} {x : Except ClockOverflow Bool}
    (ha : E.event n = some (.finish i k time x)) :
    (E.state n).phase? i = some (.checking k) ∧
      (E.state n).finishCheck i k time = (x, E.state (n + 1)) := by
  have hs := h.step n _ ha
  generalize E.state (n + 1) = w' at hs ⊢
  cases hs with
  | finish hp hf => exact ⟨hp, hf⟩

/-- A list of events, each with a reading of the clock, that can happen one after another. -/
def Legal (w : Watcher) : List (Instant × Event) → Prop
  | [] => True
  | (t, a) :: l => w.Possible t a ∧ Legal (w.after t a) l

/-- The watcher after the first `n` events of a list. -/
def replayed (w : Watcher) : List (Instant × Event) → ℕ → Watcher
  | (t, a) :: l, n + 1 => replayed (w.after t a) l n
  | _, _ => w

/-- The execution of a new watcher that follows a list of events and then stands still. -/
def Execution.replay (l : List (Instant × Event)) : Execution where
  state := replayed {} l
  clock n := (((l.take (n + 1)).getLast?).map (·.1)).getD 0
  event n := l[n]?.map (·.2)

theorem replayed_succ {l : List (Instant × Event)} (h : Legal w l) (n : ℕ) :
    match l[n]? with
    | some (t, a) => Step t (replayed w l n) a (replayed w l (n + 1))
    | none => replayed w l (n + 1) = replayed w l n := by
  induction l generalizing w n with
  | nil => rfl
  | cons x l ih =>
    obtain ⟨t, a⟩ := x
    cases n with
    | zero => cases l <;> exact step_iff.mpr ⟨h.1, rfl⟩
    | succ n => exact ih h.2 n

theorem valid_replay {l : List (Instant × Event)} (h : Legal {} l) : Valid (.replay l) where
  initial := by cases l <;> rfl
  idle n hn := by
    have hs := replayed_succ h n
    rw [Option.map_eq_none_iff.mp hn] at hs
    exact hs
  step n a ha := by
    obtain ⟨⟨t, b⟩, hl, rfl⟩ := Option.map_eq_some_iff.mp ha
    have hs := replayed_succ h n
    rw [hl] at hs
    simpa [Execution.replay, List.take_add_one, hl] using hs

theorem clock_replay {l : List (Instant × Event)} (hn : n < l.length) :
    (Execution.replay l).clock n = l[n].1 := by
  simp [Execution.replay, List.take_add_one, hn]

/-- A run whose readings do not go back, and in which a check is over at the reading at which it
ends. -/
theorem timely_replay {l : List (Instant × Event)} (h : Legal {} l)
    (hs : (l.map (·.1)).Pairwise (· ≤ ·))
    (hf : ∀ p ∈ l, ∀ id k time x, p.2 = .finish id k time x → time = p.1) :
    Timely (.replay l) where
  monotone := by
    refine monotone_nat_of_le_succ fun n => ?_
    rcases Nat.lt_or_ge (n + 1) l.length with hn | hl
    · rw [clock_replay hn, clock_replay (Nat.lt_of_succ_lt hn)]
      have hle := List.pairwise_iff_getElem.mp hs n (n + 1) (by simpa using Nat.lt_of_succ_lt hn)
        (by simpa using hn) (Nat.lt_succ_self n)
      simpa using hle
    · simp only [Execution.replay]
      rw [List.take_of_length_le hl, List.take_of_length_le (Nat.le_succ_of_le hl)]
  finish n id k time x ha := by
    obtain ⟨p, hp, hpe⟩ := Option.map_eq_some_iff.mp ha
    obtain ⟨hn, hget⟩ := List.getElem?_eq_some_iff.mp hp
    refine ⟨n, le_rfl, ?_, fun r hr hr' => ?_⟩
    · rw [clock_replay hn, hget]
      exact (hf p (List.mem_of_getElem? hp) id k time x hpe).symm
    · obtain rfl := Nat.le_antisymm hr hr'
      exact (finish_step (valid_replay h) ha).1

def sampleKey : PatternKey := ⟨"mcg", "patterns"⟩

def otherKey : PatternKey := ⟨"hub", "patterns"⟩

/-- A key is added to a new watcher and checked twice. -/
def sampleRun : List (Instant × Event) :=
  [(0, .start), (0, .add sampleKey 5 .ok), (0, .task 0 .arm), (0, .task 0 .readNote),
    (0, .task 0 .arm), (5000, .task 0 (.fire (some sampleKey))),
    (6000, .finish 0 sampleKey 6000 (.ok true)), (6000, .task 0 .arm),
    (11000, .task 0 (.fire (some sampleKey)))]

theorem legal_sampleRun : Legal {} sampleRun := by
  refine ⟨trivial, rfl, ⟨_, rfl, rfl⟩, ⟨_, rfl, by decide, _, _, rfl⟩, ⟨_, rfl, rfl⟩, ?_⟩
  refine ⟨⟨_, rfl, _, _, rfl, by decide, rfl⟩, ⟨rfl, rfl⟩, ⟨_, rfl, rfl⟩, ?_⟩
  exact ⟨⟨_, rfl, _, _, rfl, by decide, rfl⟩, trivial⟩

theorem valid_sampleRun : Valid (.replay sampleRun) := valid_replay legal_sampleRun

theorem timely_sampleRun : Timely (.replay sampleRun) :=
  timely_replay legal_sampleRun (by decide) (by simp +contextual [sampleRun, eq_comm])

end GitDrift.Drift
