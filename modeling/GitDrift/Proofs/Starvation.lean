import GitDrift.Proofs.CheckStart
import Mathlib.Data.Finset.Card
import Mathlib.Order.Interval.Finset.Nat

/-!
A key that is due is overtaken by each other key once at most. Whoever is put into the schedule
comes behind it, and so every key that is checked meanwhile has lost its place ahead of it.
-/
namespace GitDrift.Drift

variable {E : Execution} {a m n q s : ℕ} {j k : PatternKey} {i id : TaskId} {e g : Entry}
  {now time : Instant} {x : Except ClockOverflow Bool}

/-- The reading of the clock that an effect schedules by. -/
def Effect.reading (now : Instant) : Effect → Instant
  | .completes _ time => time
  | _ => now

theorem key?_effect {w : Watcher} {b : Event} (h : (w.effect b).key? = some k) :
    b.actor? = none ∨ ∃ id time x, b = .finish id k time x := by
  unfold Watcher.effect at h
  split at h <;> (try split_ifs at h) <;> simp_all [Effect.key?, Event.actor?]

namespace Execution

/-- A client changes the entry of a key, or takes it away. -/
def Disturbs (E : Execution) (k : PatternKey) (n : ℕ) : Prop :=
  E.actor? n = none ∧ (E.effect n).key? = some k

end Execution

theorem key?_effect_ne (hj : ¬ E.Disturbs j n)
    (hf : ∀ i time x, E.event n ≠ some (.finish i j time x)) : (E.effect n).key? ≠ some j := by
  intro hk
  cases ha : E.event n with
  | none => simp [effect_of_idle ha, Effect.key?] at hk
  | some b =>
    rw [effect_of_event ha] at hk
    rcases key?_effect hk with hb | ⟨i, time, x, rfl⟩
    · exact hj ⟨by simpa [Execution.actor?, ha] using hb, by rwa [effect_of_event ha]⟩
    · exact hf i time x ha

theorem entry_kept (h : Valid E) (hmn : m ≤ n)
    (hk : ∀ r, m ≤ r → r < n → (E.effect r).key? ≠ some j) : E.entry n j = E.entry m j := by
  induction n, hmn using Nat.le_induction with
  | base => rfl
  | succ n hmn ih =>
    rw [entry_succ h, Effect.onEntry_of_ne (hk n hmn (Nat.lt_succ_self n))]
    exact ih fun r hmr hrn => hk r hmr (by omega)

/-- A task that was stopped takes no step but its last: between its looking whether it was stopped
and the step that follows, nobody stops it. -/
def Prompt (E : Execution) : Prop :=
  ∀ n id step, E.event n = some (.task id step) → (E.state n).isStopped id = true → step = .exit

end GitDrift.Drift
