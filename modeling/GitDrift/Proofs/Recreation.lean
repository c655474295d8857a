import GitDrift.Proofs.Backoff

/-!
What a Pattern that was let go leaves to the next one of its name. Failures are kept by namespace
and name, and letting a Pattern go does not forget them, so that they count against the next Pattern
until that is put into effect.
-/
namespace GitDrift.Reconcile

open Cluster Retry

variable {w : Workload} {turns later earlier : List Turn} {key : PatternKey} {old p : Pattern}
  {r r' : Reconciler} {action : Action} {e : ReconcileError} {τ : Type}
  {answer : Request → τ → Answer × τ} {t t' : τ}

/-- That a Pattern was let go does not matter to its failures. -/
theorem failuresSince_released (hd : Deleting old) (action : Action) (turns : List Turn) :
    failuresSince key (.ended old (.ok action) :: turns) = failuresSince key turns := by
  simp [failuresSince_cons, recounted, Turn.resets, Turn.fails, Applied, hd, Except.isOk,
    Except.toBool]

/-- Turns without a failure leave a key's failures, unless they reset them. -/
theorem failuresSince_append (h : ∀ turn ∈ later, turn.fails key = false) (turns : List Turn) :
    failuresSince key (later ++ turns) =
      if ∃ turn ∈ later, turn.resets key = true then 0 else failuresSince key turns := by
  induction later with
  | nil => simp
  | cons turn later ih =>
    rw [List.forall_mem_cons] at h
    rw [List.cons_append, failuresSince_cons, ih h.2, recounted, h.1]
    cases hr : turn.resets key <;> simp [hr]

/-- The first two delays are the least. -/
theorem delay_eq_sixty_iff (n : ℕ) : 60 * min 10 (Nat.fib (n + 1)) = 60 ↔ n ≤ 1 := by
  rcases n with _ | _ | n
  · decide
  · decide
  · have hfib : 2 ≤ Nat.fib (n + 3) := Nat.fib_mono (show 3 ≤ n + 3 by omega)
    rw [show n + 1 + 1 + 1 = n + 3 from rfl]
    omega

/-- When a Pattern has been let go, the first failure of the next one of its name is met with the
delay that the old one's failures had come to, unless the name was put into effect in between. So it
is tried again after a minute exactly if that happened, or if the old one had failed at most once
since it was last put into effect. -/
theorem first_failure_after_release
    (h : History w (later ++ .ended old (.ok action) :: earlier)) (hdeleting : Deleting old)
    (hkey : (watchKey old).Plain) (hfirst : ∀ turn ∈ later, turn.fails (watchKey old) = false)
    (hp : w.active (watchKey old) = some (p, .done (.error e))) (hd : ¬ Deleting p)
    (config : Option ControllerConfig) :
    (errorPolicy p config w.reconciler).1 = .requeue (60 * min 10 (Nat.fib
      ((if ∃ turn ∈ later, turn.resets (watchKey old) = true then 0
        else failuresSince (watchKey old) earlier) + 1))) ∧
    ((errorPolicy p config w.reconciler).1 = .requeue 60 ↔
      (∃ turn ∈ later, turn.resets (watchKey old) = true) ∨
        failuresSince (watchKey old) earlier ≤ 1) := by
  have hc := counted_of_history hkey h
  have hsame : watchKey p = watchKey old := hc.same _ p _ hp
  have hfailed := (hc.own p _ hp).failed
  rw [failuresSince_append hfirst, failuresSince_released hdeleting] at hfailed
  rw [← hsame] at hfailed ⊢
  obtain ⟨haction, -⟩ := failed_errorPolicy hd hfailed config
  refine ⟨haction, ?_⟩
  rw [haction, Action.requeue.injEq, delay_eq_sixty_iff]
  split_ifs with hreset
  · simp [hreset]
  · simp [hreset]

/-- A Pattern without a target that is being deleted. -/
def deletedPattern : Pattern :=
  { heldPattern "" with
    metadata := { (heldPattern "").metadata with deletionTimestamp := some ⟨0, 0⟩ } }

theorem plain_deletedPattern : (watchKey deletedPattern).Plain := by
  unfold PatternKey.Plain
  decide

/-- A server that does what it is asked for. -/
def granting (_ : Request) (t : Unit) : Answer × Unit :=
  (.response 200 "\x7b\"metadata\":\x7b\x7d,\"spec\":\x7b\x7d\x7d", t)

theorem run_deletedPattern (hr : r.watcher = {}) : ∃ r',
    (reconcile deletedPattern).run granting r () = (some (.ok .awaitChange), r', ()) := by
  obtain ⟨watcher, config, failures, metrics, now⟩ := r
  subst hr
  exact ⟨_, rfl⟩

theorem errorPolicy_watcher (p : Pattern) (config : Option ControllerConfig) (r : Reconciler) :
    (errorPolicy p config r).2.watcher = r.watcher := by
  unfold errorPolicy Reconciler.recordFailure
  cases hf : r.failures <;> split_ifs <;> simp [Reconciler.measure, hf]

/-- A reconciliation that nobody disturbs is over and has not failed. -/
theorem History.completed (h : History ⟨r, fun _ => none⟩ turns)
    (hx : (reconcile p).run answer r t = (some (.ok action), r', t')) :
    History ⟨r', fun _ => none⟩ (.ended p (.ok action) :: turns) := by
  have hbegin := h.begin (p := p) rfl
  have hdone : History ⟨r', Function.update (fun _ => none) (watchKey p)
      (some (p, .done (.ok action)))⟩ turns := by
    simpa using hbegin.run (Function.update_self ..) hx
  have hended := hdone.ended (l := watchKey p) (p := p) (x := .ok action) (by simp) none
  simpa [concluded] using hended

/-- The Pattern has failed so many times in a row. -/
theorem exists_history_of_failures (n : ℕ) : ∃ r, r.watcher = {} ∧ History ⟨r, fun _ => none⟩
    (List.replicate n (.ended (heldPattern "") (.error emptyTarget))) := by
  induction n with
  | zero => exact ⟨{ now := 0 }, rfl, .new rfl⟩
  | succ n ih =>
    obtain ⟨r, hr, h⟩ := ih
    obtain ⟨r', hx, hr'⟩ : ∃ r', (reconcile (heldPattern "")).run unreachable r () =
        (some (.error emptyTarget), r', ()) ∧ r'.watcher = r.watcher := ⟨_, rfl, rfl⟩
    exact ⟨_, (errorPolicy_watcher _ none r').trans (hr'.trans hr), h.retried hx⟩

/-- It was then let go, and the next of its name has failed. -/
theorem exists_history_of_release (n : ℕ) : ∃ w,
    History w (.ended deletedPattern (.ok .awaitChange) ::
      List.replicate n (.ended (heldPattern "") (.error emptyTarget))) ∧
    w.active (watchKey (heldPattern "")) = some (heldPattern "", .done (.error emptyTarget)) := by
  obtain ⟨r, hr, h⟩ := exists_history_of_failures n
  obtain ⟨r₁, h₁⟩ := run_deletedPattern hr
  obtain ⟨r₂, h₂⟩ := run_heldPattern r₁
  exact ⟨_, (h.completed h₁).failed h₂, by simp⟩

theorem deletedPattern_once_failed : ∃ w,
    History w ([] ++ .ended deletedPattern (.ok .awaitChange) ::
      List.replicate 1 (.ended (heldPattern "") (.error emptyTarget))) ∧
    Deleting deletedPattern ∧ (watchKey deletedPattern).Plain ∧ ¬ Deleting (heldPattern "") ∧
    w.active (watchKey deletedPattern) = some (heldPattern "", .done (.error emptyTarget)) ∧
    (errorPolicy (heldPattern "") none w.reconciler).1 = .requeue 60 := by
  obtain ⟨w, hreleased, hactive⟩ := exists_history_of_release 1
  have h : History w ([] ++ .ended deletedPattern (.ok .awaitChange) ::
      List.replicate 1 (.ended (heldPattern "") (.error emptyTarget))) := hreleased
  have hd : ¬ Deleting (heldPattern "") := by decide
  obtain ⟨-, hleast⟩ := first_failure_after_release h (by decide) plain_deletedPattern (by simp)
    hactive hd none
  exact ⟨w, h, by decide, plain_deletedPattern, hd, hactive, hleast.mpr (Or.inr (by decide))⟩

/-- A Pattern that failed twice and was let go leaves its failures to the next one of its name: the
first failure of that is met with the third delay. -/
theorem recreated_pattern_waits_longer : ∃ w earlier,
    History w (.ended deletedPattern (.ok .awaitChange) :: earlier) ∧
    Held deletedPattern ∧ Deleting deletedPattern ∧
    watchKey (heldPattern "") = watchKey deletedPattern ∧ ¬ Deleting (heldPattern "") ∧
    w.active (watchKey (heldPattern "")) = some (heldPattern "", .done (.error emptyTarget)) ∧
    (errorPolicy (heldPattern "") none w.reconciler).1 = .requeue 120 := by
  obtain ⟨w, h, hactive⟩ := exists_history_of_release 2
  have hfailed : Failed w.reconciler (watchKey (heldPattern "")) 2 :=
    ((counted_of_history plain_deletedPattern h).own _ _ hactive).failed
  exact ⟨w, _, h, by decide, by decide, rfl, by decide, hactive,
    (failed_errorPolicy (by decide) hfailed none).1⟩

end GitDrift.Reconcile
