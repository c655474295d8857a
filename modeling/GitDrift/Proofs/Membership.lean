import GitDrift.Proofs.Activity
import GitDrift.Proofs.Watcher
import GitDrift.Reconcile.Reconciler

/-! Which Patterns are watched after they were reconciled. -/
namespace GitDrift

open Cluster Drift

variable {c : GitConfig} {spec : PatternSpec} {least : Int}

/-- With its defaults, a configuration that is to be watched has an interval. -/
theorem pollInterval_nonneg (h : (spec.qualified least).gitSpec.qualifies = true) :
    0 ≤ (spec.qualified least).gitSpec.pollInterval := by
  have hne : effectiveInterval least spec.gitSpec.pollInterval ≠ pollingDisabled := by
    simp only [GitConfig.qualifies, PatternSpec.qualified, Bool.and_eq_true] at h
    exact of_decide_eq_true h.2
  change 0 ≤ effectiveInterval least spec.gitSpec.pollInterval
  unfold effectiveInterval at hne ⊢
  split_ifs at hne ⊢ <;> omega

namespace Drift.Watcher

variable {w w' : Watcher} {k : PatternKey} {d : Span} {now : Instant} {seconds : Int}
  {r : ChangeResult} {step : MembershipStep}

theorem isWatching_iff : w.isWatching k = true ↔ ∃ e, w.schedule.entryOf k = some e := by
  rw [isWatching, Schedule.contains_iff, Schedule.mem_keys_iff]

theorem reschedule_watches (h : w.reschedule k d now = (r, w')) :
    r = .overflow ∨ r = .ok ∧ w'.isWatching k = true := by
  rcases reschedule_cases h with ⟨rfl, rfl⟩ | ⟨rfl, _⟩
  · refine Or.inr ⟨rfl, ?_⟩
    rw [isWatching_iff, touch_schedule]
    exact ⟨_, Schedule.entryOf_place_self (Schedule.notMem_keys_without w.schedule k)⟩
  · exact Or.inl rfl

theorem add_watches (hw : w.isRunning = true) (hs : 0 ≤ seconds)
    (h : w.add k seconds now = (r, w')) : r = .overflow ∨ r = .ok ∧ w'.isWatching k = true := by
  simp only [add, Int.not_lt.mpr hs, hw, if_false, Bool.not_true, Bool.false_eq_true] at h
  exact reschedule_watches h

theorem updateInterval_watches (hw : w.isRunning = true) (hs : 0 ≤ seconds)
    (hk : w.isWatching k = true) (h : w.updateInterval k seconds now = (r, w')) :
    r = .overflow ∨ r = .ok ∧ w'.isWatching k = true := by
  obtain ⟨e, he⟩ := isWatching_iff.mp hk
  simp only [updateInterval, Int.not_lt.mpr hs, hw, he, if_false, Bool.not_true,
    Bool.false_eq_true] at h
  split at h
  · obtain ⟨rfl, rfl⟩ := Prod.mk.inj h
    exact Or.inr ⟨rfl, hk⟩
  · exact reschedule_watches h

theorem remove_unwatches (hw : w.isRunning = true) (hk : w.isWatching k = true)
    (h : w.remove k = (r, w')) : r = .ok ∧ w'.isWatching k = false := by
  obtain ⟨e, he⟩ := isWatching_iff.mp hk
  simp only [remove, hw, Schedule.remove, he, if_false, Bool.not_true, Bool.false_eq_true] at h
  obtain ⟨rfl, rfl⟩ := Prod.mk.inj h
  refine ⟨rfl, ?_⟩
  rw [Bool.eq_false_iff, ne_eq, isWatching_iff, touch_schedule]
  simp [Schedule.entryOf_without]

/-- A running watcher refuses no step that a configuration asks for. -/
theorem sync_watches (hw : w.isRunning = true) (hc : c.qualifies = true → 0 ≤ c.pollInterval)
    (h : w.sync k c now = (step, r, w')) :
    r = .overflow ∨ r = .ok ∧ w'.isWatching k = c.qualifies := by
  simp only [sync, membershipStep, Prod.mk.injEq] at h
  obtain ⟨_, h⟩ := h
  cases hq : c.qualifies with
  | true =>
    cases hk : w.isWatching k with
    | true =>
      simp only [hq, hk, if_true] at h
      exact updateInterval_watches hw (hc hq) hk h
    | false =>
      simp only [hq, hk] at h
      exact add_watches hw (hc hq) h
  | false =>
    cases hk : w.isWatching k with
    | true =>
      simp only [hq, hk] at h
      exact Or.inr (remove_unwatches hw hk h)
    | false =>
      simp only [hq, hk] at h
      obtain ⟨rfl, rfl⟩ := Prod.mk.inj h
      exact Or.inr ⟨rfl, hk⟩

end Drift.Watcher

namespace Reconcile

variable {τ : Type} {answer : Request → τ → Answer × τ} {r r' : Reconciler} {t t' : τ}
  {p : Pattern} {key : PatternKey} {x : Except ReconcileError Action}

theorem asks_recordStep (key : PatternKey) (step : String) (error : Option String) :
    Activity.Asks (recordStep key step error) :=
  (Patterns.asksOnce_patchStatus key _).asks.bind fun a => by
    split
    · exact .done _
    · exact .done _
    · exact .done _

theorem asks_reportFailure (key : PatternKey) (step : String) (e : ApplyError) :
    Activity.Asks (reportFailure key step e) :=
  (asks_recordStep key step _).bind fun _ => .done _

theorem resetFailures_watcher (key : String) : (r.resetFailures key).2.watcher = r.watcher := by
  unfold Reconciler.resetFailures
  split
  · rfl
  · split <;> rfl

/-- The git configuration of a Pattern with its defaults. -/
def desired (r : Reconciler) (spec : PatternSpec) : GitConfig :=
  (spec.qualified r.config.minPollInterval).gitSpec

/-- An address that is not valid ends the work before anything is done about the watch. -/
theorem apply_invalid {e : Git.RepoUrlError} (h : (desired r spec).validate = .error e)
    (key : PatternKey) (answer : Request → τ → Answer × τ) (t : τ) :
    ∃ y t', (apply key spec).run answer r t = (some y, r, t') := by
  unfold apply
  rw [Activity.run_bind, Activity.run_look]
  simp only [desired] at h
  simp only [h]
  exact (asks_reportFailure key _ _).run answer r t

/-- With valid addresses the watch is brought in line, and what follows leaves it as it is. -/
theorem apply_valid {name : String} {y : Except ApplyError Action}
    (h : (desired r spec).validate = .ok name)
    (hy : (apply key spec).run answer r t = (some y, r', t')) :
    ∃ step result, r.watcher.sync key (desired r spec) r.now = (step, result, r'.watcher) ∧
      result ≠ .overflow := by
  unfold apply at hy
  rw [Activity.run_bind, Activity.run_look] at hy
  simp only [desired] at h ⊢
  simp only [h] at hy
  rw [Activity.run_bind, Activity.run_changeGet, Reconciler.syncWatch] at hy
  generalize r.watcher.sync key _ r.now = u at hy ⊢
  obtain ⟨step, result, w⟩ := u
  refine ⟨step, result, ?_⟩
  cases result with
  | overflow => cases hy
  | refused e =>
    obtain ⟨a, t₁, ha⟩ := (asks_reportFailure key step.text (.driftWatch e)).run answer
      { r with watcher := w } t
    simp only at hy
    rw [ha] at hy
    cases hy
    exact ⟨rfl, by simp⟩
  | ok =>
    obtain ⟨a, s₁, t₁, ha, hy⟩ := Activity.run_bind_eq_some hy
    obtain ⟨b, t₂, hb⟩ := (asks_recordStep key step.text none).run answer { r with watcher := w } t
    simp only at ha
    rw [hb] at ha
    cases ha
    cases a with
    | error f =>
      cases hy
      exact ⟨rfl, by simp⟩
    | ok u =>
      cases hy
      refine ⟨?_, by simp⟩
      simp [Reconciler.measure, resetFailures_watcher]

theorem stageOf_held (hf : Pattern.finalizer ∈ p.metadata.finalizers.getD [])
    (hd : p.metadata.deletionTimestamp = none) : stageOf p.metadata = .applying := by
  obtain ⟨i, hi⟩ : ∃ i,
      (p.metadata.finalizers.getD []).findIdx? (· = Pattern.finalizer) = some i := by
    rw [← Option.isSome_iff_exists, List.findIdx?_isSome]
    simpa using hf
  simp [stageOf, hi, hd]

/-- Reconciling a Pattern that is held puts its spec into effect, and measures that. -/
theorem reconcile_held {ns : String} (hs : stageOf p.metadata = .applying)
    (hn : p.metadata.namespace_ = some ns) :
    (reconcile p).run answer r t =
      match (apply (keyOf p ns) p.spec).run answer (r.measure (·.reconciliation)) t with
      | (some y, r₁, t₁) =>
        (some ((y.mapError .applyFailed).mapError .finalizer),
          r₁.measure (·.reconciliationTook (secondsBetween r.now r₁.now)), t₁)
      | (none, r₁, t₁) => (none, r₁, t₁) := by
  unfold reconcile
  rw [Activity.run_bind, Activity.run_look]
  simp only
  rw [Activity.run_bind, Activity.run_change]
  simp only [hn, finalize, hs]
  rw [Activity.run_bind, Activity.run_bind]
  rcases (apply (keyOf p ns) p.spec).run answer (r.measure (·.reconciliation)) t with
    ⟨_ | y, r₁, t₁⟩ <;> rfl

/-- The key under which a Pattern is watched. -/
def watchKey (p : Pattern) : PatternKey := keyOf p (p.metadata.namespace_.getD "")

/-- Whether reconciling a Pattern gets as far as its watch. -/
def ReachesWatch (r : Reconciler) (p : Pattern) : Prop :=
  p.metadata.namespace_ ≠ none ∧ ∃ name, (desired r p.spec).validate = .ok name

/-- Where the addresses are not valid, a Pattern is watched as it was before. -/
theorem reconcile_unreached (hs : stageOf p.metadata = .applying) (h : ¬ ReachesWatch r p)
    (answer : Request → τ → Answer × τ) (t : τ) :
    ∃ x r' t', (reconcile p).run answer r t = (some x, r', t') ∧ r'.watcher = r.watcher := by
  cases hn : p.metadata.namespace_ with
  | none =>
    unfold reconcile
    rw [Activity.run_bind, Activity.run_look]
    simp only
    rw [Activity.run_bind, Activity.run_change]
    simp only [hn]
    exact ⟨_, _, _, rfl, rfl⟩
  | some ns =>
    cases hv : (desired r p.spec).validate with
    | ok name => exact absurd ⟨by simp [hn], name, hv⟩ h
    | error e =>
      obtain ⟨y, t₁, hy⟩ :=
        apply_invalid (r := r.measure (·.reconciliation)) hv (keyOf p ns) answer t
      rw [reconcile_held hs hn, hy]
      exact ⟨_, _, _, rfl, rfl⟩

theorem reconcile_reached (hs : stageOf p.metadata = .applying) (h : ReachesWatch r p)
    (hr : r.watcher.isRunning = true)
    (hx : (reconcile p).run answer r t = (some x, r', t')) :
    r'.watcher.isWatching (watchKey p) = (desired r p.spec).qualifies := by
  obtain ⟨hn, name, hv⟩ := h
  obtain ⟨ns, hn⟩ := Option.ne_none_iff_exists'.mp hn
  rw [reconcile_held hs hn] at hx
  rcases hy : (apply (keyOf p ns) p.spec).run answer (r.measure (·.reconciliation)) t with
    ⟨_ | y, r₁, t₁⟩
  · simp [hy] at hx
  · rw [hy] at hx
    cases hx
    obtain ⟨step, result, hsync, hne⟩ := apply_valid (r := r.measure (·.reconciliation)) hv hy
    rw [watchKey, hn, Option.getD_some]
    exact ((Drift.Watcher.sync_watches hr pollInterval_nonneg hsync).resolve_left hne).2

/-- Without a target there is no valid address. -/
theorem not_reachesWatch (h : p.spec.gitSpec.targetRepo = "") : ¬ ReachesWatch r p := by
  rintro ⟨_, name, hv⟩
  have ht : (desired r p.spec).targetRepo = "" := h
  rw [GitConfig.validate, ht] at hv
  cases hv

/-- A Pattern that is held and reconciled is watched if its spec asks for it, when its addresses are
valid. When they are not, it is watched as it was before, so that one whose spec no longer asks for
it stays watched. -/
theorem watched_after_reconcile (hf : Pattern.finalizer ∈ p.metadata.finalizers.getD [])
    (hd : p.metadata.deletionTimestamp = none) (hr : r.watcher.isRunning = true)
    (hx : (reconcile p).run answer r t = (some x, r', t')) :
    (ReachesWatch r p → r'.watcher.isWatching (watchKey p) = (desired r p.spec).qualifies) ∧
    (¬ ReachesWatch r p →
      r'.watcher.isWatching (watchKey p) = r.watcher.isWatching (watchKey p)) ∧
    ((r'.watcher.isWatching (watchKey p) = true → (desired r p.spec).qualifies = true) ↔
      ReachesWatch r p ∨
        (r.watcher.isWatching (watchKey p) = true → (desired r p.spec).qualifies = true)) := by
  have hs := stageOf_held hf hd
  have hreach (h : ReachesWatch r p) := reconcile_reached hs h hr hx
  have hkeep (h : ¬ ReachesWatch r p) : r'.watcher = r.watcher := by
    obtain ⟨y, r₁, t₁, hy, hw⟩ := reconcile_unreached hs h answer t
    rw [hx] at hy
    cases hy
    exact hw
  refine ⟨hreach, fun h => by rw [hkeep h], ?_⟩
  by_cases h : ReachesWatch r p
  · simp [h, hreach h]
  · simp [h, hkeep h]

/-- A Pattern that is held and asks to be watched, if it has a target. -/
def heldPattern (target : String) : Pattern where
  metadata :=
    { name := some "mcg", namespace_ := some "patterns", finalizers := some [Pattern.finalizer] }
  spec := { gitSpec := { originRepo := "git@github.com:vp/mcg.git", targetRepo := target,
                         pollInterval := 300 } }

/-- A server that cannot be reached. -/
def unreachable (_ : Request) (t : Unit) : Answer × Unit := (.failed, t)

/-- A reconciler whose watcher was started and that has reconciled a Pattern with a target. -/
def watchingReconciler : Reconciler :=
  ((reconcile (heldPattern "git@gitea.example.com:org/mcg.git")).run unreachable
    { watcher := (Watcher.start {}).2, now := 0 } ()).2.1

theorem heldPattern_after_reconcile :
    ∃ x r', (reconcile (heldPattern "")).run unreachable watchingReconciler () = (some x, r', ()) ∧
      ((r'.watcher.isWatching (watchKey (heldPattern "")) = true →
          (desired watchingReconciler (heldPattern "").spec).qualifies = true) ↔
        ReachesWatch watchingReconciler (heldPattern "") ∨
          (watchingReconciler.watcher.isWatching (watchKey (heldPattern "")) = true →
            (desired watchingReconciler (heldPattern "").spec).qualifies = true)) := by
  obtain ⟨x, r', _, hx, _⟩ :=
    reconcile_unreached (p := heldPattern "") (r := watchingReconciler) rfl (not_reachesWatch rfl)
      unreachable ()
  exact ⟨x, r', hx, (watched_after_reconcile (by decide) rfl (by decide) hx).2.2⟩

/-- When the target of a watched Pattern is emptied, the Pattern no longer asks to be watched, and
its watch is left. -/
theorem emptied_target_stays_watched :
    Pattern.finalizer ∈ (heldPattern "").metadata.finalizers.getD [] ∧
      (heldPattern "").metadata.deletionTimestamp = none ∧
      watchingReconciler.watcher.isRunning = true ∧
      ∃ x r', (reconcile (heldPattern "")).run unreachable watchingReconciler () =
          (some x, r', ()) ∧
        r'.watcher.isWatching (watchKey (heldPattern "")) = true ∧
        (desired watchingReconciler (heldPattern "").spec).qualifies = false := by
  refine ⟨by decide, rfl, by decide, ?_⟩
  obtain ⟨x, r', _, hx, hw⟩ :=
    reconcile_unreached (p := heldPattern "") (r := watchingReconciler) rfl (not_reachesWatch rfl)
      unreachable ()
  refine ⟨x, r', hx, ?_, by decide⟩
  rw [hw]
  decide

end Reconcile
end GitDrift
