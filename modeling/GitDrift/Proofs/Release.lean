import GitDrift.Proofs.Conduct
import GitDrift.Proofs.Membership
import GitDrift.Proofs.Step
import Mathlib.Logic.Relation

/-!
Letting a Pattern go. What a reconciliation may do about the watch and the finalizer of a Pattern,
whatever is answered and whatever others do, and what it comes to when the Pattern is being deleted.
-/
namespace GitDrift

open Cluster Drift

namespace Cluster.Patterns

variable {σ : Type} {others : σ → σ → Prop} {allowed : Deed σ → Prop} {known : σ → Prop}

theorem keeps_ask {method : Method} {body : Option (PatchFormat × Json)}
    (h : ∀ s target, known s → allowed (.asks s ⟨method, target, body⟩)) (key : PatternKey)
    (path : String) : Keeps others allowed (fun _ => known) known (ask key path method body) := by
  unfold ask
  split
  · exact .done fun _ hs => hs
  · exact (Keeps.request fun s hs => h s _ hs).bind fun _ => .done fun _ hs => hs

theorem keeps_patchStatus {patch : Json}
    (h : ∀ s target, known s → allowed (.asks s ⟨.patch, target, some (.merge, patch)⟩))
    (key : PatternKey) : Keeps others allowed (fun _ => known) known (patchStatus key patch) :=
  keeps_ask h key _

end Cluster.Patterns

theorem Drift.Watcher.unwatched_of_remove {w w' : Watcher} {k : PatternKey}
    (h : w.remove k = (.ok, w')) : w'.isWatching k = false := by
  rcases remove_cases h with ⟨_, rfl⟩ | ⟨⟨e, he⟩, _⟩
  · rw [Bool.eq_false_iff, ne_eq, isWatching_iff, touch_schedule]
    simp [Schedule.entryOf_without]
  · cases he

/-- Only when it is added does a key begin to be watched. -/
theorem Drift.Watcher.isWatching_step {now : Instant} {w w' : Watcher} {a : Event}
    {k : PatternKey} (hs : Step now w a w') (hk : w'.isWatching k = true) :
    w.isWatching k = true ∨ ∃ seconds, a = .add k seconds .ok := by
  by_contra hnot
  rw [not_or, isWatching_iff, not_exists] at hnot
  obtain ⟨hnone, hadd⟩ := hnot
  obtain ⟨e, he⟩ := isWatching_iff.mp hk
  rw [schedule_step hs, Effect.entryOf_apply, Option.eq_none_iff_forall_ne_some.mpr hnone] at he
  obtain ⟨d, hd⟩ : ∃ d, w.effect a = .books k d := by
    generalize w.effect a = f at he
    cases f <;> simp_all [Effect.onEntry]
  unfold effect at hd
  split at hd <;> (try split_ifs at hd) <;> cases hd
  · exact hadd ⟨_, rfl⟩
  · cases hs with
    | update h =>
      rcases updateInterval_cases h with ⟨hneg, _⟩ | ⟨_, e, he, _⟩ | ⟨⟨x, hx⟩, _⟩
      · contradiction
      · exact hnone e he
      · cases hx

namespace Reconcile

variable {p : Pattern} {key : PatternKey} {ns name : String} {i : ℕ} {r r' : Reconciler}

/-- The Pattern carries its finalizer. -/
def Held (p : Pattern) : Prop := Pattern.finalizer ∈ p.metadata.finalizers.getD []

def Deleting (p : Pattern) : Prop := p.metadata.deletionTimestamp ≠ none

theorem stageOf_cases (p : Pattern) :
    (stageOf p.metadata = .applying ∧ Held p ∧ ¬ Deleting p) ∨
    ((∃ i, stageOf p.metadata = .cleaning i) ∧ Held p ∧ Deleting p) ∨
    ((stageOf p.metadata = .unheld ∨ stageOf p.metadata = .released) ∧ ¬ Held p) := by
  unfold stageOf Held Deleting
  cases hi : (p.metadata.finalizers.getD []).findIdx? (· = Pattern.finalizer) with
  | none =>
    have hheld : Pattern.finalizer ∉ p.metadata.finalizers.getD [] := by
      intro hmem
      simpa using List.findIdx?_eq_none_iff.mp hi _ hmem
    cases hd : p.metadata.deletionTimestamp <;> simp [hheld]
  | some i =>
    have hheld : Pattern.finalizer ∈ p.metadata.finalizers.getD [] := by
      have hsome : ((p.metadata.finalizers.getD []).findIdx? (· = Pattern.finalizer)).isSome := by
        rw [hi]
        rfl
      rw [List.findIdx?_isSome] at hsome
      simpa using hsome
    cases hd : p.metadata.deletionTimestamp <;> simp [hheld]

/-- A patch that removes something. -/
def Removes (request : Request) : Prop :=
  ∃ operations path, request.body = some (.operations, .arr operations) ∧
    (Json.PatchOperation.remove path).encode ∈ operations

/-- What reconciling a Pattern may do. Only a Pattern that is held has its watch changed: it is
brought in line, and when the Pattern is being deleted it is dropped. The finalizer is removed only
when there is no watch. -/
def Permitted (p : Pattern) : Deed Reconciler → Prop
  | .acts r r' =>
    r'.watcher = r.watcher ∨
    (Held p ∧ ¬ Deleting p ∧ ∃ least,
      r'.watcher = (r.watcher.sync (watchKey p) (p.spec.qualified least).gitSpec r.now).2.2) ∨
    (Held p ∧ Deleting p ∧ r.watcher.remove (watchKey p) = (.ok, r'.watcher))
  | .asks r request =>
    Removes request → Held p ∧ Deleting p ∧ r.watcher.isWatching (watchKey p) = false
  | .crashes _ => Held p ∧ ¬ Deleting p

theorem not_removes_merge {method : Method} {target : Target} {patch : Json} :
    ¬ Removes ⟨method, target, some (.merge, patch)⟩ := by
  rintro ⟨operations, path, h, _⟩
  cases h

/-- Adding the finalizer removes nothing. -/
theorem not_removes_add {m : Metadata} {method : Method} {target : Target} :
    ¬ Removes ⟨method, target,
      some (.operations, .arr ((addOperations m).map Json.PatchOperation.encode))⟩ := by
  rintro ⟨operations, path, h, hmem⟩
  obtain rfl : (addOperations m).map Json.PatchOperation.encode = operations := by
    cases h
    rfl
  obtain ⟨o, ho, he⟩ := List.mem_map.mp hmem
  unfold addOperations at ho
  split at ho <;>
  · rcases List.mem_pair.mp ho with rfl | rfl <;> simp [Json.PatchOperation.encode] at he

section Parts

variable {others : Reconciler → Reconciler → Prop} {allowed : Deed Reconciler → Prop}
  {A : Watcher → Prop}

/-- A watch is dropped if there is one, and a watcher that does not run refuses that. -/
theorem dropWatch_cases (r : Reconciler) (key : PatternKey) :
    (r.watcher.isWatching key = false ∧ r.dropWatch key = (.ok, r)) ∨
    (r.watcher.isWatching key = true ∧ ∃ w, r.watcher.remove key = (.ok, w) ∧
      w.isWatching key = false ∧ r.dropWatch key = (.ok, { r with watcher := w })) ∨
    (r.watcher.isWatching key = true ∧ r.watcher.isRunning = false ∧
      r.dropWatch key = (.refused .notStarted, r)) := by
  unfold Reconciler.dropWatch
  cases hk : r.watcher.isWatching key with
  | false => simp
  | true =>
    cases hr : r.watcher.isRunning with
    | true =>
      rcases h : r.watcher.remove key with ⟨x, w⟩
      obtain ⟨rfl, hw⟩ := Watcher.remove_unwatches hr hk h
      simp [hw]
    | false => simp [Watcher.remove, hr]

/-- Cleaning up after a Pattern, if it is known what that comes to in each case. -/
theorem keeps_cleanup {B : Except WatchError Action → Watcher → Prop}
    (hB : ∀ y, Stable others fun r => B y r.watcher)
    (hunwatched : ∀ r, A r.watcher → r.watcher.isWatching key = false →
      allowed (.acts r r) ∧ B (.ok .awaitChange) r.watcher)
    (hdropped : ∀ r r', A r.watcher → r.watcher.isWatching key = true →
      r.watcher.remove key = (.ok, r'.watcher) → r'.watcher.isWatching key = false →
      allowed (.acts r r') ∧ B (.ok .awaitChange) r'.watcher)
    (hrefused : ∀ r, A r.watcher → r.watcher.isWatching key = true →
      r.watcher.isRunning = false → allowed (.acts r r) ∧ B (.error .notStarted) r.watcher) :
    Keeps others allowed (fun y r => B y r.watcher) (fun r => A r.watcher) (cleanup key) := by
  -- what is known after the watch was dropped, and that the clock did not overflow over it
  let after : ChangeResult → Reconciler → Prop
    | .ok, r => B (.ok .awaitChange) r.watcher
    | .refused e, r => B (.error e) r.watcher
    | .overflow, _ => False
  have hafter : ∀ x, Stable others (after x)
    | .ok => hB _
    | .refused e => hB _
    | .overflow => fun _ _ _ h => h
  have hdrop : Keeps others allowed after (fun r => A r.watcher)
      (Activity.changeGet (·.dropWatch key)) := by
    refine Keeps.changeGet hafter fun r hr => ?_
    rcases dropWatch_cases r key with ⟨hk, h⟩ | ⟨hk, w, hw, hk', h⟩ | ⟨hk, hrun, h⟩
    · rw [h]
      exact hunwatched r hr hk
    · rw [h]
      exact hdropped r _ hr hk hw hk'
    · rw [h]
      exact hrefused r hr hk hrun
  refine hdrop.bind fun x => ?_
  cases x with
  | ok => exact .done fun _ h => h
  | refused e => exact .done fun _ h => h
  | overflow => exact .crash fun _ h => h.elim

/-- Letting go of a Pattern that is being deleted: its finalizer is removed after the cleanup, and
stays when that fails. -/
theorem keeps_cleaning {apply : Activity Reconciler (Except ApplyError Action)}
    {cleanup : Activity Reconciler (Except WatchError Action)}
    {B : Except WatchError Action → Watcher → Prop}
    {R : Except FinalizerError Action → Watcher → Prop} (hs : stageOf p.metadata = .cleaning i)
    (hname : p.metadata.name = some name)
    (hc : Keeps others allowed (fun y r => B y r.watcher) (fun r => A r.watcher) cleanup)
    (herror : ∀ e w, B (.error e) w → R (.error (.cleanupFailed e)) w)
    (hok : ∀ a w, B (.ok a) w → R (.ok a) w ∧ ∀ f, R (.error (.removeFinalizer f)) w)
    (hask : ∀ a r target, B (.ok a) r.watcher → allowed (.asks r ⟨.patch, target,
      some (.operations, .arr ((removeOperations i).map Json.PatchOperation.encode))⟩)) :
    Keeps others allowed (fun y r => R y r.watcher) (fun r => A r.watcher)
      (finalize p ns apply cleanup) := by
  simp only [finalize, hs, hname]
  refine hc.bind fun y => ?_
  cases y with
  | error e => exact .done fun r h => herror e r.watcher h
  | ok a =>
    refine (Patterns.keeps_ask (fun r target h => hask a r target h) _ _).bind fun x => ?_
    cases x with
    | ok _ => exact .done fun r h => (hok a r.watcher h).1
    | error f => exact .done fun r h => (hok a r.watcher h).2 f

theorem keeps_measure (hA : Stable others fun r => A r.watcher)
    (hquiet : ∀ r r' : Reconciler, r'.watcher = r.watcher → allowed (.acts r r'))
    (f : Reconciler → Metrics → Metrics) :
    Keeps others allowed (fun _ r => A r.watcher) (fun r => A r.watcher)
      (Activity.change fun r => r.measure (f r)) :=
  Keeps.change hA fun r hr => ⟨hquiet r (r.measure (f r)) rfl, hr⟩

/-- Reconciling a Pattern, if it is known what its stage comes to. -/
theorem keeps_reconcile {R : Except ReconcileError Action → Watcher → Prop}
    (hA : Stable others fun r => A r.watcher)
    (hR : ∀ x, Stable others fun r => R x r.watcher)
    (hquiet : ∀ r r' : Reconciler, r'.watcher = r.watcher → allowed (.acts r r'))
    (hmissing : ∀ w, p.metadata.namespace_ = none → A w → R (.error .missingNamespace) w)
    (hf : ∀ ns, p.metadata.namespace_ = some ns →
      Keeps others allowed (fun y r => R (y.mapError .finalizer) r.watcher)
        (fun r => A r.watcher) (finalize p ns (apply (keyOf p ns) p.spec) (cleanup (keyOf p ns)))) :
    Keeps others allowed (fun x r => R x r.watcher) (fun r => A r.watcher) (reconcile p) := by
  refine (Keeps.look _ hA fun r _ => hquiet r r rfl).bind fun start => ?_
  refine (keeps_measure hA hquiet _).bind fun _ => ?_
  cases hn : p.metadata.namespace_ with
  | none => exact .done fun r hr => hmissing r.watcher hn hr
  | some ns =>
    refine (hf ns hn).bind fun y => ?_
    refine (keeps_measure (hR _) hquiet _).bind fun _ => ?_
    exact .done fun _ h => h

theorem keeps_recordStep {known : Reconciler → Prop}
    (h : ∀ r target patch, known r → allowed (.asks r ⟨.patch, target, some (.merge, patch)⟩))
    (key : PatternKey) (step : String) (error : Option String) :
    Keeps others allowed (fun _ => known) known (recordStep key step error) := by
  refine (Patterns.keeps_patchStatus (fun r target => h r target _) key).bind fun x => ?_
  split <;> exact .done fun _ hr => hr

end Parts

/-- Others do not begin a watch of a key. -/
def Elsewhere (key : PatternKey) (r r' : Reconciler) : Prop :=
  r'.watcher.isWatching key = true → r.watcher.isWatching key = true

theorem elsewhere_stable (key : PatternKey) :
    Stable (Elsewhere key) fun r => r.watcher.isWatching key = false := by
  intro r r' h hk
  rw [Bool.eq_false_iff] at hk ⊢
  exact fun hk' => hk (h hk')

/-- What becomes of a watcher by itself, and what clients ask of it but to add a key. -/
theorem elsewhere_of_step {now : Instant} {a : Event}
    (hs : Drift.Step now r.watcher a r'.watcher) (ha : ∀ seconds, a ≠ .add key seconds .ok) :
    Elsewhere key r r' := fun hk =>
  (Watcher.isWatching_step hs hk).resolve_right fun ⟨seconds, h⟩ => ha seconds h

theorem keeps_apply {others : Reconciler → Reconciler → Prop} (hp : Held p) (hd : ¬ Deleting p) :
    Keeps others (Permitted p) (fun _ _ => True) (fun _ => True) (apply (watchKey p) p.spec) := by
  have hstable : Stable others fun _ => True := fun _ _ _ h => h
  have hrecord (step : String) (error : Option String) :
      Keeps others (Permitted p) (fun _ _ => True) (fun _ => True)
        (recordStep (watchKey p) step error) :=
    keeps_recordStep (fun _ _ _ _ h => absurd h not_removes_merge) _ _ _
  have hreport (step : String) (e : ApplyError) :
      Keeps others (Permitted p) (fun _ _ => True) (fun _ => True)
        (reportFailure (watchKey p) step e) :=
    (hrecord step _).bind fun _ => .done fun _ h => h
  have hlook : Keeps others (Permitted p) (fun _ _ => True) (fun _ => True)
      (Activity.look (·.config)) :=
    Keeps.look _ hstable fun _ _ => Or.inl rfl
  refine hlook.bind fun config => ?_
  dsimp only
  split
  · exact hreport _ _
  · have hsync : Keeps others (Permitted p) (fun _ _ => True) (fun _ => True)
        (Activity.changeGet
          (·.syncWatch (watchKey p) (p.spec.qualified config.minPollInterval).gitSpec)) :=
      Keeps.changeGet (fun _ => hstable) fun r _ =>
        ⟨Or.inr (Or.inl ⟨hp, hd, config.minPollInterval, rfl⟩), trivial⟩
    refine hsync.bind fun x => ?_
    split
    · exact .crash fun _ _ => ⟨hp, hd⟩
    · exact hreport _ _
    · refine (hrecord _ _).bind fun y => ?_
      split
      · exact .done fun _ h => h
      · refine (Keeps.change hstable fun r _ => ⟨Or.inl ?_, trivial⟩).bind fun _ =>
          .done fun _ h => h
        exact resetFailures_watcher _

/-- Where the finalizer was to be removed and that failed, there is no watch. -/
def Unwatched (key : PatternKey) (x : Except ReconcileError Action) (w : Watcher) : Prop :=
  ∀ f, x = .error (.finalizer (.removeFinalizer f)) → w.isWatching key = false

section Stages

variable {effect : Activity Reconciler (Except ApplyError Action)}
  {undo : Activity Reconciler (Except WatchError Action)}

theorem keeps_unheld {others : Reconciler → Reconciler → Prop}
    (hs : stageOf p.metadata = .unheld ∨ stageOf p.metadata = .released) :
    Keeps others (Permitted p) (fun y r => Unwatched key (y.mapError .finalizer) r.watcher)
      (fun _ => True) (finalize p ns effect undo) := by
  rcases hs with hs | hs
  · cases hname : p.metadata.name with
    | none =>
      simp only [finalize, hs, hname]
      exact .done fun _ _ f h => by cases h
    | some name =>
      simp only [finalize, hs, hname]
      refine (Patterns.keeps_ask (fun _ _ _ h => absurd h not_removes_add) _ _).bind fun x => ?_
      split <;> exact .done fun _ _ f h => by cases h
  · simp only [finalize, hs]
    exact .done fun _ _ f h => by cases h

theorem keeps_deleting (hs : stageOf p.metadata = .cleaning i) (hp : Held p) (hd : Deleting p) :
    Keeps (Elsewhere (watchKey p)) (Permitted p)
      (fun y r => Unwatched (watchKey p) (y.mapError .finalizer) r.watcher) (fun _ => True)
      (finalize p ns effect (cleanup (watchKey p))) := by
  have hquiet (r : Reconciler) : Permitted p (.acts r r) := Or.inl rfl
  have hcleanup : Keeps (Elsewhere (watchKey p)) (Permitted p)
      (fun y r => ∀ a, y = .ok a → r.watcher.isWatching (watchKey p) = false) (fun _ => True)
      (cleanup (watchKey p)) :=
    keeps_cleanup (A := fun _ => True)
      (B := fun y w => ∀ a, y = .ok a → w.isWatching (watchKey p) = false)
      (fun y r r' h hy a ha => elsewhere_stable _ r r' h (hy a ha))
      (fun r _ hk => ⟨hquiet r, fun _ _ => hk⟩)
      (fun r r' _ _ h hk => ⟨Or.inr (Or.inr ⟨hp, hd, h⟩), fun _ _ => hk⟩)
      fun r _ _ _ => ⟨hquiet r, fun a h => by cases h⟩
  cases hname : p.metadata.name with
  | none =>
    simp only [finalize, hs, hname]
    exact .done fun _ _ f h => by cases h
  | some name =>
    refine keeps_cleaning (A := fun _ => True)
      (B := fun y w => ∀ a, y = .ok a → w.isWatching (watchKey p) = false)
      (R := fun y w => Unwatched (watchKey p) (y.mapError .finalizer) w) hs hname hcleanup ?_ ?_ ?_
    · exact fun e w _ f h => by cases h
    · exact fun a w h => ⟨fun f h => (by cases h), fun _ _ _ => h a rfl⟩
    · exact fun a r target h _ => ⟨hp, hd, h a rfl⟩

end Stages

/-- Whatever is answered, and whatever others do but begin a watch of the Pattern, reconciling it
does only what is permitted. -/
theorem keeps_permitted (p : Pattern) :
    Keeps (Elsewhere (watchKey p)) (Permitted p) (fun x r => Unwatched (watchKey p) x r.watcher)
      (fun _ => True) (reconcile p) := by
  refine keeps_reconcile (A := fun _ => True) (fun _ _ _ h => h)
    (fun x r r' h hx f hf => elsewhere_stable _ r r' h (hx f hf)) (fun r r' h => Or.inl h)
    (fun _ _ _ f h => by cases h) fun ns hns => ?_
  have hkey : keyOf p ns = watchKey p := by rw [watchKey, hns, Option.getD_some]
  rw [hkey]
  rcases stageOf_cases p with ⟨hs, hp, hd⟩ | ⟨⟨i, hs⟩, hp, hd⟩ | ⟨hs, _⟩
  · simp only [finalize, hs]
    refine (keeps_apply hp hd).bind fun y => .done fun r _ f h => ?_
    cases y <;> cases h
  · exact keeps_deleting hs hp hd
  · exact keeps_unheld hs

/-- A version of the Pattern with a key that is being deleted and is still held. -/
structure Leaving (key : PatternKey) (p : Pattern) : Prop where
  held : Held p
  deleting : Deleting p
  named : p.metadata.name = some key.name
  placed : p.metadata.namespace_ = some key.namespace_

theorem Leaving.keyOf_eq (hp : Leaving key p) : keyOf p key.namespace_ = key := by
  rw [keyOf, Metadata.anyName, hp.named]
  rfl

/-- Reconciling a Pattern that is being deleted while the watcher stays as it is. -/
theorem keeps_leaving {allowed : Deed Reconciler → Prop} {w : Watcher}
    {B : Except WatchError Action → Prop} {R : Except ReconcileError Action → Prop}
    (hp : Leaving key p)
    (hquiet : ∀ r r' : Reconciler, r'.watcher = r.watcher → allowed (.acts r r'))
    (hc : Keeps (fun _ _ => False) allowed (fun y r => B y ∧ r.watcher = w) (fun r => r.watcher = w)
      (cleanup key))
    (herror : ∀ e, B (.error e) → R (.error (.finalizer (.cleanupFailed e))))
    (hok : ∀ a, B (.ok a) → R (.ok a) ∧
      (∀ f, R (.error (.finalizer (.removeFinalizer f)))) ∧
      ∀ r request, allowed (.asks r request)) :
    Keeps (fun _ _ => False) allowed (fun x r => R x ∧ r.watcher = w) (fun r => r.watcher = w)
      (reconcile p) := by
  obtain ⟨i, hs⟩ : ∃ i, stageOf p.metadata = .cleaning i := by
    rcases stageOf_cases p with ⟨_, _, hd⟩ | ⟨hs, _⟩ | ⟨_, hf⟩
    · exact absurd hp.deleting hd
    · exact hs
    · exact absurd hp.held hf
  refine keeps_reconcile (A := fun v => v = w) (R := fun x v => R x ∧ v = w)
    (fun _ _ h => h.elim) (fun _ _ _ h => h.elim) hquiet ?_ fun ns hns => ?_
  · intro v hns
    rw [hp.placed] at hns
    cases hns
  · obtain rfl := Option.some.inj (hp.placed.symm.trans hns)
    rw [hp.keyOf_eq]
    refine keeps_cleaning (A := fun v => v = w) (B := fun y v => B y ∧ v = w)
      (R := fun y v => R (y.mapError .finalizer) ∧ v = w) hs hp.named hc ?_ ?_ ?_
    · exact fun e v h => ⟨herror e h.1, h.2⟩
    · exact fun a v h => ⟨⟨(hok a h.1).1, h.2⟩, fun f => ⟨(hok a h.1).2.1 f, h.2⟩⟩
    · exact fun a r target h => (hok a h.1).2.2 r _

/-- A watcher that does not run keeps the watch of a Pattern, and so the Pattern keeps its
finalizer: nothing is asked of the server. -/
theorem keeps_refused (hp : Leaving key p) {w : Watcher} (hk : w.isWatching key = true)
    (hr : w.isRunning = false) :
    Keeps (fun _ _ => False) (fun d => ∃ r r', d = .acts r r' ∧ r'.watcher = r.watcher)
      (fun x r => x = .error (.finalizer (.cleanupFailed .notStarted)) ∧ r.watcher = w)
      (fun r => r.watcher = w) (reconcile p) := by
  refine keeps_leaving (B := fun y => y = .error .notStarted) hp
    (fun r r' h => ⟨r, r', rfl, h⟩) ?_ ?_ ?_
  · refine keeps_cleanup (A := fun v => v = w) (B := fun y v => y = .error .notStarted ∧ v = w)
      (fun _ _ _ h => h.elim) ?_ ?_ ?_
    · rintro r rfl hk'
      simp [hk] at hk'
    · rintro r r' rfl _ h
      simp [Watcher.remove, hr] at h
    · exact fun r h _ _ => ⟨⟨r, r, rfl, rfl⟩, rfl, h⟩
  · rintro e he
    cases he
    rfl
  · rintro a ha
    cases ha

/-- Without a watch the cleanup has nothing to do and does not fail. -/
theorem keeps_unwatched (hp : Leaving key p) {w : Watcher} (hk : w.isWatching key = false) :
    Keeps (fun _ _ => False) (fun d => ∀ r, d ≠ .crashes r)
      (fun x r => (x = .ok .awaitChange ∨ ∃ f, x = .error (.finalizer (.removeFinalizer f))) ∧
        r.watcher = w)
      (fun r => r.watcher = w) (reconcile p) := by
  refine keeps_leaving (B := fun y => y = .ok .awaitChange) hp (fun _ _ _ _ => nofun) ?_ ?_ ?_
  · refine keeps_cleanup (A := fun v => v = w) (B := fun y v => y = .ok .awaitChange ∧ v = w)
      (fun _ _ _ h => h.elim) ?_ ?_ ?_
    · exact fun r h _ => ⟨fun _ => nofun, rfl, h⟩
    · rintro r r' rfl hk'
      simp [hk] at hk'
    · rintro r rfl hk'
      simp [hk] at hk'
  · rintro e he
    cases he
  · rintro a ha
    cases ha
    exact ⟨Or.inl rfl, fun f => Or.inr ⟨f, rfl⟩, fun _ _ _ => nofun⟩

/-- A Pattern that is being deleted is tried again, or others do something meanwhile. -/
def Retried (key : PatternKey) (r r' : Reconciler) : Prop :=
  Elsewhere key r r' ∨ ∃ q, Leaving key q ∧ ∃ (τ : Type) (answer : Request → τ → Answer × τ) (t : τ)
    (x : Except ReconcileError Action) (t' : τ), (reconcile q).run answer r t = (some x, r', t')

theorem unwatched_while_retried (h : Relation.ReflTransGen (Retried key) r r')
    (hk : r.watcher.isWatching key = false) : r'.watcher.isWatching key = false := by
  induction h with
  | refl => exact hk
  | tail _ h ih =>
    rcases h with h | ⟨q, hq, τ, answer, t, x, t', hx⟩
    · exact elsewhere_stable key _ _ h ih
    · rw [((keeps_unwatched hq ih).result_of_run rfl hx).2]
      exact ih

end Reconcile
end GitDrift
