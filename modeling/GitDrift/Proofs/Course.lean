import GitDrift.Proofs.Release

/-!
What becomes of a Pattern while it is reconciled again and again. Its versions are seen in order and
one at a time, each reconciliation may stop anywhere, and others act in between.
-/
namespace GitDrift.Reconcile

open Cluster Drift

variable {p q : Pattern} {key : PatternKey} {r r' : Reconciler}

/-- The removal of a finalizer is asked for. -/
def Releases (d : Deed Reconciler) : Prop := ∃ r request, d = .asks r request ∧ Removes request

/-- A Pattern in the cluster and the reconciliation that it is under. -/
structure Course where
  /-- Its versions, from the one that was seen last to the current one. -/
  versions : List Pattern
  /-- What is left of a reconciliation of the version that was seen last. -/
  work : Option (Activity Reconciler (Except ReconcileError Action))
  reconciler : Reconciler
  /-- The server was asked to remove the finalizer, and may do so from then on. -/
  releasing : Prop

namespace Course

variable {c c' : Course}

inductive Step (key : PatternKey) : Course → Course → Prop
  /-- The Pattern is written. A deletion is not taken back, and nobody removes the finalizer unless
  a reconciliation asked for it. -/
  | write {c : Course} {p q : Pattern} (hp : c.versions.getLast? = some p)
      (hkey : watchKey q = watchKey p) (hd : Deleting p → Deleting q)
      (hf : Held p → Held q ∨ c.releasing) :
      Step key c { c with versions := c.versions ++ [q] }
  /-- A version is seen, which may be the one that was seen before, and its reconciliation
  begins. -/
  | see {c : Course} {p : Pattern} {older newer : List Pattern}
      (hp : c.versions = older ++ p :: newer) (hw : c.work = none) :
      Step key c { c with versions := p :: newer, work := some (reconcile p) }
  | take {c : Course} {m m' : Activity Reconciler (Except ReconcileError Action)}
      {d : Deed Reconciler} {r : Reconciler} (hw : c.work = some m)
      (h : m.Takes c.reconciler d m' r) :
      Step key c { c with work := some m', reconciler := r, releasing := c.releasing ∨ Releases d }
  /-- The reconciliation has come to its end, or breaks off. -/
  | stop {c : Course} : Step key c { c with work := none }
  | others {c : Course} {r : Reconciler} (h : Elsewhere key c.reconciler r) :
      Step key c { c with reconciler := r }

/-- What an earlier version has, a later one has as well. -/
def Lasts (P : Pattern → Prop) (versions : List Pattern) : Prop :=
  versions.Pairwise fun p q => P p → P q

/-- What holds of a Pattern on its course. -/
structure Sound (key : PatternKey) (c : Course) : Prop where
  nonempty : c.versions ≠ []
  same : ∀ p ∈ c.versions, watchKey p = key
  deletion : Lasts Deleting c.versions
  finalizer : ¬ c.releasing → Lasts Held c.versions
  /-- A version that has no finalizer yet is not seen once the Pattern is watched. -/
  watching : c.reconciler.watcher.isWatching key = true →
    ¬ c.releasing ∧ ∀ p ∈ c.versions, Held p
  releasing : c.releasing → ∀ p ∈ c.versions, Deleting p
  work : ∀ m, c.work = some m → ∃ p known, c.versions.head? = some p ∧
    Stable (Elsewhere key) known ∧ known c.reconciler ∧
    Keeps (Elsewhere key) (Permitted p) (fun x r => Unwatched key x r.watcher) known m

theorem sound_begin (hk : r.watcher.isWatching (watchKey p) = false) :
    Sound (watchKey p) ⟨[p], none, r, False⟩ where
  nonempty := by simp
  same := by simp
  deletion := List.pairwise_singleton _ _
  finalizer _ := List.pairwise_singleton _ _
  watching := by simp [hk]
  releasing := by simp
  work := by simp

section Lasts

variable {P : Pattern → Prop} {versions : List Pattern}

theorem Lasts.write (h : Lasts P versions) (hp : versions.getLast? = some p) (hq : P p → P q) :
    Lasts P (versions ++ [q]) := by
  obtain ⟨older, rfl⟩ := List.getLast?_eq_some_iff.mp hp
  refine List.pairwise_append.mpr ⟨h, List.pairwise_singleton _ _, fun a ha b hb hPa => ?_⟩
  obtain rfl := List.mem_singleton.mp hb
  rcases List.mem_append.mp ha with ha | ha
  · exact hq ((List.pairwise_append.mp h).2.2 a ha p (by simp) hPa)
  · obtain rfl := List.mem_singleton.mp ha
    exact hq hPa

theorem Lasts.forall (h : Lasts P versions) (hp : versions.head? = some p) (hP : P p) :
    ∀ q ∈ versions, P q := by
  obtain ⟨newer, rfl⟩ := List.head?_eq_some_iff.mp hp
  intro q hq
  rcases List.mem_cons.mp hq with rfl | hq
  · exact hP
  · exact (List.pairwise_cons.mp h).1 q hq hP

end Lasts

theorem sound_write (h : Sound key c) (hp : c.versions.getLast? = some p)
    (hkey : watchKey q = watchKey p) (hd : Deleting p → Deleting q)
    (hf : Held p → Held q ∨ c.releasing) : Sound key { c with versions := c.versions ++ [q] } := by
  have hmem : p ∈ c.versions := List.mem_of_getLast? hp
  refine ⟨by simp, ?_, h.deletion.write hp hd, fun hr => ?_, fun hk => ?_, fun hr => ?_,
    fun m hm => ?_⟩
  · simpa [or_imp, forall_and] using ⟨h.same, hkey.trans (h.same p hmem)⟩
  · exact (h.finalizer hr).write hp fun hheld => (hf hheld).resolve_right hr
  · obtain ⟨hr, hheld⟩ := h.watching hk
    have hq : Held q := (hf (hheld p hmem)).resolve_right hr
    exact ⟨hr, by simpa [or_imp, forall_and] using ⟨hheld, hq⟩⟩
  · have hdeleting := h.releasing hr
    simpa [or_imp, forall_and] using ⟨hdeleting, hd (hdeleting p hmem)⟩
  · obtain ⟨a, known, ha, hrest⟩ := h.work m hm
    refine ⟨a, known, ?_, hrest⟩
    rw [List.head?_append, ha]
    rfl

theorem sound_see {older newer : List Pattern} (h : Sound key c)
    (hp : c.versions = older ++ p :: newer) :
    Sound key { c with versions := p :: newer, work := some (reconcile p) } := by
  have hsub : (p :: newer).Sublist c.versions := hp ▸ List.sublist_append_right older _
  have hkey : watchKey p = key := h.same p (by simp [hp])
  refine ⟨by simp, fun a ha => h.same a (hsub.subset ha), h.deletion.sublist hsub,
    fun hr => (h.finalizer hr).sublist hsub, fun hk => ?_,
    fun hr a ha => h.releasing hr a (hsub.subset ha), fun m hm => ?_⟩
  · obtain ⟨hr, hheld⟩ := h.watching hk
    exact ⟨hr, fun a ha => hheld a (hsub.subset ha)⟩
  · cases hm
    have hkeeps := keeps_permitted p
    rw [hkey] at hkeeps
    exact ⟨p, fun _ => True, rfl, fun _ _ _ h => h, trivial, hkeeps⟩

variable {d : Deed Reconciler} {m m' : Activity Reconciler (Except ReconcileError Action)}

theorem deleting_of_permitted (hd : Permitted p d) (h : Releases d) : Deleting p := by
  obtain ⟨r, request, rfl, hr⟩ := h
  exact (hd hr).2.1

/-- A watch after a permitted deed was there before, or was begun for a Pattern that is held and not
being deleted. -/
theorem watching_of_permitted (hd : Permitted p d) (ht : m.Takes r d m' r')
    (hk : r'.watcher.isWatching (watchKey p) = true) :
    ¬ Releases d ∧ (r.watcher.isWatching (watchKey p) = true ∨ Held p ∧ ¬ Deleting p) := by
  cases ht with
  | act update next =>
    refine ⟨fun ⟨_, _, h, _⟩ => (by cases h), ?_⟩
    rcases hd with h | ⟨hp, hd, _⟩ | ⟨_, _, h⟩
    · exact Or.inl (h ▸ hk)
    · exact Or.inr ⟨hp, hd⟩
    · simp [Watcher.unwatched_of_remove h] at hk
  | ask request next =>
    refine ⟨?_, Or.inl hk⟩
    rintro ⟨_, _, h, hr⟩
    cases h
    simp [(hd hr).2.2] at hk

theorem sound_take (h : Sound key c) (hm : c.work = some m) (ht : m.Takes c.reconciler d m' r) :
    Sound key
      { c with work := some m', reconciler := r, releasing := c.releasing ∨ Releases d } := by
  obtain ⟨p, known, hp, hstable, hknown, hkeeps⟩ := h.work m hm
  obtain ⟨hd, known', hstable', hknown', hkeeps'⟩ := hkeeps.takes hstable hknown ht
  have hmem : p ∈ c.versions := List.mem_of_head? hp
  refine ⟨h.nonempty, h.same, h.deletion, fun hr => h.finalizer fun h => hr (Or.inl h),
    fun hk => ?_, fun hr => ?_, fun n hn => ?_⟩
  · rw [← h.same p hmem] at hk
    obtain ⟨hrelease, hbefore | ⟨hheld, hdeleting⟩⟩ := watching_of_permitted hd ht hk
    · rw [h.same p hmem] at hbefore
      obtain ⟨hr, hall⟩ := h.watching hbefore
      exact ⟨not_or.mpr ⟨hr, hrelease⟩, hall⟩
    · have hr : ¬ c.releasing := fun hr => hdeleting (h.releasing hr p hmem)
      exact ⟨not_or.mpr ⟨hr, hrelease⟩, (h.finalizer hr).forall hp hheld⟩
  · rcases hr with hr | hr
    · exact h.releasing hr
    · exact h.deletion.forall hp (deleting_of_permitted hd hr)
  · cases hn
    exact ⟨p, known', hp, hstable', hknown', hkeeps'⟩

theorem sound_step (h : Sound key c) (hs : Step key c c') : Sound key c' := by
  cases hs with
  | write hp hkey hd hf => exact sound_write h hp hkey hd hf
  | see hp _ => exact sound_see h hp
  | take hm ht => exact sound_take h hm ht
  | stop => exact { h with work := fun _ => nofun }
  | others ho =>
    refine { h with watching := fun hk => h.watching (ho hk), work := fun m hm => ?_ }
    obtain ⟨p, known, hp, hstable, hknown, hkeeps⟩ := h.work m hm
    exact ⟨p, known, hp, hstable, hstable _ _ ho hknown, hkeeps⟩

theorem sound_of_steps (hk : r.watcher.isWatching (watchKey p) = false)
    (hc : Relation.ReflTransGen (Step (watchKey p)) ⟨[p], none, r, False⟩ c) :
    Sound (watchKey p) c := by
  induction hc with
  | refl => exact sound_begin hk
  | tail _ hs ih => exact sound_step ih hs

/-- A reconciliation without a break is part of a course. -/
theorem steps_of_run {τ : Type} {answer : Request → τ → Answer × τ} {t t' : τ}
    {x : Except ReconcileError Action} (hx : m.run answer r t = (some x, r', t'))
    (versions : List Pattern) (releasing : Prop) : ∃ releasing',
      Relation.ReflTransGen (Step key) ⟨versions, some m, r, releasing⟩
        ⟨versions, some (.done x), r', releasing'⟩ := by
  induction m generalizing r t releasing with
  | done a =>
    cases hx
    exact ⟨releasing, .refl⟩
  | crash => cases hx
  | act update next ih =>
    obtain ⟨releasing', hsteps⟩ := ih r hx (releasing ∨ Releases (.acts r (update r)))
    exact ⟨releasing', .head (.take rfl (.act update next r)) hsteps⟩
  | ask request next ih =>
    obtain ⟨releasing', hsteps⟩ := ih _ hx (releasing ∨ Releases (.asks r request))
    exact ⟨releasing', .head (.take rfl (.ask request next r _)) hsteps⟩

end Course

/-- No watch outlives the finalizer of its Pattern. A reconciliation changes the watch only of a
Pattern that carries the finalizer, and asks for its removal only where there is no watch. If the
watch cannot be dropped, nothing is asked for. If the removal fails, it can be tried again for ever,
and there is nothing left to clean up. So a Pattern that is watched still has its finalizer, however
its versions are written and whenever they are seen. -/
theorem no_watch_outlives_finalizer {τ : Type} (p : Pattern) (r : Reconciler)
    (answer : Request → τ → Answer × τ) (t : τ) :
    (∀ d ∈ (reconcile p).deeds answer r t, Permitted p d) ∧
    (∀ key, Leaving key p → r.watcher.isWatching key = true → r.watcher.isRunning = false →
      (∀ d ∈ (reconcile p).deeds answer r t, ∃ s s', d = .acts s s' ∧ s'.watcher = s.watcher) ∧
      ∃ r' t', (reconcile p).run answer r t =
        (some (.error (.finalizer (.cleanupFailed .notStarted))), r', t') ∧
        r'.watcher = r.watcher) ∧
    (∀ f r₁ t₁, (reconcile p).run answer r t =
        (some (.error (.finalizer (.removeFinalizer f))), r₁, t₁) →
      ∀ r₂, Relation.ReflTransGen (Retried (watchKey p)) r₁ r₂ →
      ∀ q, Leaving (watchKey p) q → ∀ (answer₂ : Request → τ → Answer × τ) t₂, ∃ x r' t',
        (reconcile q).run answer₂ r₂ t₂ = (some x, r', t') ∧ r'.watcher = r₂.watcher ∧
        (x = .ok .awaitChange ∨ ∃ f, x = .error (.finalizer (.removeFinalizer f)))) ∧
    (r.watcher.isWatching (watchKey p) = false →
      ∀ c, Relation.ReflTransGen (Course.Step (watchKey p)) ⟨[p], none, r, False⟩ c →
        (c.reconciler.watcher.isWatching (watchKey p) = true →
          ¬ c.releasing ∧ ∃ q, c.versions.getLast? = some q ∧ Held q) ∧
        ∀ m d m' r', c.work = some m → m.Takes c.reconciler d m' r' →
          ∃ q, c.versions.head? = some q ∧ watchKey q = watchKey p ∧ Permitted q d) := by
  refine ⟨(keeps_permitted p).deeds trivial answer t, fun key hp hk hr => ?_,
    fun f r₁ t₁ hx r₂ hr q hq answer₂ t₂ => ?_, fun hk c hc => ?_⟩
  · have hkeeps := keeps_refused hp hk hr
    obtain ⟨x, r', t', hx, rfl, hw⟩ := hkeeps.run rfl (by simp) answer t
    exact ⟨hkeeps.deeds rfl answer t, r', t', hx, hw⟩
  · have hk := unwatched_while_retried hr ((keeps_permitted p).result_of_run trivial hx f rfl)
    obtain ⟨x, r', t', hx, hres, hw⟩ :=
      (keeps_unwatched hq hk).run rfl (fun s h => h s rfl) answer₂ t₂
    exact ⟨x, r', t', hx, hw, hres⟩
  · have hsound := Course.sound_of_steps hk hc
    refine ⟨fun hwatched => ?_, fun m d m' r' hm ht => ?_⟩
    · obtain ⟨hr, hheld⟩ := hsound.watching hwatched
      have hlast := List.getLast?_eq_some_getLast hsound.nonempty
      exact ⟨hr, _, hlast, hheld _ (List.getLast_mem hsound.nonempty)⟩
    · obtain ⟨q, known, hq, hstable, hknown, hkeeps⟩ := hsound.work m hm
      exact ⟨q, hq, hsound.same q (List.mem_of_head? hq), (hkeeps.takes hstable hknown ht).1⟩

/-- A Pattern that is held and asks to be watched. -/
def stayingPattern : Pattern := heldPattern "git@gitea.example.com:org/mcg.git"

/-- The same when it is being deleted. -/
def leavingPattern : Pattern :=
  { stayingPattern with
    metadata := { stayingPattern.metadata with deletionTimestamp := some ⟨0, 0⟩ } }

theorem leaving_leavingPattern : Leaving (watchKey leavingPattern) leavingPattern where
  held := by simp [Held, leavingPattern, stayingPattern, heldPattern]
  deleting := by simp [Deleting, leavingPattern]
  named := rfl
  placed := rfl

/-- A reconciler whose watcher was started. -/
def startedReconciler : Reconciler := { watcher := (Watcher.start {}).2, now := 0 }

/-- A reconciler whose watcher was told to stop after a Pattern was watched. -/
def stoppedReconciler : Reconciler :=
  { watchingReconciler with watcher := watchingReconciler.watcher.stop 0 }

/-- A Pattern is watched, the watcher is told to stop, and the deletion of the Pattern is
written. -/
theorem steps_to_leaving : ∃ releasing,
    Relation.ReflTransGen (Course.Step (watchKey leavingPattern))
      ⟨[stayingPattern], none, startedReconciler, False⟩
      ⟨[stayingPattern, leavingPattern], none, stoppedReconciler, releasing⟩ := by
  obtain ⟨x, hx⟩ : ∃ x, (reconcile stayingPattern).run unreachable startedReconciler () =
      (some x, watchingReconciler, ()) := ⟨_, rfl⟩
  obtain ⟨releasing, hrun⟩ := Course.steps_of_run hx [stayingPattern] False
  have hseen : [stayingPattern] = [] ++ stayingPattern :: [] := rfl
  have hstop : Drift.Step 0 watchingReconciler.watcher (.stop 0) stoppedReconciler.watcher :=
    .stop 0
  have hwrite : Course.Step (watchKey leavingPattern)
      ⟨[stayingPattern], none, stoppedReconciler, releasing⟩
      ⟨[stayingPattern, leavingPattern], none, stoppedReconciler, releasing⟩ :=
    .write rfl rfl (fun _ => leaving_leavingPattern.deleting)
      fun _ => Or.inl leaving_leavingPattern.held
  exact ⟨releasing, .head (.see hseen rfl) (hrun.trans
    (.head .stop (.head (.others (elsewhere_of_step hstop nofun)) (.single hwrite))))⟩

theorem leavingPattern_not_outlived :
    (∃ s request, .asks s request ∈
        (reconcile leavingPattern).deeds unreachable watchingReconciler () ∧
      Removes request ∧ s.watcher.isWatching (watchKey leavingPattern) = false) ∧
    (∃ r', (reconcile leavingPattern).run unreachable
        { watchingReconciler with watcher := watchingReconciler.watcher.shutdown } () =
      (some (.error (.finalizer (.cleanupFailed .notStarted))), r', ()) ∧
      r'.watcher = watchingReconciler.watcher.shutdown) ∧
    (∃ f r₁ x r', (reconcile leavingPattern).run unreachable startedReconciler () =
        (some (.error (.finalizer (.removeFinalizer f))), r₁, ()) ∧
      (reconcile leavingPattern).run unreachable r₁ () = (some x, r', ()) ∧
      r'.watcher = r₁.watcher) ∧
    stoppedReconciler.watcher.isWatching (watchKey leavingPattern) = true ∧
    ∃ releasing, Relation.ReflTransGen (Course.Step (watchKey leavingPattern))
        ⟨[stayingPattern], none, startedReconciler, False⟩
        ⟨[stayingPattern, leavingPattern], none, stoppedReconciler, releasing⟩ ∧
      ¬ releasing := by
  have hwatched : stoppedReconciler.watcher.isWatching (watchKey leavingPattern) = true := by
    decide
  refine ⟨?_, ?_, ?_, hwatched, ?_⟩
  · obtain ⟨s, request, hmem, hremoves⟩ : ∃ s request, .asks s request ∈
        (reconcile leavingPattern).deeds unreachable watchingReconciler () ∧ Removes request :=
      ⟨_, _, List.mem_of_getElem? (i := 3) rfl, _, _, rfl, List.mem_of_getElem? (i := 1) rfl⟩
    have hdeeds :=
      (no_watch_outlives_finalizer leavingPattern watchingReconciler unreachable ()).1
    exact ⟨s, request, hmem, hremoves, (hdeeds _ hmem hremoves).2.2⟩
  · obtain ⟨_, r', t', hx, hw⟩ := (no_watch_outlives_finalizer leavingPattern
      { watchingReconciler with watcher := watchingReconciler.watcher.shutdown } unreachable
      ()).2.1 _ leaving_leavingPattern (by decide) (by decide)
    exact ⟨r', hx, hw⟩
  · obtain ⟨f, r₁, hx⟩ : ∃ f r₁, (reconcile leavingPattern).run unreachable startedReconciler () =
        (some (.error (.finalizer (.removeFinalizer f))), r₁, ()) := ⟨_, _, rfl⟩
    obtain ⟨x, r', t', hx', hw, _⟩ := (no_watch_outlives_finalizer leavingPattern startedReconciler
      unreachable ()).2.2.1 f r₁ () hx r₁ .refl leavingPattern leaving_leavingPattern unreachable ()
    exact ⟨f, r₁, x, r', hx, hx', hw⟩
  · obtain ⟨releasing, hsteps⟩ := steps_to_leaving
    have hcourse := (no_watch_outlives_finalizer stayingPattern startedReconciler unreachable
      ()).2.2.2 (by decide) _ hsteps
    exact ⟨releasing, hsteps, (hcourse.1 hwatched).1⟩

end GitDrift.Reconcile
