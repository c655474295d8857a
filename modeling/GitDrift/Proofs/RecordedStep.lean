import GitDrift.Proofs.ApiServer
import GitDrift.Proofs.Course
import GitDrift.Proofs.Failures
import GitDrift.Proofs.Gauge

/-!
What a reconciliation reports of a Pattern that it puts into effect. One step is tried, what came of
it is written into the Pattern's status, and the result is made of the two: an error of the step is
never lost over one of the report.
-/
namespace GitDrift

open Json Cluster Drift

/-- A name and a namespace that stand in a path as they are, and are short enough for the target of
a patch of the status. -/
structure PatternKey.Sendable (key : PatternKey) : Prop where
  named : key.name ≠ ""
  plain : (key.name.toList ++ key.namespace_.toList).all Target.isPlain = true
  short : (Patterns.targetText key "/status" .patch).utf8ByteSize ≤ Target.maxBytes

/-- A patch of the status can be made of such a key, and it goes to the path of the key. -/
theorem Cluster.Patterns.target?_of_sendable {key : PatternKey} (h : key.Sendable) :
    target? key "/status" .patch = some ⟨pathOf key ++ "/status", ""⟩ := by
  have hall : (pathOf key ++ "/status").toList.all Target.isPlain = true := by
    rw [String.toList_append, List.all_append, all_pathOf (by decide) h.plain]
    decide
  have hplain (c : Char) (hc : c ∈ (pathOf key ++ "/status").toList) :=
    Target.isPlain_iff.mp (List.all_eq_true.mp hall c hc)
  have hpath : (pathOf key ++ "/status").toList.all Target.isPathChar = true :=
    List.all_eq_true.mpr fun c hc => (hplain c hc).1
  rw [target?, if_neg h.named, targetText, Target.ofText?_queryMark fun c hc => (hplain c hc).2.2,
    if_pos ⟨h.short, hpath⟩]

/-- A watch that could not be brought in line is as it was before, unless the clock overflowed. -/
theorem Drift.Watcher.sync_failed {w w' : Watcher} {k : PatternKey} {c : GitConfig} {now : Instant}
    {step : MembershipStep} {result : ChangeResult} (h : w.sync k c now = (step, result, w'))
    (hr : result ≠ .ok) : w' = w.failed k result := by
  simp only [sync, Prod.mk.injEq] at h
  obtain ⟨-, h⟩ := h
  cases hstep : membershipStep c (w.isWatching k) with
  | added =>
    rw [hstep] at h
    exact add_failed h hr
  | updated =>
    rw [hstep] at h
    exact updateInterval_failed h hr
  | removed =>
    rw [hstep] at h
    exact remove_failed h hr
  | notWatched =>
    rw [hstep] at h
    obtain ⟨rfl, rfl⟩ := Prod.mk.inj h
    exact absurd rfl hr

namespace Reconcile

open Patterns

variable {τ : Type} {answer : Request → τ → Answer × τ} {r r' : Reconciler} {t : τ} {p : Pattern}
  {key : PatternKey} {ns : String} {spec : PatternSpec} {step : String} {w : Watcher}

/-- The request that records a step, if one can be made. -/
def recording (key : PatternKey) (step : String) (error : Option ApplyError) : Option Request :=
  (target? key "/status" .patch).map fun target =>
    ⟨.patch, target, some (.merge, stepPatch step (error.map (·.message)))⟩

/-- There is no request to send if the name is empty, if the text of its target is too long, or if a
character up to the first number sign cannot stand where it does. -/
theorem recording_eq_none_iff {error : Option ApplyError} : recording key step error = none ↔
    key.name = "" ∨ Target.maxBytes < (targetText key "/status" .patch).utf8ByteSize ∨
      Target.isValid ((pathOf key).toList.takeWhile (· ≠ '#')) = false := by
  rw [recording, Option.map_eq_none_iff, ← Option.not_isSome_iff_eq_none,
    isSome_target?_iff (by decide)]
  simp only [not_and_or, not_not, not_le, Bool.not_eq_true]

/-- The answer does not count as a failure: it holds a Pattern, or says that there is none. -/
def Accepted (a : Answer) : Prop :=
  (∃ p, a.read Pattern.decode = .ok p) ∨
    ∃ refusal, a.read Pattern.decode = .error (.refused refusal) ∧ refusal.code = 404

/-- What is made of what was read of an answer. -/
def recorded : Except Failure Pattern → Except Failure Unit
  | .ok _ => .ok ()
  | .error (.refused refusal) =>
    if refusal.code = 404 then .ok () else .error (.refused refusal)
  | .error f => .error f

/-- How recording a step ends. -/
def recordResult (answer : Request → τ → Answer × τ) (t : τ) : Option Request → Except Failure Unit
  | none => .error .badRequest
  | some request => recorded ((answer request t).1.read Pattern.decode)

theorem recorded_eq_ok_iff {a : Answer} :
    recorded (a.read Pattern.decode) = .ok () ↔ Accepted a := by
  unfold Accepted
  rcases a.read Pattern.decode with f | p
  · cases f with
    | refused refusal => by_cases h : refusal.code = 404 <;> simp [recorded, h]
    | _ => simp [recorded]
  · simp [recorded]

theorem recordResult_eq_ok_iff {request? : Option Request} :
    recordResult answer t request? = .ok () ↔
      ∃ request, request? = some request ∧ Accepted (answer request t).1 := by
  cases request? with
  | none => simp [recordResult]
  | some request => simp [recordResult, recorded_eq_ok_iff]

theorem recordStep_eq (key : PatternKey) (step : String) (error : Option String) :
    recordStep key step error =
      patchStatus key (stepPatch step error) >>= fun read => pure (recorded read) := by
  refine congrArg (patchStatus key (stepPatch step error) >>= ·) (funext fun read => ?_)
  rcases read with f | p
  · cases f with
    | refused refusal => by_cases h : refusal.code = 404 <;> simp [recorded, h]
    | _ => rfl
  · rfl

/-- Recording a step sends the one request, if it can be made, and nothing else. -/
theorem run_recordStep (answer : Request → τ → Answer × τ) (s : Reconciler) (t : τ)
    (log : List Request) (key : PatternKey) (step : String) (error : Option ApplyError) :
    ∃ t', (recordStep key step (error.map (·.message))).run (ApiServer.logged answer) s (t, log) =
      (some (recordResult answer t (recording key step error)), s, t',
        log ++ (recording key step error).toList) := by
  rw [recordStep_eq, Activity.run_bind, patchStatus, recording]
  cases ht : target? key "/status" .patch with
  | none =>
    rw [run_ask_of_none ht, Option.map_none, Option.toList_none, List.append_nil]
    exact ⟨t, rfl⟩
  | some target =>
    rw [run_ask_of_some ht]
    exact ⟨_, rfl⟩

theorem run_reportFailure (answer : Request → τ → Answer × τ) (s : Reconciler) (t : τ)
    (log : List Request) (key : PatternKey) (step : String) (e : ApplyError) :
    ∃ t', (reportFailure key step e).run (ApiServer.logged answer) s (t, log) =
      (some (.error e), s, t', log ++ (recording key step (some e)).toList) := by
  obtain ⟨t', h⟩ := run_recordStep answer s t log key step (some e)
  rw [Option.map_some] at h
  rw [reportFailure, Activity.run_bind, h]
  exact ⟨t', rfl⟩

/-- What is tried of a spec, and what comes of it: the step, the error that it meets if it meets
one, and the watcher that it leaves. -/
inductive Attempts (r : Reconciler) (key : PatternKey) (spec : PatternSpec) :
    String → Option ApplyError → Watcher → Prop
  | invalid {e : Git.RepoUrlError} (h : (desired r spec).validate = .error e) :
      Attempts r key spec validationStep (some (.invalidRepository e)) r.watcher
  | refused {name : String} {step : MembershipStep} {e : WatchError} {w : Watcher}
      (hv : (desired r spec).validate = .ok name)
      (h : r.watcher.sync key (desired r spec) r.now = (step, .refused e, w)) :
      Attempts r key spec step.text (some (.driftWatch e)) w
  | synced {name : String} {step : MembershipStep} {w : Watcher}
      (hv : (desired r spec).validate = .ok name)
      (h : r.watcher.sync key (desired r spec) r.now = (step, .ok, w)) :
      Attempts r key spec step.text none w

theorem exists_attempts
    (hclock : ∀ name, (desired r spec).validate = .ok name →
      (r.watcher.sync key (desired r spec) r.now).2.1 ≠ .overflow) :
    ∃ step error w, Attempts r key spec step error w := by
  cases hv : (desired r spec).validate with
  | error e => exact ⟨_, _, _, .invalid hv⟩
  | ok name =>
    have hne := hclock name hv
    rcases hs : r.watcher.sync key (desired r spec) r.now with ⟨step, result, w⟩
    rw [hs] at hne
    cases result with
    | overflow => exact absurd rfl hne
    | refused e => exact ⟨_, _, _, .refused hv hs⟩
    | ok => exact ⟨_, _, _, .synced hv hs⟩

/-- There is one thing to try, and one thing that comes of it. -/
theorem Attempts.unique {step' : String} {error error' : Option ApplyError} {w' : Watcher}
    (h : Attempts r key spec step error w) (h' : Attempts r key spec step' error' w') :
    step = step' ∧ error = error' ∧ w = w' := by
  cases h with
  | invalid hv =>
    cases h' with
    | invalid hv' =>
      cases hv.symm.trans hv'
      exact ⟨rfl, rfl, rfl⟩
    | refused hv' | synced hv' => cases hv.symm.trans hv'
  | refused hv hs =>
    cases h' with
    | invalid hv' => cases hv.symm.trans hv'
    | refused _ hs' =>
      cases hs.symm.trans hs'
      exact ⟨rfl, rfl, rfl⟩
    | synced _ hs' => cases hs.symm.trans hs'
  | synced hv hs =>
    cases h' with
    | invalid hv' => cases hv.symm.trans hv'
    | refused _ hs' => cases hs.symm.trans hs'
    | synced _ hs' =>
      cases hs.symm.trans hs'
      exact ⟨rfl, rfl, rfl⟩

theorem Attempts.watcher_of_failed {e : ApplyError} (h : Attempts r key spec step (some e) w) :
    w = r.watcher := by
  cases h with
  | invalid h => rfl
  | refused hv h => exact Watcher.sync_failed h (by simp)

/-- How putting a spec into effect ends: the error that the step met, if it met one, and else what
recording the step came to. Only if both went well are the failures forgotten. -/
def conclude (key : PatternKey) (s : Reconciler) :
    Option ApplyError → Except Failure Unit → Except ApplyError Action × Reconciler
  | some e, _ => (.error e, s)
  | none, .error f => (.error (.cluster f), s)
  | none, .ok () =>
    (.ok (.requeue s.config.reconcileInterval),
      (s.resetFailures key.text).2.measure (·.requeue "timer-based"))

theorem run_apply {error : Option ApplyError} (h : Attempts r key spec step error w)
    (answer : Request → τ → Answer × τ) (t : τ) (log : List Request) :
    ∃ t', (apply key spec).run (ApiServer.logged answer) r (t, log) =
      (some (conclude key { r with watcher := w } error
          (recordResult answer t (recording key step error))).1,
        (conclude key { r with watcher := w } error
          (recordResult answer t (recording key step error))).2,
        t', log ++ (recording key step error).toList) := by
  unfold apply
  rw [Activity.run_bind, Activity.run_look]
  cases h with
  | invalid h =>
    simp only [desired] at h
    simp only [h]
    exact run_reportFailure answer r t log key _ _
  | @refused name step e w hv h =>
    simp only [desired] at hv h
    simp only [hv]
    rw [Activity.run_bind, Activity.run_changeGet, Reconciler.syncWatch, h]
    exact run_reportFailure answer _ t log key _ _
  | @synced name step w hv h =>
    simp only [desired] at hv h
    simp only [hv]
    rw [Activity.run_bind, Activity.run_changeGet, Reconciler.syncWatch, h]
    simp only
    obtain ⟨t', ht'⟩ := run_recordStep answer { r with watcher := w } t log key step.text none
    rw [Option.map_none] at ht'
    rw [Activity.run_bind, ht']
    refine ⟨t', ?_⟩
    cases recordResult answer t (recording key step.text none) with
    | error f => rfl
    | ok u => rfl

/-- What is known of the failures under a text. -/
def Reconciler.failuresOf (r : Reconciler) (text : String) : Option Retry.Failures :=
  r.failures.bind fun table => table.get? text

theorem Reconciler.failuresOf_resetFailures (r : Reconciler) (text other : String) :
    (r.resetFailures text).2.failuresOf other =
      if other = text then (r.failuresOf other).map (·.reset) else r.failuresOf other := by
  unfold resetFailures
  split
  · rename_i h
    simp [failuresOf, h]
  · rename_i table h
    split
    · rename_i hnone
      split_ifs with hother
      · simp [failuresOf, h, hother, hnone]
      · rfl
    · rename_i f hf
      simp only [failuresOf, h, Option.bind_some, Table.get?_insert]
      split_ifs with hother
      · simp [hother, hf]
      · rfl

/-- What a reconciliation reports of the step that it tried, and what it leaves of failures. -/
structure Reported (answer : Request → τ → Answer × τ) (t : τ) (key : PatternKey) (step : String)
    (error : Option ApplyError) (r r' : Reconciler) (x : Except ReconcileError Action) : Prop where
  /-- An error of the step is the error of the reconciliation, whatever the report came to, and has
  left the watcher alone. -/
  failed : ∀ e, error = some e →
    x = .error (.finalizer (.applyFailed e)) ∧ r'.watcher = r.watcher
  isOk_iff : x.isOk = true ↔ error = none ∧
    ∃ request, recording key step error = some request ∧ Accepted (answer request t).1
  requeued : x.isOk = true → x = .ok (.requeue r.config.reconcileInterval)
  /-- Without an error of the step, what is left is one of the report. -/
  unrecorded : error = none → x.isOk = false →
    ∃ f, recordResult answer t (recording key step error) = .error f ∧
      x = .error (.finalizer (.applyFailed (.cluster f)))
  reset : x.isOk = true → ∀ text, r'.failuresOf text =
    if text = key.text then (r.failuresOf text).map (·.reset) else r.failuresOf text
  kept : x.isOk = false → r'.failures = r.failures

theorem reported_conclude {error : Option ApplyError} (h : Attempts r key spec step error w)
    {y : Except ApplyError Action} (hy : conclude key { r with watcher := w } error
      (recordResult answer t (recording key step error)) = (y, r')) :
    r'.watcher = w ∧
      Reported answer t key step error r r' ((y.mapError .applyFailed).mapError .finalizer) := by
  cases error with
  | some e =>
    obtain ⟨rfl, rfl⟩ := Prod.mk.inj hy
    refine ⟨rfl, fun _ he => ?_, iff_of_false Bool.false_ne_true nofun, nofun, nofun, nofun,
      fun _ => rfl⟩
    cases he
    exact ⟨rfl, h.watcher_of_failed⟩
  | none =>
    cases hrecord : recordResult answer t (recording key step none) with
    | error f =>
      have hnot : ¬ ∃ request, recording key step none = some request ∧
          Accepted (answer request t).1 := by
        rw [← recordResult_eq_ok_iff, hrecord]
        simp
      rw [hrecord] at hy
      obtain ⟨rfl, rfl⟩ := Prod.mk.inj hy
      exact ⟨rfl, nofun, iff_of_false Bool.false_ne_true fun h => hnot h.2, nofun,
        fun _ _ => ⟨f, hrecord, rfl⟩, nofun, fun _ => rfl⟩
    | ok u =>
      have haccepted := recordResult_eq_ok_iff.mp hrecord
      rw [hrecord] at hy
      obtain ⟨rfl, rfl⟩ := Prod.mk.inj hy
      exact ⟨resetFailures_watcher _, nofun,
        iff_of_true rfl ⟨rfl, haccepted⟩, fun _ => rfl, nofun,
        fun _ => Reconciler.failuresOf_resetFailures { r with watcher := w } key.text, nofun⟩

theorem Attempts.measure {error : Option ApplyError} (h : Attempts r key spec step error w)
    (f : Metrics → Metrics) : Attempts (r.measure f) key spec step error w := by
  cases h with
  | invalid h => exact .invalid h
  | refused hv h => exact .refused hv h
  | synced hv h => exact .synced hv h

/-- A Pattern that is held and not being deleted has one step tried for it, and one request is sent,
which records the step and its error in the Pattern's status. Where the name and the namespace make
no target of a request, none is sent, and the result is made as if it had failed. -/
theorem reconcile_reports_once (hheld : Held p) (hdeleting : ¬ Deleting p)
    (hns : p.metadata.namespace_ = some ns)
    (hclock : ∀ name, (desired r p.spec).validate = .ok name →
      (r.watcher.sync (keyOf p ns) (desired r p.spec) r.now).2.1 ≠ .overflow)
    (answer : Request → τ → Answer × τ) (t : τ) :
    ∃ step error x r' t', Attempts r (keyOf p ns) p.spec step error r'.watcher ∧
      (reconcile p).run (ApiServer.logged answer) r (t, []) =
        (some x, r', t', (recording (keyOf p ns) step error).toList) ∧
      ((keyOf p ns).Sendable → recording (keyOf p ns) step error =
        some ⟨.patch, ⟨pathOf (keyOf p ns) ++ "/status", ""⟩,
          some (.merge, stepPatch step (error.map (·.message)))⟩) ∧
      (recording (keyOf p ns) step error = none ↔ (keyOf p ns).name = "" ∨
        Target.maxBytes < (targetText (keyOf p ns) "/status" .patch).utf8ByteSize ∨
        Target.isValid ((pathOf (keyOf p ns)).toList.takeWhile (· ≠ '#')) = false) ∧
      Reported answer t (keyOf p ns) step error r r' x := by
  obtain ⟨step, error, w, hattempts⟩ := exists_attempts hclock
  have hmeasured := hattempts.measure (·.reconciliation)
  obtain ⟨t', happly⟩ := run_apply hmeasured answer t []
  rcases hy : conclude (keyOf p ns) { r.measure (·.reconciliation) with watcher := w } error
    (recordResult answer t (recording (keyOf p ns) step error)) with ⟨y, r₁⟩
  obtain ⟨rfl, hreported⟩ := reported_conclude hmeasured hy
  rw [hy] at happly
  have hrun : (reconcile p).run (ApiServer.logged answer) r (t, []) = _ :=
    reconcile_held (stageOf_held hheld (not_not.mp hdeleting)) hns
  rw [happly] at hrun
  refine ⟨step, error, _, r₁.measure (·.reconciliationTook (secondsBetween r.now r₁.now)), t',
    hattempts, hrun, fun h => ?_, recording_eq_none_iff, ?_⟩
  · rw [recording, target?_of_sendable h]
    rfl
  · exact ⟨hreported.failed, hreported.isOk_iff, hreported.requeued, hreported.unrecorded,
      hreported.reset, hreported.kept⟩

/-- A server that finds nothing. -/
def emptyServer (_ : Request) (t : Unit) : Answer × Unit := (.response 404 "", t)

theorem attempts_stayingPattern : ∃ w, Attempts startedReconciler ⟨"mcg", "patterns"⟩
    stayingPattern.spec MembershipStep.added.text none w := by
  have hvalid : (desired startedReconciler stayingPattern.spec).validate = .ok "mcg" := by decide
  have hstep : (startedReconciler.watcher.sync ⟨"mcg", "patterns"⟩
      (desired startedReconciler stayingPattern.spec) startedReconciler.now).1 = .added := by decide
  have hresult : (startedReconciler.watcher.sync ⟨"mcg", "patterns"⟩
      (desired startedReconciler stayingPattern.spec) startedReconciler.now).2.1 = .ok := by decide
  rcases hs : startedReconciler.watcher.sync ⟨"mcg", "patterns"⟩
    (desired startedReconciler stayingPattern.spec) startedReconciler.now with ⟨step, result, w⟩
  rw [hs] at hstep hresult
  cases hstep
  cases hresult
  exact ⟨w, .synced hvalid hs⟩

theorem stayingPattern_reports_once : Held stayingPattern ∧ ¬ Deleting stayingPattern ∧
    ∃ r', (reconcile stayingPattern).run (ApiServer.logged emptyServer)
        startedReconciler ((), []) =
      (some (.ok (.requeue startedReconciler.config.reconcileInterval)), r', (),
        [⟨.patch, ⟨pathOf ⟨"mcg", "patterns"⟩ ++ "/status", ""⟩,
          some (.merge, stepPatch MembershipStep.added.text none)⟩]) := by
  have hheld : Held stayingPattern := by decide
  have hdeleting : ¬ Deleting stayingPattern := by decide
  obtain ⟨step, error, x, r', t', hattempts, hrun, hsent, -, hreported⟩ :=
    reconcile_reports_once hheld hdeleting rfl (r := startedReconciler)
      (fun _ _ => by decide) emptyServer ()
  obtain ⟨w, hadded⟩ := attempts_stayingPattern
  obtain ⟨rfl, rfl, -⟩ := hattempts.unique hadded
  have hsent := hsent ⟨by decide, by decide, by decide⟩
  have hok : x.isOk = true :=
    hreported.isOk_iff.mpr ⟨rfl, _, hsent, Or.inr ⟨Refusal.ofBody 404 "", rfl, by decide⟩⟩
  rw [hsent, hreported.requeued hok] at hrun
  exact ⟨hheld, hdeleting, r', hrun⟩

/-- A Pattern whose name has a blank in it. -/
def spacedPattern : Pattern :=
  { stayingPattern with metadata := { stayingPattern.metadata with name := some "m cg" } }

/-- Of a name that cannot stand in a request nothing is reported. -/
theorem spacedPattern_reports_nothing : Held spacedPattern ∧ ¬ Deleting spacedPattern ∧
    (desired startedReconciler spacedPattern.spec).validate = .ok "mcg" ∧
    ∃ r', (reconcile spacedPattern).run (ApiServer.logged emptyServer) startedReconciler ((), []) =
      (some (.error (.finalizer (.applyFailed (.cluster .badRequest)))), r', (), []) :=
  ⟨by decide, by decide, by decide, _, rfl⟩

end Reconcile
end GitDrift
