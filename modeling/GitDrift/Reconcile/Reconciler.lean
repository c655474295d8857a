import GitDrift.Config
import GitDrift.Drift.Membership
import GitDrift.Metrics
import GitDrift.Pattern.Defaults
import GitDrift.Reconcile.Finalizer
import GitDrift.Reconcile.Step
import GitDrift.Retry.Failures

/-!
Reconciling Patterns: the drift watcher is brought in line with what a Pattern asks for, and the
step that was taken is recorded in the Pattern's status. Reconciliations of different Patterns go
on side by side and share a state.
-/
namespace GitDrift.Reconcile

open Cluster Drift

/-- What all reconciliations share. -/
structure Reconciler where
  watcher : Watcher := {}
  config : ControllerConfig := {}
  /-- How often Patterns have failed, by namespace and name; none once that cannot be read. -/
  failures : Option (Table String Retry.Failures) := some {}
  metrics : Metrics := {}
  now : Instant
deriving Inhabited

namespace Reconciler

variable (r : Reconciler)

def measure (f : Metrics → Metrics) : Reconciler := { r with metrics := f r.metrics }

/-- Forgets the failures of a Pattern, and says whether it had any. -/
def resetFailures (key : String) : Bool × Reconciler :=
  match r.failures with
  | none => (false, r)
  | some t =>
    match t.get? key with
    | none => (false, r)
    | some f => (0 < f.count, { r with failures := some (t.insert key f.reset) })

/-- Counts a failure of a Pattern, and answers with the seconds until it is tried again; none when
its failures cannot be read. -/
def recordFailure (key : String) : Option Nat × Reconciler :=
  match r.failures with
  | none => (none, r)
  | some t =>
    let (seconds, f) := ((t.get? key).getD {}).increment.next
    (some (seconds.getD 0), { r with failures := some (t.insert key f) })

/-- Adds, updates or removes the watch of a Pattern. -/
def syncWatch (key : PatternKey) (c : GitConfig) :
    (MembershipStep × ChangeResult) × Reconciler :=
  let (step, result, watcher) := r.watcher.sync key c r.now
  ((step, result), { r with watcher })

/-- Drops the watch of a Pattern, if there is one. -/
def dropWatch (key : PatternKey) : ChangeResult × Reconciler :=
  if r.watcher.isWatching key then
    let (result, watcher) := r.watcher.remove key
    (result, { r with watcher })
  else (.ok, r)

end Reconciler

/-- The key of a Pattern in a namespace. -/
def keyOf (p : Pattern) (namespace_ : String) : PatternKey := ⟨p.metadata.anyName, namespace_⟩

/-- Records a step in the status of a Pattern. That the Pattern is gone is no failure. -/
def recordStep (key : PatternKey) (step : String) (error : Option String) :
    Activity Reconciler (Except Failure Unit) := do
  match ← Patterns.patchStatus key (stepPatch step error) with
  | .ok _ => return .ok ()
  | .error (.refused r) => return if r.code = 404 then .ok () else .error (.refused r)
  | .error f => return .error f

/-- Records a step that failed. A failure to record it changes nothing. -/
def reportFailure (key : PatternKey) (step : String) (e : ApplyError) :
    Activity Reconciler (Except ApplyError Action) := do
  let _ ← recordStep key step (some e.message)
  return .error e

/-- The step in which repositories' addresses are checked. -/
def validationStep : String := "validating git configuration"

/-- Puts a Pattern's spec into effect. -/
def apply (key : PatternKey) (spec : PatternSpec) :
    Activity Reconciler (Except ApplyError Action) := do
  let config ← Activity.look (·.config)
  let git := (spec.qualified config.minPollInterval).gitSpec
  match git.validate with
  | .error e => reportFailure key validationStep (.invalidRepository e)
  | .ok _ =>
    let (step, result) ← Activity.changeGet (·.syncWatch key git)
    match result with
    | .overflow => .crash
    | .refused e => reportFailure key step.text (.driftWatch e)
    | .ok =>
      match ← recordStep key step.text none with
      | .error f => return .error (.cluster f)
      | .ok () =>
        Activity.change fun r => (r.resetFailures key.text).2.measure (·.requeue "timer-based")
        return .ok (.requeue config.reconcileInterval)

/-- Drops the watch of a Pattern that is being deleted. -/
def cleanup (key : PatternKey) : Activity Reconciler (Except WatchError Action) := do
  match ← Activity.changeGet (·.dropWatch key) with
  | .overflow => .crash
  | .refused e => return .error e
  | .ok => return .ok .awaitChange

/-- Reconciles a Pattern. -/
def reconcile (p : Pattern) : Activity Reconciler (Except ReconcileError Action) := do
  let start ← Activity.look (·.now)
  Activity.change (·.measure (·.reconciliation))
  match p.metadata.namespace_ with
  | none => return .error .missingNamespace
  | some ns =>
    let key := keyOf p ns
    let result ← finalize p ns (apply key p.spec) (cleanup key)
    Activity.change fun r => r.measure (·.reconciliationTook (secondsBetween start r.now))
    return result.mapError .finalizer

end GitDrift.Reconcile
