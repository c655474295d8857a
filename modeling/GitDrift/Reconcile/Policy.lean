import GitDrift.Reconcile.Reconciler

/-!
What is done about a reconciliation that failed. A Pattern that is being deleted is tried again
after a fixed time. Any other is tried again after a delay that grows with its failures, and after
a fixed time when these are not known.
-/
namespace GitDrift.Reconcile

/-- The action after a failed reconciliation. Without settings their defaults hold. -/
def errorPolicy (p : Pattern) (config : Option ControllerConfig) (r : Reconciler) :
    Action × Reconciler :=
  let r := r.measure (·.reconciliationError)
  let config := config.getD {}
  if p.metadata.deletionTimestamp.isSome then
    (.requeue config.deletionRequeue, r.measure (·.requeue "deletion"))
  else
    let key := keyOf p (p.metadata.namespace_.getD "")
    let (seconds, r) := r.recordFailure key.text
    (.requeue (seconds.getD config.reconciliationErrorRequeue),
      r.measure (·.requeue "error-backoff"))

end GitDrift.Reconcile
