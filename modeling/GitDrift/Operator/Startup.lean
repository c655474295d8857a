import GitDrift.Controller.Event
import GitDrift.Probe
import GitDrift.Reconcile.Reconciler

/-!
How the operator starts: the probe server is bound, the cluster is found, the watcher is started,
and every Pattern that is there is reconciled once, so that its watch is in place before the first
event arrives. What fails before that ends the operator.
-/
namespace GitDrift.Operator

open Cluster Controller Reconcile

/-- What the operator finds around it. -/
structure Host where
  /-- Whether the address of the probe server is free. -/
  addressFree : Bool := true
  /-- Whether there is a file that says where the cluster is. -/
  clusterKnown : Bool := true
deriving DecidableEq

inductive StartupError where
  | metrics (e : Metrics.RegistrationError)
  | server (e : Probe.BindError)
  | client
  | listing (f : Failure)

def StartupError.message : StartupError → String
  | .metrics e => e.message
  | .server _ => "HTTP server failed to start"
  | .client => "Failed to create Kubernetes client"
  | .listing _ => "Pattern CRD is not queryable, is it installed?"

/-- The code that the operator exits with. -/
def exitCode : Except ε α → Nat
  | .ok _ => 0
  | .error _ => 1

/-- All Patterns that are there. -/
def existing : Activity Reconciler (Except Failure (List Pattern)) := do
  let answer ← Activity.request ⟨.get, ⟨Patterns.collectionPath, ""⟩, none⟩
  return (answer.read Page.decode).map (·.items)

/-- Reconciles Patterns one after the other. The controller tries again what fails here. -/
def reconcileAll : List Pattern → Activity Reconciler Unit
  | [] => pure ()
  | p :: ps => do
    let _ ← reconcile p
    reconcileAll ps

def registerMetrics : Activity Reconciler (Except StartupError Unit) :=
  Activity.changeGet fun r =>
    match r.metrics.register with
    | .ok metrics => (.ok (), { r with metrics })
    | .error e => (.error (.metrics e), r)

/-- Starts the operator. -/
def start (host : Host) : Activity Reconciler (Except StartupError Unit) := do
  match ← registerMetrics, Probe.bind host.addressFree, host.clusterKnown with
  | .error e, _, _ => return .error e
  | .ok (), .error e, _ => return .error (.server e)
  | .ok (), .ok _, false => return .error .client
  | .ok (), .ok _, true =>
    Activity.change fun r => { r with watcher := r.watcher.start.2 }
    match ← existing with
    | .error f => return .error (.listing f)
    | .ok ps =>
      reconcileAll ps
      return .ok ()

end GitDrift.Operator
