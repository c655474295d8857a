import GitDrift.Cluster.Patterns
import GitDrift.Reconcile.Error

/-!
Holding a Pattern by a finalizer. A Pattern gets its finalizer before anything is done for it, and
keeps it, when it is being deleted, until everything is undone. Both patches first test what they
were made for, so that they fail when the list of finalizers has changed meanwhile.
-/
namespace GitDrift.Reconcile

open Cluster Json

/-- What is to happen after a reconciliation. -/
inductive Action where
  /-- The Pattern is reconciled again after so many seconds. -/
  | requeue (seconds : Nat)
  /-- Nothing, until the Pattern changes. -/
  | awaitChange
deriving DecidableEq

def Action.diagnostic (a : Action) : Text.Diagnostic :=
  let delay := match a with
    | .requeue seconds => some (Span.ofSeconds seconds)
    | .awaitChange => none
  .record "Action" [("requeue_after", .ofOption (fun d => .word d.text) delay)] false

/-- What is to be done about a Pattern. -/
inductive Stage where
  /-- It has no finalizer yet. -/
  | unheld
  /-- It is held, and its spec is put into effect. -/
  | applying
  /-- It is being deleted; the number is the place of its finalizer. -/
  | cleaning (index : Nat)
  /-- It is being deleted, and nothing is left to do. -/
  | released
deriving DecidableEq

/-- The stage of an object with these metadata. -/
def stageOf (m : Metadata) : Stage :=
  match (m.finalizers.getD []).findIdx? (· = Pattern.finalizer), m.deletionTimestamp with
  | some _, none => .applying
  | some i, some _ => .cleaning i
  | none, none => .unheld
  | none, some _ => .released

/-- Adds the finalizer behind those that are there. -/
def addOperations (m : Metadata) : List PatchOperation :=
  match m.finalizers.getD [] with
  | [] =>
    [.test "/metadata/finalizers" .null,
      .add "/metadata/finalizers" (.arr [.str Pattern.finalizer])]
  | held =>
    [.test "/metadata/finalizers" (.arr (held.map .str)),
      .add "/metadata/finalizers/-" (.str Pattern.finalizer)]

/-- Removes the finalizer at a place. -/
def removeOperations (index : Nat) : List PatchOperation :=
  let path := "/metadata/finalizers/" ++ Text.ofNat index
  [.test path (.str Pattern.finalizer), .remove path]

variable {σ : Type}

/-- Does what the stage of a Pattern asks for. Nothing more is done after the finalizer was added,
because the patch changes the Pattern. -/
def finalize (p : Pattern) (namespace_ : String)
    (apply : Activity σ (Except ApplyError Action))
    (cleanup : Activity σ (Except Drift.WatchError Action)) :
    Activity σ (Except FinalizerError Action) := do
  match stageOf p.metadata, p.metadata.name with
  | .released, _ => return .ok .awaitChange
  | .applying, _ => return (← apply).mapError .applyFailed
  | .unheld, none => return .error .unnamedObject
  | .unheld, some name =>
    match ← Patterns.patchBy ⟨name, namespace_⟩ (addOperations p.metadata) with
    | .ok _ => return .ok .awaitChange
    | .error f => return .error (.addFinalizer f)
  | .cleaning _, none => return .error .unnamedObject
  | .cleaning index, some name =>
    match ← cleanup with
    | .error e => return .error (.cleanupFailed e)
    | .ok action =>
      match ← Patterns.patchBy ⟨name, namespace_⟩ (removeOperations index) with
      | .ok _ => return .ok action
      | .error f => return .error (.removeFinalizer f)

end GitDrift.Reconcile
