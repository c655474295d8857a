import GitDrift.Cluster.Patterns
import GitDrift.Drift.Store

/-!
The store of Patterns that a cluster keeps: it is read and written through the API server.
-/
namespace GitDrift.Drift.ClusterStore

open Cluster

variable {σ : Type}

/-- The Pattern of a key. -/
def fetch (key : PatternKey) : Activity σ (Except StoreError Pattern) := do
  match ← Patterns.get? key with
  | .ok (some p) => return .ok p
  | .ok none => return .error (.notFound key)
  | .error f => return .error (.cluster f)

def config (key : PatternKey) : Activity σ (Except StoreError GitConfig) := do
  return (← fetch key).map (·.spec.gitSpec)

/-- The conditions of a Pattern; one without a status has none. -/
def conditions (key : PatternKey) : Activity σ (Except StoreError (List Condition)) := do
  return (← fetch key).map fun p => (p.status.map (·.conditions)).getD []

/-- The merge patch that replaces conditions. -/
def conditionsPatch (conditions : List Condition) : Json :=
  .obj [("status", .obj [("conditions", encodeConditions conditions)])]

/-- Replaces the conditions of a Pattern. -/
def writeConditions (key : PatternKey) (conditions : List Condition) :
    Activity σ (Except StoreError Unit) := do
  match ← Patterns.patchStatus key (conditionsPatch conditions) with
  | .ok _ => return .ok ()
  | .error f => return .error (.cluster f)

/-- Records a result among the conditions of a Pattern, if that changes them. -/
def report (key : PatternKey) (drifted : Bool) (now : Moment) :
    Activity σ (Except StoreError Unit) := do
  match ← conditions key with
  | .error e => return .error e
  | .ok old =>
    let (new, changed) := setSyncCondition old drifted now
    if changed then writeConditions key new else return .ok ()

end GitDrift.Drift.ClusterStore
