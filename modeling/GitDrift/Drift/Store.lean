import GitDrift.Cluster.Failure
import GitDrift.Data.Table
import GitDrift.Drift.SyncCondition
import GitDrift.Pattern.Key

/-!
Where Patterns' git configurations are read and their conditions are kept, here in memory.
-/
namespace GitDrift.Drift

/-- Why a store did not do what was asked. -/
inductive StoreError where
  | notFound (key : PatternKey)
  | cluster (failure : Cluster.Failure)
  /-- The store cannot be used any more. -/
  | poisoned
deriving DecidableEq

/-- What is said about a store's error. The client's own words about a failure are left out. -/
def StoreError.message : StoreError → String
  | .notFound key => "pattern " ++ key.text ++ " not found"
  | .cluster _ => "kubernetes API error"
  | .poisoned => "pattern store lock poisoned"

/-- What is known of a Pattern. -/
structure StoredPattern where
  config : GitConfig := {}
  conditions : List Condition := []
deriving DecidableEq, Inhabited

abbrev MemoryStore := Table PatternKey StoredPattern

namespace MemoryStore

variable (m : MemoryStore)

def find (key : PatternKey) : Except StoreError StoredPattern :=
  match m.get? key with
  | some p => .ok p
  | none => .error (.notFound key)

/-- Sets the configuration of a Pattern, which keeps its conditions. -/
def setConfig (key : PatternKey) (config : GitConfig) : MemoryStore :=
  m.insert key { (m.get? key).getD {} with config }

def config (key : PatternKey) : Except StoreError GitConfig := (find m key).map (·.config)

def conditions (key : PatternKey) : Except StoreError (List Condition) :=
  (find m key).map (·.conditions)

/-- The conditions of a Pattern; one that is not known has none. -/
def snapshot (key : PatternKey) : List Condition := ((m.get? key).map (·.conditions)).getD []

/-- Replaces the conditions of a Pattern. -/
def writeConditions (key : PatternKey) (conditions : List Condition) :
    Except StoreError Unit × MemoryStore :=
  match m.get? key with
  | some p => (.ok (), m.insert key { p with conditions })
  | none => (.error (.notFound key), m)

/-- Records a result among the conditions of a Pattern, if that changes them. -/
def report (key : PatternKey) (drifted : Bool) (now : Moment) :
    Except StoreError Unit × MemoryStore :=
  match conditions m key with
  | .error e => (.error e, m)
  | .ok conditions =>
    let (conditions, changed) := setSyncCondition conditions drifted now
    if changed then writeConditions m key conditions else (.ok (), m)

end MemoryStore
end GitDrift.Drift
