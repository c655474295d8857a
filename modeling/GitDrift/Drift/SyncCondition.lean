import GitDrift.Pattern.Status
import GitDrift.Time.Moment

/-!
The two conditions that say whether a Pattern's repositories are in sync. One of them is true.
When the result changes, the true one becomes false and keeps the time of its transition, and the
other becomes true; when it stays, only the time of the last update moves.
-/
namespace GitDrift.Drift

/-- The condition that a result stands for. -/
def syncType (drifted : Bool) : ConditionType := if drifted then .gitOutOfSync else .gitInSync

def syncMessage (drifted : Bool) : String :=
  if drifted then "Git repositories are out of sync" else "Git repositories are in sync"

/-- The first condition that satisfies `p`, with its place in the list. -/
def findCondition (p : Condition → Bool) (conditions : List Condition) : Option (Nat × Condition) :=
  (conditions.findIdx? p).bind fun i => conditions[i]?.map fun c => (i, c)

/-- The first condition of a type. -/
def conditionOfType (conditions : List Condition) (type : ConditionType) :
    Option (Nat × Condition) :=
  findCondition (fun c => c.type = type) conditions

/-- The first sync condition with a status. -/
def syncConditionOfStatus (conditions : List Condition) (status : ConditionStatus) :
    Option (Nat × Condition) :=
  findCondition (fun c => c.type.isGitSync && c.status = status) conditions

/-- A condition that a result has just made true. -/
def activated (drifted : Bool) (time : String) : Condition :=
  ⟨syncType drifted, .true, time, time, syncMessage drifted⟩

/-- Makes the condition of a result true, in its old place if there is one. -/
def activate (conditions : List Condition) (drifted : Bool) (time : String) : List Condition :=
  match conditions.findIdx? (fun c => c.type = syncType drifted) with
  | some i => conditions.set i (activated drifted time)
  | none => conditions ++ [activated drifted time]

/-- The conditions after a result at a time, and whether that changed them. -/
def setSyncCondition (conditions : List Condition) (drifted : Bool) (now : Moment) :
    List Condition × Bool :=
  let time := now.format
  match syncConditionOfStatus conditions .true with
  | none => (activate conditions drifted time, true)
  | some (i, active) =>
    if active.type = syncType drifted then
      (conditions.set i { active with lastUpdateTime := time }, active.lastUpdateTime ≠ time)
    else
      let flipped := { active with status := .false, lastUpdateTime := time }
      (activate (conditions.set i flipped) drifted time, true)

end GitDrift.Drift
