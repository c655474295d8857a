import GitDrift.Cluster.Activity
import GitDrift.Json.PatchOperation
import GitDrift.Pattern
import GitDrift.Pattern.Key

/-!
What is asked of an API server about one Pattern.
-/
namespace GitDrift.Cluster.Patterns

open Json

variable {σ : Type}

/-- The path of everything in the group of Patterns. -/
def groupPath : String := "/apis/" ++ Pattern.apiVersion

/-- The path of all Patterns. -/
def collectionPath : String := groupPath ++ "/" ++ Pattern.plural

/-- The path of a Pattern. -/
def pathOf (key : PatternKey) : String :=
  groupPath ++ "/namespaces/" ++ key.namespace_ ++ "/" ++ Pattern.plural ++ "/" ++ key.name

/-- The text of the target of a request about a Pattern, or about a part of it. -/
def targetText (key : PatternKey) (part : String) (method : Method) : String :=
  pathOf key ++ part ++ method.queryMark

/-- Where a request goes, if one can be made. It takes a name, and a text that names a target. -/
def target? (key : PatternKey) (part : String) (method : Method) : Option Target :=
  if key.name = "" then none else Target.ofText? (targetText key part method)

/-- Sends a request that is answered with a Pattern, if the request can be made. -/
def ask (key : PatternKey) (part : String) (method : Method)
    (body : Option (PatchFormat × Json)) : Activity σ (Except Failure Pattern) :=
  match target? key part method with
  | none => pure (.error .badRequest)
  | some target => do
    let answer ← Activity.request ⟨method, target, body⟩
    return answer.read Pattern.decode

/-- The Pattern of a key; none if the server says that it is not found. -/
def get? (key : PatternKey) : Activity σ (Except Failure (Option Pattern)) := do
  match ← ask key "" .get none with
  | .ok p => return .ok (some p)
  | .error (.refused r) =>
    return if r.reason = "NotFound" then .ok none else .error (.refused r)
  | .error f => return .error f

/-- Patches the status of a Pattern. -/
def patchStatus (key : PatternKey) (patch : Json) : Activity σ (Except Failure Pattern) :=
  ask key "/status" .patch (some (.merge, patch))

/-- Patches a Pattern by operations. -/
def patchBy (key : PatternKey) (operations : List PatchOperation) :
    Activity σ (Except Failure Pattern) :=
  ask key "" .patch (some (.operations, .arr (operations.map PatchOperation.encode)))

end GitDrift.Cluster.Patterns
