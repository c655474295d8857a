import GitDrift.Json

/-!
What a reconciliation leaves in a Pattern's status: the name of the step that it took, and the
error that the step met.
-/
namespace GitDrift.Reconcile

/-- The merge patch that records a step. Without an error it removes the old one. -/
def stepPatch (step : String) (error : Option String) : Json :=
  .obj [("status", .obj [("lastError", Json.ofText? error), ("lastStep", .str step)])]

end GitDrift.Reconcile
