import GitDrift.Drift.Watcher

/-!
The parts of the operator in diagnostic notation. They show what they hold of their own, and leave
out what they share.
-/
namespace GitDrift.Operator

open Text

/-- The client that lists remotes with a program. -/
def gitDiagnostic (program : String) : Diagnostic :=
  .record "CliGitClient" [("git_binary", .text program)] false

/-- The detector that lists remotes with a program. -/
def detectorDiagnostic (program : String) : Diagnostic :=
  .record "DriftDetector" [("git", gitDiagnostic program)] true

/-- The reconciler of a watcher whose checks may take some time. -/
def reconcilerDiagnostic (w : Drift.Watcher) (limit : Option Span) : Diagnostic :=
  .record "Reconciler" [("drift_watcher", w.diagnostic limit)] true

/-- The store in the cluster. -/
def storeDiagnostic : Diagnostic := .record "KubePatternStore" [] true

end GitDrift.Operator
