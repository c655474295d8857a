import GitDrift.Cluster.Failure
import GitDrift.Drift.Watcher
import GitDrift.Git.RepoUrl

/-!
Why a reconciliation failed.
-/
namespace GitDrift.Reconcile

open Text

/-- Why a Pattern's spec could not be put into effect. -/
inductive ApplyError where
  | invalidRepository (e : Git.RepoUrlError)
  | driftWatch (e : Drift.WatchError)
  | cluster (f : Cluster.Failure)
deriving DecidableEq

/-- Why the step by which a Pattern is held or let go failed. -/
inductive FinalizerError where
  | applyFailed (e : ApplyError)
  | cleanupFailed (e : Drift.WatchError)
  | addFinalizer (f : Cluster.Failure)
  | removeFinalizer (f : Cluster.Failure)
  | unnamedObject
deriving DecidableEq

inductive ReconcileError where
  | missingNamespace
  | finalizer (e : FinalizerError)
deriving DecidableEq

/-- What is said about an error. The client's own words about a failure are left out. -/
def ApplyError.message : ApplyError → String
  | .invalidRepository e => e.message
  | .driftWatch e => e.message
  | .cluster _ => "Kubernetes API error"

def FinalizerError.message : FinalizerError → String
  | .applyFailed e => "failed to apply object: " ++ e.message
  | .cleanupFailed e => "failed to clean up object: " ++ e.message
  | .addFinalizer _ => "failed to add finalizer"
  | .removeFinalizer _ => "failed to remove finalizer"
  | .unnamedObject => "object has no name"

def ReconcileError.message : ReconcileError → String
  | .missingNamespace => "Pattern is missing metadata.namespace"
  | .finalizer e => "finalizer failed: " ++ e.message

def urlDiagnostic : Git.RepoUrlError → Diagnostic
  | .unsupportedScheme url => .applied "UnsupportedScheme" [.text url]
  | .invalidSsh url => .applied "InvalidSsh" [.text url]
  | .parse url reason =>
    .record "Parse" [("url", .text url), ("reason", .text reason.message)] false
  | .emptyHostname url => .applied "EmptyHostname" [.text url]

def watchDiagnostic : Drift.WatchError → Diagnostic
  | .notStarted => .word "NotStarted"
  | .notFound key =>
    .record "NotFound" [("name", .text key.name), ("namespace", .text key.namespace_)] false
  | .disabled seconds => .applied "Disabled" [.word (ofInt seconds)]

def ApplyError.diagnostic : ApplyError → Diagnostic
  | .invalidRepository e => .applied "InvalidRepository" [urlDiagnostic e]
  | .driftWatch e => .applied "DriftWatch" [watchDiagnostic e]
  | .cluster f => .applied "Kube" [f.diagnostic]

def FinalizerError.diagnostic : FinalizerError → Diagnostic
  | .applyFailed e => .applied "ApplyFailed" [e.diagnostic]
  | .cleanupFailed e => .applied "CleanupFailed" [.applied "DriftWatch" [watchDiagnostic e]]
  | .addFinalizer f => .applied "AddFinalizer" [f.diagnostic]
  | .removeFinalizer f => .applied "RemoveFinalizer" [f.diagnostic]
  | .unnamedObject => .word "UnnamedObject"

def ReconcileError.diagnostic : ReconcileError → Diagnostic
  | .missingNamespace => .applied "MissingMetadata" [.text "namespace"]
  | .finalizer e => .applied "Finalizer" [e.diagnostic]

end GitDrift.Reconcile
