import GitDrift.Drift.Store
import GitDrift.Git.Listing
import GitDrift.Git.Revision
import GitDrift.Time.Clock

/-!
Comparing a Pattern's origin with its target. Both are listed, the origin first, and the commits of
their tracked revisions are compared. A detection either has its result or waits for a listing.
-/
namespace GitDrift.Drift

open Git

/-- The two sides of a comparison. -/
inductive Side where
  | origin
  | target
deriving DecidableEq

def Side.name : Side → String
  | .origin => "origin"
  | .target => "target"

def Side.url (c : GitConfig) : Side → String
  | .origin => c.originRepo
  | .target => c.targetRepo

def Side.revision (c : GitConfig) : Side → String
  | .origin => c.originRevision
  | .target => c.targetRevision

/-- Why a comparison has no result. -/
inductive DriftError where
  | missingRepository (key : PatternKey)
  | transport (e : GitError)
  | noReferences (side : Side) (url : String)
  | referenceNotFound (reference : String) (side : Side) (url : String)
  | store (e : StoreError)
  | timeout (limit : Span)
deriving DecidableEq

def DriftError.message : DriftError → String
  | .missingRepository key =>
    "git config does not have an origin and target repository for pattern " ++ key.text
  | .transport e => e.message
  | .noReferences side url => "no references found for " ++ side.name ++ " " ++ url
  | .referenceNotFound reference side url =>
    "unable to find " ++ reference ++ " for " ++ side.name ++ " " ++ url
  | .store e => e.message
  | .timeout limit => "drift check timed out after " ++ limit.text

/-- The commit of a tracked revision: that of the branch of this name or, without a revision, that
of the reference that `HEAD` points at. The error names the reference that is missing. -/
def trackedCommit (refs : List Reference) (revision : String) : Except String ObjectId := do
  let found ←
    if revision = "" then (headBranch refs).mapError fun _ => headName
    else
      match findBranch refs revision with
      | some r => .ok r
      | none => .error (branchRef revision)
  match found.id? with
  | some id => .ok id
  | none => .error found.name

/-- The commit of one side of a comparison. -/
def sideCommit (c : GitConfig) (side : Side) (refs : List Reference) :
    Except DriftError ObjectId :=
  (trackedCommit refs (side.revision c)).mapError fun reference =>
    .referenceNotFound reference side (side.url c)

/-- Whether two listings differ in what is tracked. -/
def compare (c : GitConfig) (origin target : List Reference) : Except DriftError Bool := do
  let o ← sideCommit c .origin origin
  let t ← sideCommit c .target target
  return decide (o ≠ t)

/-- A listing of one side, which must not be empty. -/
def someReferences (c : GitConfig) (side : Side) (listing : Except GitError (List Reference)) :
    Except DriftError (List Reference) :=
  match listing with
  | .error e => .error (.transport e)
  | .ok [] => .error (.noReferences side (side.url c))
  | .ok refs => .ok refs

/-- A comparison on its way. -/
inductive Detection where
  | done (result : Except DriftError Bool)
  /-- Waits for the references of a remote. -/
  | listing (side : Side) (url : String)
      (resume : Except GitError (List Reference) → Detection)

namespace Detection

/-- Lists a side and goes on with its references. -/
def list (c : GitConfig) (side : Side) (next : List Reference → Detection) : Detection :=
  .listing side (side.url c) fun listing =>
    match someReferences c side listing with
    | .error e => .done (.error e)
    | .ok refs => next refs

/-- Starts the comparison for a key, whose configuration has just been asked for. -/
def start (key : PatternKey) (config : Except StoreError GitConfig) : Detection :=
  match config with
  | .error e => .done (.error (.store e))
  | .ok c =>
    if c.originRepo = "" ∨ c.targetRepo = "" then .done (.error (.missingRepository key))
    else list c .origin fun origin => list c .target fun target => .done (compare c origin target)

/-- Runs a detection to its end. The answer comes with the remotes that were asked, in order. -/
def run (listing : Side → String → Except GitError (List Reference)) :
    Detection → Except DriftError Bool × List (Side × String)
  | .done result => (result, [])
  | .listing side url resume =>
    let (result, asked) := run listing (resume (listing side url))
    (result, (side, url) :: asked)

end Detection
end GitDrift.Drift
