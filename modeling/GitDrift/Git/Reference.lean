import GitDrift.Git.ObjectId

/-!
References of a git repository: names that point at an object or at another reference, and the
schemes by which branches, tags and remote-tracking branches are named.
-/
namespace GitDrift.Git

/-- The name of the reference that a repository's default branch is found by. -/
def headName : String := "HEAD"

/-- What every tag's full name starts with. -/
def tagScheme : String := "refs/tags/"

def branchRef (name : String) : String := "refs/heads/" ++ name

def tagRef (name : String) : String := tagScheme ++ name

def remoteBranchRef (remote branch : String) : String := "refs/remotes/" ++ remote ++ "/" ++ branch

def remoteHeadRef (remote : String) : String := remoteBranchRef remote headName

def isTagRef (name : String) : Bool := tagScheme.toList.isPrefixOf name.toList

/-- What a reference points at. -/
inductive RefTarget where
  | object (id : ObjectId)
  | symbolic (name : String)
deriving DecidableEq

/-- A named reference. For an annotated tag, `peeled` is the commit that the tag object leads to. -/
structure Reference where
  name : String
  target : RefTarget
  peeled : Option ObjectId := none
deriving DecidableEq

namespace Reference

def ofId (name : String) (id : ObjectId) : Reference := ⟨name, .object id, none⟩

def ofSymbolic (name target : String) : Reference := ⟨name, .symbolic target, none⟩

/-- The id that the reference holds itself; a symbolic one holds none. -/
def id? (r : Reference) : Option ObjectId :=
  match r.target with
  | .object id => some id
  | .symbolic _ => none

/-- The name that a symbolic reference points at. -/
def symbolic? (r : Reference) : Option String :=
  match r.target with
  | .object _ => none
  | .symbolic name => some name

def isSymbolic (r : Reference) : Bool := r.symbolic?.isSome

end Reference
end GitDrift.Git
