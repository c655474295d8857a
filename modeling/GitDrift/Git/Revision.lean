import GitDrift.Git.RefDatabase

/-!
Revision selectors. A selector is a full object id, `HEAD`, or the short name of a branch, a tag,
a remote or a remote-tracking branch; the empty one means the branch `main`.

`headBranch` and `findBranch` are the narrower look-ups that a drift check uses.
-/
namespace GitDrift.Git

/-- The remote that remote-tracking branches are looked up at. -/
def defaultRemote : String := "origin"

/-- The references that a short name may stand for, in the order in which they are tried. -/
def candidates (selector : String) : List String :=
  [branchRef selector, tagRef selector, remoteHeadRef selector,
    remoteBranchRef defaultRemote selector]

/-- The first commit that one of the names designates. -/
def RefDatabase.firstCommit? (db : RefDatabase) (names : List String) : Option ObjectId :=
  names.findSome? fun name => (db.commitOf name).toOption

/-- The id that a selector spells in full, if the database knows the object. -/
def RefDatabase.knownId? (db : RefDatabase) (selector : String) : Option ObjectId :=
  (ObjectId.parse? selector.toList).filter fun id => (db.object? id).isSome

/-- The commit that a selector means. -/
def RefDatabase.select (db : RefDatabase) (selector : String) : Except ResolveError ObjectId :=
  if selector = "" then db.commitOf (branchRef "main")
  else
    match db.knownId? selector with
    | some id => .ok id
    | none =>
      if selector = headName then db.commitOf headName
      else
        match db.firstCommit? (candidates selector) with
        | some id => .ok id
        | none => .error (.unknownTarget selector)

/-- The commit that a selector means in a listing. -/
def resolve (refs : List Reference) (selector : String) : Except ResolveError ObjectId :=
  if refs.isEmpty then .error .noReferences
  else (RefDatabase.ofReferences refs).select selector

/-- The first reference of a name. -/
def findReference (refs : List Reference) (name : String) : Option Reference :=
  refs.find? (·.name = name)

/-- The name that a symbolic `HEAD` among the references points at. -/
def headTarget? (refs : List Reference) : Option String :=
  (refs.filter (·.name = headName)).findSome? Reference.symbolic?

/-- The reference that `HEAD` points at, which is one step and no walk. -/
def headBranch (refs : List Reference) : Except ResolveError Reference :=
  if refs.isEmpty then .error .noReferences
  else
    match headTarget? refs with
    | none => .error .headNotFound
    | some name =>
      match findReference refs name with
      | some r => .ok r
      | none => .error (.referenceNotFound name)

def findBranch (refs : List Reference) (name : String) : Option Reference :=
  findReference refs (branchRef name)

end GitDrift.Git
