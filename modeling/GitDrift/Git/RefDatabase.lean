import GitDrift.Data.Table
import GitDrift.Git.Reference
import GitDrift.Text.Quoted

/-!
References by name, with the objects that they reveal: a plain reference reveals a commit, one
with a peeled commit reveals a tag object and the commit that it leads to.
-/
namespace GitDrift.Git

inductive ObjectKind where
  | commit
  | tree
  | blob
  | tag
deriving DecidableEq

def ObjectKind.name : ObjectKind → String
  | .commit => "commit"
  | .tree => "tree"
  | .blob => "blob"
  | .tag => "tag"

inductive GitObject where
  | commit (id : ObjectId)
  /-- An annotated tag, and the object that it names with that object's kind. -/
  | tag (id target : ObjectId) (targetKind : ObjectKind)
  | other (id : ObjectId) (kind : ObjectKind)
deriving DecidableEq

def GitObject.id : GitObject → ObjectId
  | .commit id => id
  | .tag id _ _ => id
  | .other id _ => id

/-- Why a name or a selector leads to no commit. -/
inductive ResolveError where
  | noReferences
  | headNotFound
  | referenceNotFound (name : String)
  | objectNotFound (id : ObjectId)
  | symbolicDepthExceeded (start : String)
  /-- An annotated tag that names something other than a commit. -/
  | unsupportedTagObjectTarget (kind : ObjectKind)
  /-- A tag on an object that is neither a commit nor a tag object. -/
  | unsupportedTagTarget (kind : ObjectKind)
  | unknownTarget (selector : String)
deriving DecidableEq

def ResolveError.message : ResolveError → String
  | .noReferences => "no references found"
  | .headNotFound => "unable to find HEAD"
  | .referenceNotFound name => "reference not found: " ++ name
  | .objectNotFound id => "object not found: " ++ id.text
  | .symbolicDepthExceeded start =>
    "symbolic reference depth exceeded while resolving " ++ start
  | .unsupportedTagObjectTarget kind =>
    "unsupported tag object target \"" ++ kind.name ++ "\""
  | .unsupportedTagTarget kind => "unsupported tag target \"" ++ kind.name ++ "\""
  | .unknownTarget selector => "unknown target " ++ Text.quote selector

structure RefDatabase where
  references : Table String Reference := {}
  objects : Table ObjectId GitObject := {}

namespace RefDatabase

/-- Records an object, in place of what was known of its id. -/
def insertObject (db : RefDatabase) (object : GitObject) : RefDatabase :=
  { db with objects := db.objects.insert object.id object }

/-- The objects after a reference has been seen. A peeled commit makes the reference's own object
a tag whatever it was taken for before; a commit is only recorded where nothing is known. -/
def revealObjects (objects : Table ObjectId GitObject) (r : Reference) :
    Table ObjectId GitObject :=
  match r.target, r.peeled with
  | .symbolic _, _ => objects
  | .object id, some commit =>
    (objects.insert id (.tag id commit .commit)).insertNew commit (.commit commit)
  | .object id, none => objects.insertNew id (.commit id)

/-- Records a reference, in place of an earlier one of its name. -/
def insert (db : RefDatabase) (r : Reference) : RefDatabase :=
  ⟨db.references.insert r.name r, revealObjects db.objects r⟩

def ofReferences (refs : List Reference) : RefDatabase :=
  refs.foldl insert {}

def isEmpty (db : RefDatabase) : Bool := db.references.isEmpty

def object? (db : RefDatabase) (id : ObjectId) : Option GitObject := db.objects.get? id

/-- At most this many symbolic references are followed from a name. -/
def maxHops : Nat := 5

/-- Looks at up to `budget` references on the way from `name`; `start` is where the way began. -/
def follow (db : RefDatabase) (start : String) : Nat → String → Except ResolveError Reference
  | 0, _ => .error (.symbolicDepthExceeded start)
  | budget + 1, name =>
    match db.references.get? name with
    | none => .error (.referenceNotFound name)
    | some r =>
      match r.target with
      | .object _ => .ok r
      | .symbolic next => db.follow start budget next

/-- The reference that a name leads to when symbolic ones are followed. -/
def resolve (db : RefDatabase) (name : String) : Except ResolveError Reference :=
  db.follow name (maxHops + 1) name

/-- The commit that a tag on an object stands for. -/
def commitOfTagged (db : RefDatabase) (id : ObjectId) : Except ResolveError ObjectId :=
  match db.object? id with
  | some (.commit commit) => .ok commit
  | some (.tag _ target .commit) => .ok target
  | some (.tag _ _ kind) => .error (.unsupportedTagObjectTarget kind)
  | some (.other _ kind) => .error (.unsupportedTagTarget kind)
  | none => .error (.objectNotFound id)

/-- The commit that a reference designates. A tag is looked through once; any other reference
stands for the object that it holds. -/
def commitOf (db : RefDatabase) (name : String) : Except ResolveError ObjectId := do
  let r ← db.resolve name
  match r.id? with
  | none => .error (.referenceNotFound name)
  | some id => if isTagRef r.name then db.commitOfTagged id else .ok id

end RefDatabase
end GitDrift.Git
