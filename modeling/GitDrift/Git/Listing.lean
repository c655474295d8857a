import GitDrift.Git.Reference
import GitDrift.Text.Lines
import GitDrift.Text.Quoted

/-!
Listings of the references that a remote advertises, one line for each:

    ref: refs/heads/main	HEAD
    1111111111111111111111111111111111111111	HEAD
    1111111111111111111111111111111111111111	refs/heads/main
    2222222222222222222222222222222222222222	refs/tags/v1.0
    3333333333333333333333333333333333333333	refs/tags/v1.0^{}

A symbolic line replaces what is known of its name, the id line of a symbolic `HEAD` is left out,
and a line for `name^{}` says which commit the tag `name` peels to.
-/
namespace GitDrift.Git

open Text

/-- Why references could not be listed. -/
inductive GitError where
  /-- The git program did not start. -/
  | spawn (url cause : String)
  /-- The git program ended with a failure and said `stderr`. -/
  | commandFailed (url stderr : String)
  | noUrls (remote : String)
  | malformedLine (line : String)
  | invalidObjectId (text : String)
deriving DecidableEq

def GitError.message : GitError → String
  | .spawn url cause => "failed to execute git for " ++ url ++ ": " ++ cause
  | .commandFailed url stderr => "git ls-remote " ++ url ++ " failed: " ++ stderr
  | .noUrls remote => "remote " ++ remote ++ " has no URLs configured"
  | .malformedLine line => "malformed reference line " ++ quote line
  | .invalidObjectId text => "invalid object id " ++ quote text

namespace Listing

/-- What a line of a listing says. -/
inductive Line where
  | symbolic (name target : List Char)
  | object (name : List Char) (id : ObjectId)
  /-- The reference `name` is a tag whose object leads to `commit`. -/
  | peeled (name : List Char) (commit : ObjectId)
deriving DecidableEq

/-- What the id column of a symbolic line starts with. -/
def symbolicMark : List Char := ['r', 'e', 'f', ':', ' ']

/-- What the name on a peeled line ends with. -/
def peeledMark : List Char := ['^', '\x7b', '\x7d']

/-- Reads a line whose trailing blanks are gone. The first tab ends the id column. -/
def Line.read? (line : List Char) : Option Line :=
  (cutAt? '\t' line).bind fun (left, name) =>
    match afterStart? symbolicMark left with
    | some target => some (.symbolic name (trim target))
    | none =>
      (ObjectId.parse? (trim left)).map fun id =>
        match beforeEnd? peeledMark name with
        | some tag => .peeled tag id
        | none => .object name id

/-- Records the peeled commit at the first reference of a name, if there is one. -/
def peel (name : String) (commit : ObjectId) : List Reference → Option (List Reference)
  | [] => none
  | r :: rs =>
    if r.name = name then some ({ r with peeled := some commit } :: rs)
    else (peel name commit rs).map (r :: ·)

/-- The references after one more line, unless the line peels a tag that is not among them. -/
def Line.addTo? (refs : List Reference) : Line → Option (List Reference)
  | .symbolic name target =>
    let name := String.ofList name
    some (refs.filter (·.name ≠ name) ++ [.ofSymbolic name (String.ofList target)])
  | .peeled name commit => peel (String.ofList name) commit refs
  | .object name id =>
    let name := String.ofList name
    if name = headName ∧ refs.any (fun r => r.name = name && r.isSymbolic) then some refs
    else some (refs ++ [.ofId name id])

/-- The references after one more line of text. -/
def addLine (refs : List Reference) (line : List Char) : Except GitError (List Reference) :=
  match (Line.read? line).bind (·.addTo? refs) with
  | some refs => .ok refs
  | none => .error (.malformedLine (String.ofList line))

/-- The lines of a listing that say something, without their trailing blanks. -/
def contentLines (text : List Char) : List (List Char) :=
  ((lines text).map trimEnd).filter (· ≠ [])

/-- Reads a listing. The first line that makes no sense fails it as a whole. -/
def parse (text : List Char) : Except GitError (List Reference) :=
  (contentLines text).foldlM addLine []

end Listing
end GitDrift.Git
