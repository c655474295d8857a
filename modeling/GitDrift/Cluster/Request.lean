import GitDrift.Json

/-!
Requests to an API server, and the targets that they are sent to.
-/
namespace GitDrift.Cluster

inductive Method where
  | get
  | patch
deriving DecidableEq

def Method.name : Method → String
  | .get => "GET"
  | .patch => "PATCH"

/-- What stands behind the path in a request for one object. A patch has a query, which is empty. -/
def Method.queryMark : Method → String
  | .get => ""
  | .patch => "?"

/-- What a patch is made of. -/
inductive PatchFormat where
  /-- An object whose fields replace those of the target (RFC 7386). -/
  | merge
  /-- A list of operations (RFC 6902). -/
  | operations
deriving DecidableEq

def PatchFormat.contentType : PatchFormat → String
  | .merge => "application/merge-patch+json"
  | .operations => "application/json-patch+json"

/-- Where a request goes. -/
structure Target where
  path : String
  query : String := ""
deriving DecidableEq, Inhabited

structure Request where
  method : Method
  target : Target
  body : Option (PatchFormat × Json) := none

namespace Target

/-- Characters that may stand in a path. Control characters may not, DEL among them. -/
def isPathChar (c : Char) : Bool :=
  let n := c.toNat
  n = 0x21 || n = 0x22 || (0x24 ≤ n && n ≤ 0x3b) || n = 0x3d || (0x40 ≤ n && n ≤ 0x5f) ||
    (0x61 ≤ n && n ≤ 0x7e) || 0x80 ≤ n

/-- Characters that may stand in a query. -/
def isQueryChar (c : Char) : Bool :=
  let n := c.toNat
  n = 0x21 || (0x24 ≤ n && n ≤ 0x3b) || n = 0x3d ||
    (0x3f ≤ n && n ≤ 0x7e) || 0x80 ≤ n

/-- How many bytes a text may have that names a target. -/
def maxBytes : Nat := 65534

/-- The target that a text names, if it names one: a path, and a query behind the first question
mark. A number sign ends it, though what is behind it counts among the bytes. -/
def ofText? (s : String) : Option Target :=
  let cs := s.toList.takeWhile (· ≠ '#')
  let (path, rest) := cs.span (· ≠ '?')
  let query := rest.drop 1
  if s.utf8ByteSize ≤ maxBytes && path.all isPathChar && query.all isQueryChar then
    some ⟨String.ofList path, String.ofList query⟩
  else none

/-- How a character of a parameter's value is written in a query. -/
def parameterByte (b : Nat) : List Char :=
  let c := Char.ofNat b
  if c.isAlphanum || c = '*' || c = '-' || c = '.' || c = '_' then [c]
  else if c = ' ' then ['+']
  else
    let digit (n : Nat) := if n < 10 then Char.ofNat (48 + n) else Char.ofNat (55 + n)
    ['%', digit (b / 16), digit (b % 16)]

end Target
end GitDrift.Cluster
