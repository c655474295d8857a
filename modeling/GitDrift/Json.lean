import GitDrift.Data.Double

/-!
JSON values. Objects are lists of fields; their normal form has the fields in increasing order of
their names, one for a name, and `Fields.put` keeps it. The module also holds merge patches
(RFC 7386), which is how parts of a stored object are replaced.
-/
namespace GitDrift

/-- A number: a whole number, or a double with a sign. -/
inductive Number where
  | whole (n : Int)
  | double (negative : Bool) (size : Double)
deriving DecidableEq, Repr

def Number.text : Number → String
  | .whole n => Text.ofInt n
  | .double negative size => (if negative then "-" else "") ++ String.ofList size.text

inductive Json where
  | null
  | bool (b : Bool)
  | num (n : Number)
  | str (s : String)
  | arr (items : List Json)
  | obj (fields : List (String × Json))
deriving Inhabited, Repr

namespace Json

abbrev Fields := List (String × Json)

def Fields.get? (fields : Fields) (name : String) : Option Json :=
  (fields.find? fun f => f.1 = name).map Prod.snd

/-- Sets a field, keeping the order of names. -/
def Fields.put (name : String) (value : Json) : Fields → Fields
  | [] => [(name, value)]
  | (n, v) :: rest =>
    if name = n then (name, value) :: rest
    else if name < n then (name, value) :: (n, v) :: rest
    else (n, v) :: put name value rest

def Fields.drop (name : String) (fields : Fields) : Fields :=
  fields.filter fun f => f.1 ≠ name

/-- Fields in the order of their names; of two with one name the later counts. -/
def Fields.ofList (fields : List (String × Json)) : Fields :=
  fields.foldl (fun acc (n, v) => acc.put n v) []

mutual

/-- The value in its normal form. -/
def normalize : Json → Json
  | .null => .null
  | .bool b => .bool b
  | .num n => .num n
  | .str s => .str s
  | .arr items => .arr (normalizeItems items)
  | .obj fields => .obj (Fields.ofList (normalizeFields fields))

def normalizeItems : List Json → List Json
  | [] => []
  | item :: items => normalize item :: normalizeItems items

def normalizeFields : List (String × Json) → List (String × Json)
  | [] => []
  | (name, value) :: fields => (name, normalize value) :: normalizeFields fields

end

/-- The value of a field, when the value is an object that has it. -/
def field? (name : String) : Json → Option Json
  | .obj fields => Fields.get? fields name
  | _ => none

def int (n : Int) : Json := .num (.whole n)

def nat (n : Nat) : Json := .num (.whole n)

/-- A text, or null. -/
def ofText? : Option String → Json
  | some s => .str s
  | none => .null

/-- The fields of an object; nothing else has any. -/
def fields : Json → Fields
  | .obj fields => fields
  | _ => []

mutual

/-- `target.merge patch` is the target after a merge patch: fields of the patch replace those of
the target, recursively for objects, and a null removes the field. -/
def merge (target : Json) : Json → Json
  | .obj patch => .obj (mergeFields target.fields patch)
  | .null => .null
  | .bool b => .bool b
  | .num n => .num n
  | .str s => .str s
  | .arr items => .arr items

def mergeFields (target : Fields) : Fields → Fields
  | [] => target
  | (name, value) :: patch =>
    mergeFields
      (match value with
        | .null => Fields.drop name target
        | value => Fields.put name (merge ((Fields.get? target name).getD .null) value) target)
      patch

end

end Json
end GitDrift
