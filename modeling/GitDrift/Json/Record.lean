import GitDrift.Json.Decode

/-!
Records: types of values with named fields.
-/
namespace GitDrift.Json

/-- Where a field has to be written. -/
inductive Presence where
  | optional
  /-- Only where the record is an array. -/
  | inArrays
  | required
deriving DecidableEq

/-- A field of a record type, and how its value becomes part of a record. -/
structure RecordField (α : Type) where
  name : String
  set : α → Decoder α
  presence : Presence

/-- A field whose value becomes part of a record whatever else is in it. -/
def field (name : String) (d : Decoder β) (set : α → β → α) (presence : Presence := .optional) :
    RecordField α :=
  ⟨name, fun a => d.map (set a), presence⟩

/-- How records of a type can be written. -/
inductive RecordForm (α : Type) where
  /-- As objects that have no field twice, or as arrays of the fields' values. Other fields are
  passed over. -/
  | strict
  /-- As objects, where of a field that is written twice the later counts. Other fields are passed
  over. -/
  | lenient
  /-- As objects that have no field twice. Something is made of the other fields. -/
  | flat (others : α → Fields → Except DecodeError α)

structure RecordType (α : Type) where
  name : String
  fields : List (RecordField α)
  /-- The record before any field is set. -/
  blank : α
  form : RecordForm α := .strict

namespace RecordType

variable (t : RecordType α)

def expected : String :=
  match t.form with
  | .lenient => t.name
  | _ => "struct " ++ t.name

/-- What an array that is too short should have been. -/
def expectedLength : String :=
  let n := t.fields.length
  t.expected ++ " with " ++ Text.ofNat n ++ (if n = 1 then " element" else " elements")

/-- A record of which some fields have been written. -/
structure Partial (α : Type) where
  record : α
  /-- The fields of the type that have been written. -/
  names : List String := []
  /-- The other fields, latest first. -/
  others : Fields := []

/-- What is to be done with a field. -/
inductive Part (α : Type) where
  | field (f : RecordField α)
  | duplicate
  | other

/-- What a name stands for behind the fields that have been written. -/
def part (p : Partial α) (name : String) : Part α :=
  match t.fields.find? (·.name = name) with
  | none => .other
  | some f =>
    if p.names.contains name && !(t.form matches .lenient) then .duplicate else .field f

/-- The record, once all fields have been written. -/
def finish (p : Partial α) : Except DecodeError α :=
  match t.fields.find? fun f => f.presence = .required && !p.names.contains f.name with
  | some f => .error (.missingField f.name)
  | none =>
    match t.form with
    | .flat others => others p.record p.others.reverse
    | _ => .ok p.record

def setField (p : Partial α) (field : String × Json) : Except DecodeError (Partial α) := do
  match t.part p field.1 with
  | .field f => return { p with record := ← f.set p.record field.2, names := field.1 :: p.names }
  | .duplicate => .error (.duplicateField field.1)
  | .other => return { p with others := field :: p.others }

def decodeFields (fields : Fields) : Except DecodeError α :=
  (fields.foldlM t.setField { record := t.blank }).bind t.finish

/-- Sets fields from the items of an array; `index` counts the fields that are set. -/
def decodeItems (a : α) (index : Nat) : List (RecordField α) → List Json → Except DecodeError α
  | [], [] => .ok a
  | [], items => .error (.invalidLength (index + items.length) "fewer elements in array")
  | f :: fs, [] =>
    if f.presence = .optional then decodeItems a (index + 1) fs []
    else .error (.invalidLength index t.expectedLength)
  | f :: fs, item :: items => do
    let a ← f.set a item
    decodeItems a (index + 1) fs items

def ofJson : Json → Except DecodeError α
  | .obj fields => t.decodeFields fields
  | .arr items =>
    match t.form with
    | .strict => t.decodeItems t.blank 0 t.fields items
    | _ => .error (.invalidType (.arr items) t.expected)
  | j => .error (.invalidType j t.expected)

/-- Reads what follows the name of a field. -/
def readField (p : Partial α) (name : String) : Reader (Partial α) := do
  match t.part p name with
  | .field f =>
    readColon
    return { p with record := ← (f.set p.record).reader, names := name :: p.names }
  | .duplicate => faultAtEnd curly (DecodeError.duplicateField name).fault
  | .other =>
    readColon
    match t.form with
    | .flat _ => return { p with others := (name, ← readValue) :: p.others }
    | _ =>
      skipValue
      return p

def readFields : Reader α := do
  match t.finish (← readObject t.readField { record := t.blank }) with
  | .ok a => return a
  | .error e => Reader.fault e.fault

/-- Reads items of an array and its end. -/
def readItems (a : α) (index : Nat) : List (RecordField α) → Reader α
  | [] => do
    readArrayEnd
    return a
  | f :: fs => do
    if ← nextItem (index = 0) then readItems (← (f.set a).reader) (index + 1) fs
    else if f.presence = .optional then readItems a (index + 1) fs
    else faultAtEnd square (DecodeError.invalidLength index t.expectedLength).fault

/-- Reads a record that is an array. -/
def readArray : Reader α :=
  Reader.enclosed do
    match t.form with
    | .strict => t.readItems t.blank 0 t.fields
    | _ => faultAtEnd square (DecodeError.invalidType (.arr []) t.expected).fault

def reader : Reader α :=
  readBy t.expected fun
    | '\x7b' => some t.readFields
    | '[' => if t.form matches .flat _ then none else some t.readArray
    | _ => none

def decoder : Decoder α := ⟨t.ofJson, t.reader⟩

end RecordType
end GitDrift.Json
