import GitDrift.Json.Reader
import GitDrift.Text.Quoted

/-!
Typed values: how they are taken out of a JSON value and how they are read from a text, and what is
said about a value that does not fit. Both ways accept the same values, but a text is read no
further than to its first fault.
-/
namespace GitDrift.Json

/-- How a value that was found is named in a message. -/
def describe : Json → String
  | .null => "null"
  | .bool b => "boolean `" ++ (if b then "true" else "false") ++ "`"
  | .num (.whole n) => "integer `" ++ Text.ofInt n ++ "`"
  | .num n => "floating point `" ++ n.text ++ "`"
  | .str s => "string " ++ Text.quote s
  | .arr _ => "sequence"
  | .obj _ => "map"

/-- Why a JSON value is none of the expected type. -/
inductive DecodeError where
  | invalidType (found : Json) (expected : String)
  | invalidValue (found : Json) (expected : String)
  | unknownVariant (name : String) (expected : List String)
  | missingField (name : String)
  | duplicateField (name : String)
  | invalidLength (length : Nat) (expected : String)
  /-- A text that is not what its type says, with that type's own reason. -/
  | invalidText (reason : String)
deriving Inhabited

/-- Names of which one is expected. -/
def oneOf : List String → String
  | [] => "there are no variants"
  | [a] => "expected `" ++ a ++ "`"
  | [a, b] => "expected `" ++ a ++ "` or `" ++ b ++ "`"
  | names => "expected one of " ++ ", ".intercalate (names.map fun a => "`" ++ a ++ "`")

namespace DecodeError

def message : DecodeError → String
  | invalidType found expected => "invalid type: " ++ found.describe ++ ", expected " ++ expected
  | invalidValue found expected => "invalid value: " ++ found.describe ++ ", expected " ++ expected
  | unknownVariant name expected => "unknown variant `" ++ name ++ "`, " ++ oneOf expected
  | missingField name => "missing field `" ++ name ++ "`"
  | duplicateField name => "duplicate field `" ++ name ++ "`"
  | invalidLength length expected =>
    "invalid length " ++ Text.ofNat length ++ ", expected " ++ expected
  | invalidText reason => reason

def fault (e : DecodeError) : Fault := .mismatch e.message

end DecodeError

/-- How values of a type are taken out of JSON, and how they are read from a text. -/
structure Decoder (α : Type) where
  /-- Takes a value out of JSON. -/
  ofJson : Json → Except DecodeError α
  /-- Reads a value from a text. -/
  reader : Reader α

instance : CoeFun (Decoder α) fun _ => Json → Except DecodeError α := ⟨Decoder.ofJson⟩

/-- The value at the cursor is none of the expected type. -/
def mismatch (expected : String) : Reader α := do
  let found ← match ← Reader.head? with
    | some '[' => pure (.arr [])
    | some '\x7b' => pure (.obj [])
    | _ => readScalar
  Reader.fault (DecodeError.invalidType found expected).fault

/-- Reads a value in a way that depends on its first character. -/
def readBy (expected : String) (choose : Char → Option (Reader α)) : Reader α := do
  match ← Reader.peek? with
  | none => Reader.fault .noValue
  | some c => (choose c).getD (mismatch expected)

namespace Decoder

def map (f : α → β) (d : Decoder α) : Decoder β where
  ofJson j := (d j).map f
  reader := f <$> d.reader

/-- Values that have to satisfy a rule of their own. -/
def refine (f : α → Except DecodeError β) (d : Decoder α) : Decoder β where
  ofJson j := (d j).bind f
  reader := do
    match f (← d.reader) with
    | .ok b => return b
    | .error e => Reader.fault e.fault

/-- Any value, as it is written. -/
def raw : Decoder Json := ⟨.ok, readValue⟩

/-- Any value, in its normal form. -/
def any : Decoder Json := raw.map normalize

/-- A string that is expected under a given name. -/
def text (expected : String) : Decoder String where
  ofJson
    | .str s => .ok s
    | j => .error (.invalidType j expected)
  reader := readBy expected fun c => if c = '"' then some readString else none

def string : Decoder String := text "a string"

def boolean : Decoder Bool where
  ofJson
    | .bool b => .ok b
    | j => .error (.invalidType j "a boolean")
  reader := readBy "a boolean" fun
    | 't' => some (Reader.next *> readWord ['r', 'u', 'e'] true)
    | 'f' => some (Reader.next *> readWord ['a', 'l', 's', 'e'] false)
    | _ => none

def number (expected : String) : Decoder Number where
  ofJson
    | .num n => .ok n
    | j => .error (.invalidType j expected)
  reader := readBy expected fun c => if c = '-' || c.isDigit then some readNumber else none

/-- A whole number from `lo` to `hi`, for a type of the given name. -/
def integer (lo hi : Int) (name : String) : Decoder Int :=
  (number name).refine fun
    | .whole n => if lo ≤ n ∧ n ≤ hi then .ok n else .error (.invalidValue (.num (.whole n)) name)
    | n => .error (.invalidType (.num n) name)

def int64 : Decoder Int := integer (-0x8000000000000000) 0x7fffffffffffffff "i64"

def uint16 : Decoder Int := integer 0 0xffff "u16"

/-- A value that may be null. -/
def optional (d : Decoder α) : Decoder (Option α) where
  ofJson
    | .null => .ok none
    | j => (d j).map some
  reader := do
    if (← Reader.peek?) = some 'n' then Reader.next *> readWord ['u', 'l', 'l'] none
    else some <$> d.reader

def list (d : Decoder α) : Decoder (List α) where
  ofJson
    | .arr items => items.mapM d
    | j => .error (.invalidType j "a sequence")
  reader := readBy "a sequence" fun c => if c = '[' then some (readArray d.reader) else none

/-- An object whose fields all have values of one type, as a list in the order that is written. -/
def fieldsOf (d : Decoder α) : Decoder (List (String × α)) where
  ofJson
    | .obj fields => fields.mapM fun (n, v) => (d v).map fun a => (n, a)
    | j => .error (.invalidType j "a map")
  reader :=
    let field (known : List (String × α)) (name : String) : Reader (List (String × α)) := do
      readColon
      return (name, ← d.reader) :: known
    readBy "a map" fun c =>
      if c = '\x7b' then some (List.reverse <$> readObject field []) else none

/-- One of some names, alone or as the only field of an object that has null as its value. -/
def variant (names : List (String × α)) : Decoder α where
  ofJson
    | .str s => named s
    | .obj [(n, v)] => do
      let a ← named n
      match v with
      | .null => return a
      | v => .error (.invalidType v "unit")
    | .obj fields => .error (.invalidValue (.obj fields) "map with a single key")
    | j => .error (.invalidType j "string or map")
  reader := do
    match ← Reader.peek? with
    | none => Reader.fault .noValue
    | some '"' => readName
    | some '\x7b' =>
      let a ← Reader.enclosed do
        let a ← readName
        readColon
        readBy "unit" fun c =>
          if c = 'n' then some (Reader.next *> readWord ['u', 'l', 'l'] a) else none
      match ← Reader.peek? with
      | none => Reader.fault .openObject
      | some '\x7d' =>
        Reader.next
        return a
      | some _ => Reader.fault .expectedValue
    | some _ => Reader.faultNext .expectedValue
where
  named (s : String) : Except DecodeError α :=
    match names.lookup s with
    | some a => .ok a
    | none => .error (.unknownVariant s (names.map Prod.fst))
  readName : Reader α := ((text "variant identifier").refine named).reader

end Decoder
end GitDrift.Json
