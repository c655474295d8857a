import GitDrift.Json.Token

/-!
Reads JSON (RFC 8259). Arrays and objects are read member by member, so that each member can be read
in its own way. A value that is of no interest is passed, however deep it is.
-/
namespace GitDrift.Json

open Reader

variable {α σ : Type}

/-- Goes to the next item of an array, if there is one. The closing bracket is not passed. -/
def nextItem (first : Bool) : Reader Bool := do
  match ← peek? with
  | none => fault .openArray
  | some ']' => return false
  | some c =>
    if first then return true
    if c ≠ ',' then faultNext .expectedArrayEnd
    next
    match ← peek? with
    | none => fault .noValue
    | some ']' => faultNext .trailingComma
    | some _ => return true

/-- Reads the items of an array and its end. The fuel bounds their number. -/
def readItemsFrom (item : Reader α) : Nat → Bool → Reader (List α)
  | 0, _ => fault .openArray
  | fuel + 1, first => do
    if ← nextItem first then
      let a ← item
      return a :: (← readItemsFrom item fuel false)
    next
    return []

/-- Reads an array. -/
def readArray (item : Reader α) : Reader (List α) :=
  enclosed do readItemsFrom item (← get).bound true

/-- Reads the end of an array. -/
def readArrayEnd : Reader Unit := do
  match ← peek? with
  | none => fault .openArray
  | some ']' => next
  | some ',' =>
    next
    faultNext (if (← peek?) = some ']' then .trailingComma else .trailing)
  | some _ => faultNext .trailing

/-- Reads the name of the next field of an object, if there is one. The closing brace is not
passed. -/
def nextKey? (first : Bool) : Reader (Option String) := do
  match ← peek? with
  | none => fault .openObject
  | some '\x7d' => return none
  | some c =>
    if !first then
      if c ≠ ',' then faultNext .expectedObjectEnd
      next
      if (← peek?).isNone then fault .noValue
      if (← head?) = some '\x7d' then faultNext .trailingComma
    if (← head?) ≠ some '"' then faultNext .keyNotString
    return some (← readString)

/-- Reads the colon behind the name of a field. -/
def readColon : Reader Unit := do
  match ← peek? with
  | none => fault .openObject
  | some ':' => next
  | some _ => faultNext .expectedColon

/-- Reads the fields of an object and its end; `field` reads what follows a name. The fuel bounds
their number. -/
def readFieldsFrom (field : σ → String → Reader σ) : Nat → Bool → σ → Reader σ
  | 0, _, _ => fault .openObject
  | fuel + 1, first, s => do
    match ← nextKey? first with
    | some name => readFieldsFrom field fuel false (← field s name)
    | none =>
      next
      return s

/-- Reads an object. -/
def readObject (field : σ → String → Reader σ) (start : σ) : Reader σ :=
  enclosed do readFieldsFrom field (← get).bound true start

/-- The closing one of two brackets, and the faults that its absence is. -/
structure Brackets where
  close : Char
  openEnd : Fault
  expectedEnd : Fault

def square : Brackets := ⟨']', .openArray, .expectedArrayEnd⟩

def curly : Brackets := ⟨'\x7d', .openObject, .expectedObjectEnd⟩

/-- A fault that is found within an array or object, and told where that could have ended. -/
def faultAtEnd (b : Brackets) (f : Fault) : Reader α := do
  let c ← peek?
  if c = some b.close then next
  else if c = some ',' && b.close = ']' then
    next
    let _ ← peek?
  fault f

/-- Reads a value that is neither an array nor an object. -/
def readScalar : Reader Json := do
  match ← head? with
  | some 'n' => next *> readWord ['u', 'l', 'l'] .null
  | some 't' => next *> readWord ['r', 'u', 'e'] (.bool true)
  | some 'f' => next *> readWord ['a', 'l', 's', 'e'] (.bool false)
  | some '"' => .str <$> readString
  | some c => if c = '-' || c.isDigit then .num <$> readNumber else faultNext .expectedValue
  | none => fault .expectedValue

/-- Reads a value; its objects have the fields that are written, in their order. The fuel bounds
the depth. -/
def readValueFrom : Nat → Reader Json
  | 0 => faultNext .tooDeep
  | fuel + 1 => do
    match ← peek? with
    | none => fault .noValue
    | some '[' => .arr <$> readArray (readValueFrom fuel)
    | some '\x7b' =>
      let field (fields : Fields) (name : String) : Reader Fields := do
        readColon
        return (name, ← readValueFrom fuel) :: fields
      return .obj (← readObject field []).reverse
    | some _ => readScalar

def readValue : Reader Json := readValueFrom 128

/-- Passes members and the closing bracket. The fuel bounds their number. -/
def skipMembersFrom (b : Brackets) (member : Reader Unit) : Nat → Reader Unit
  | 0 => fault b.openEnd
  | fuel + 1 => do
    member
    match ← peek? with
    | none => fault b.openEnd
    | some c =>
      if c ≠ ',' && c ≠ b.close then faultNext b.expectedEnd
      next
      if c = ',' then skipMembersFrom b member fuel

/-- Passes an array or object from its opening bracket. -/
def skipMembers (b : Brackets) (member : Reader Unit) : Reader Unit := do
  next
  match ← peek? with
  | none => fault b.openEnd
  | some c =>
    if c = b.close then next else skipMembersFrom b member (← get).bound

/-- Passes the name of a field and its colon. -/
def skipKey : Reader Unit := do
  match ← peek? with
  | none => fault .openObject
  | some '"' => skipString
  | some _ => faultNext .keyNotString
  readColon

/-- Passes a value. The fuel bounds the depth. -/
def skipValueFrom : Nat → Reader Unit
  | 0 => fault .noValue
  | fuel + 1 => do
    match ← peek? with
    | none => fault .noValue
    | some '"' => skipString
    | some '[' => skipMembers square (skipValueFrom fuel)
    | some '\x7b' => skipMembers curly (skipKey *> skipValueFrom fuel)
    | some c => if c = '-' || c.isDigit then skipNumber else discard readScalar

def skipValue : Reader Unit := do skipValueFrom (← get).bound

/-- Reads a text that is one value with blanks around it. -/
def readText (value : Reader α) (s : String) : Except ReadError α :=
  let whole : Reader α := do
    let a ← value
    if (← peek?).isSome then faultNext .trailing
    return a
  (whole (.start s)).map Prod.fst

/-- The normal form of the value that a text is. -/
def parse (s : String) : Except ReadError Json := (readText readValue s).map normalize

def parse? (s : String) : Option Json := (parse s).toOption

end GitDrift.Json
