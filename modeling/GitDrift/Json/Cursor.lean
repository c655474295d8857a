import GitDrift.Text.Diagnostic
import GitDrift.Text.Numeral

/-!
Reading a text from its beginning. A cursor knows how far a text has been read; what cannot be read
is a fault at a place, which is a line and a column. Columns count bytes of UTF-8, and a character
that is out of place is counted by its first byte.
-/
namespace GitDrift.Json

/-- What is wrong with a text. -/
inductive Fault where
  /-- The text ends within an array. -/
  | openArray
  | openObject
  | openString
  /-- The text ends where a value is to follow, or within a word or a number. -/
  | noValue
  | expectedColon
  | expectedArrayEnd
  | expectedObjectEnd
  | expectedWord
  | expectedValue
  | invalidEscape
  | invalidNumber
  | outOfRange
  /-- A string holds a control character. -/
  | controlCharacter
  | keyNotString
  /-- A surrogate stands alone. -/
  | loneSurrogate
  /-- The second half of a pair of surrogates is missing. -/
  | brokenPair
  | trailingComma
  /-- Something follows where nothing can. -/
  | trailing
  | tooDeep
  /-- A value is none of the expected type. -/
  | mismatch (reason : String)
deriving DecidableEq

namespace Fault

def message : Fault → String
  | openArray => "EOF while parsing a list"
  | openObject => "EOF while parsing an object"
  | openString => "EOF while parsing a string"
  | noValue => "EOF while parsing a value"
  | expectedColon => "expected `:`"
  | expectedArrayEnd => "expected `,` or `]`"
  | expectedObjectEnd => "expected `,` or `\x7d`"
  | expectedWord => "expected ident"
  | expectedValue => "expected value"
  | invalidEscape => "invalid escape"
  | invalidNumber => "invalid number"
  | outOfRange => "number out of range"
  | controlCharacter => "control character (\\u0000-\\u001F) found while parsing a string"
  | keyNotString => "key must be a string"
  | loneSurrogate => "lone leading surrogate in hex escape"
  | brokenPair => "unexpected end of hex escape"
  | trailingComma => "trailing comma"
  | trailing => "trailing characters"
  | tooDeep => "recursion limit exceeded"
  | mismatch reason => reason

/-- Whether more text could have made the fault good. -/
def isCutOff : Fault → Bool
  | openArray | openObject | openString | noValue => true
  | _ => false

end Fault

/-- A fault and its place. -/
structure ReadError where
  fault : Fault
  line : Nat
  column : Nat
deriving DecidableEq

open Text in
def ReadError.diagnostic (e : ReadError) : Diagnostic :=
  .applied "Error" [.text e.fault.message, .word ("line: " ++ ofNat e.line),
    .word ("column: " ++ ofNat e.column)]

structure Cursor where
  rest : List Char
  /-- More than the text has characters, which bounds what can be read from it. -/
  bound : Nat
  line : Nat := 1
  column : Nat := 0
  /-- How many arrays and objects may be opened within each other. -/
  levels : Nat := 127

namespace Cursor

/-- The cursor before a text. -/
def start (text : String) : Cursor := { rest := text.toList, bound := text.length + 1 }

/-- Passes the next character. -/
def next (c : Cursor) : Cursor :=
  match c.rest with
  | [] => c
  | ch :: rest =>
    if ch = '\n' then { c with rest, line := c.line + 1, column := 0 }
    else { c with rest, column := c.column + ch.utf8Size }

/-- Passes some characters. -/
def skip (n : Nat) (c : Cursor) : Cursor := Nat.repeat next n c

/-- A fault behind the next `n` bytes, which need not be whole characters. -/
def faultBehind (fault : Fault) : Nat → Cursor → ReadError
  | 0, c => ⟨fault, c.line, c.column⟩
  | n + 1, c =>
    match c.rest with
    | [] => ⟨fault, c.line, c.column⟩
    | ch :: _ =>
      if n + 1 < ch.utf8Size then ⟨fault, c.line, c.column + n + 1⟩
      else faultBehind fault (n + 1 - ch.utf8Size) c.next
termination_by n => n
decreasing_by
  have := ch.utf8Size_pos
  omega

end Cursor

/-- Reads something at a cursor. -/
abbrev Reader (α : Type) := StateT Cursor (Except ReadError) α

namespace Reader

variable {α : Type}

/-- A fault at the cursor. -/
def fault (f : Fault) : Reader α := fun c => .error (c.faultBehind f 0)

/-- A fault of the next character. -/
def faultNext (f : Fault) : Reader α := fun c => .error (c.faultBehind f 1)

/-- Passes the next character. -/
def next : Reader Unit := modify Cursor.next

/-- The next character. -/
def head? : Reader (Option Char) := return (← get).rest.head?

/-- Reads characters as long as they are of a kind. -/
def takeWhile (p : Char → Bool) : Reader (List Char) := do
  let s := (← get).rest.takeWhile p
  modify (Cursor.skip s.length)
  return s

/-- The next character behind blanks, which are passed. -/
def peek? : Reader (Option Char) := do
  let _ ← takeWhile fun c => c = ' ' || c = '\n' || c = '\t' || c = '\r'
  head?

/-- Reads what is between an opening bracket and the end of its closing one. -/
def enclosed (body : Reader α) : Reader α := do
  let levels := (← get).levels
  if levels = 0 then faultNext .tooDeep
  next
  modify fun c => { c with levels := levels - 1 }
  let a ← body
  modify fun c => { c with levels }
  return a

end Reader
end GitDrift.Json
