import GitDrift.Data.CodeRanges
import GitDrift.Json
import GitDrift.Json.Cursor

/-!
Tokens of JSON (RFC 8259): words, strings and numbers. Strings and numbers can be read, or only
passed; what is passed need not have a value, so that a surrogate may stand alone in it and a number
may be of any size.
-/
namespace GitDrift.Json

open Text Reader

variable {α : Type}

/-- Reads the rest of a word, which has a given meaning. -/
def readWord (word : List Char) (meaning : α) : Reader α :=
  match word with
  | [] => return meaning
  | w :: word => do
    match ← head? with
    | none => fault .noValue
    | some c =>
      if c = w then next else faultNext .expectedWord
      readWord word meaning

/-- Reads the four digits of an escape by code unit. -/
def readUnit : Reader Nat := fun c =>
  let digits := c.rest.take 4
  match digits.mapM hexDigit? with
  | some [a, b, d, e] => .ok (((a * 16 + b) * 16 + d) * 16 + e, c.skip 4)
  | _ =>
    let size := (String.ofList digits).utf8ByteSize
    .error (c.faultBehind (if size < 4 then .openString else .invalidEscape) 4)

/-- Reads a character that has to follow in an escape of a pair. -/
def readPairMark (mark : Char) : Reader Unit := do
  match ← head? with
  | none => fault .openString
  | some c => if c = mark then next else faultNext .brokenPair

/-- Reads the character of an escape by code unit, which takes two escapes above the first
plane. -/
def readCodePoint : Reader Char := do
  let hi ← readUnit
  if hi < 0xd800 ∨ 0xdfff < hi then return Char.ofNat hi
  if 0xdbff < hi then fault .loneSurrogate
  readPairMark '\\'
  readPairMark 'u'
  let lo ← readUnit
  if lo < 0xdc00 ∨ 0xdfff < lo then fault .loneSurrogate
  return Char.ofNat (0x10000 + (hi - 0xd800) * 0x400 + (lo - 0xdc00))

/-- The character that a letter behind a backslash stands for. -/
def escaped? : Char → Option Char
  | '"' => some '"'
  | '\\' => some '\\'
  | '/' => some '/'
  | 'b' => some '\x08'
  | 'f' => some '\x0c'
  | 'n' => some '\n'
  | 'r' => some '\r'
  | 't' => some '\t'
  | _ => none

/-- Reads an escape behind its backslash, with a reader for those by code unit. -/
def readEscape (unit : Reader α) (letter : Char → α) : Reader α := do
  match ← head? with
  | none => fault .openString
  | some 'u' =>
    next
    unit
  | some c =>
    match escaped? c with
    | some e =>
      next
      return letter e
    | none => faultNext .invalidEscape

/-- Characters that stand for themselves in a string. -/
def isPlain (c : Char) : Bool := c ≠ '"' && c ≠ '\\' && 0x20 ≤ c.toNat

/-- Reads the rest of a string behind `acc`, latest first. The fuel bounds the number of escapes. -/
def readStringFrom : Nat → List Char → Reader String
  | 0, _ => fault .openString
  | fuel + 1, acc => do
    let acc := (← takeWhile isPlain).reverse ++ acc
    match ← head? with
    | none => fault .openString
    | some '"' =>
      next
      return String.ofList acc.reverse
    | some '\\' =>
      next
      let e ← readEscape readCodePoint id
      readStringFrom fuel (e :: acc)
    | some _ => faultNext .controlCharacter

/-- Reads a string from its opening quote. -/
def readString : Reader String := do
  next
  readStringFrom (← get).bound []

/-- Passes the rest of a string. The fuel bounds the number of escapes. -/
def skipStringRest : Nat → Reader Unit
  | 0 => fault .openString
  | fuel + 1 => do
    let _ ← takeWhile isPlain
    match ← head? with
    | none => fault .openString
    | some '"' => next
    | some '\\' =>
      next
      readEscape (discard readUnit) fun _ => ()
      skipStringRest fuel
    | some _ => fault .controlCharacter

/-- Passes a string from its opening quote. -/
def skipString : Reader Unit := do
  next
  skipStringRest (← get).bound

/-- A number as it is written. -/
structure Numeral where
  negative : Bool
  whole : List Char
  fraction : List Char
  /-- Whether the exponent is negative, and its digits. -/
  exponent : Option (Bool × List Char)

/-- Reads digits, of which there has to be one. -/
def readDigits (atEnd : Fault) : Reader (List Char) := do
  let ds ← takeWhile Char.isDigit
  if ds.isEmpty then
    if (← head?).isNone then fault atEnd else faultNext .invalidNumber
  return ds

/-- Reads the exponent that may follow a number's digits. -/
def readExponent (atEnd : Fault) : Reader (Option (Bool × List Char)) := do
  let c ← head?
  if c = some 'e' ∨ c = some 'E' then
    next
    let sign ← head?
    if sign = some '+' ∨ sign = some '-' then next
    return some (sign = some '-', ← readDigits atEnd)
  else return none

/-- Reads a number's digits; `atEnd` is the fault of a text that ends within them. -/
def readNumeral (atEnd : Fault) : Reader Numeral := do
  let negative := (← head?) = some '-'
  if negative then next
  let whole ← if (← head?) = some '0' then next *> pure ['0'] else readDigits atEnd
  if whole = ['0'] && (← head?).any Char.isDigit then faultNext .invalidNumber
  let fraction ← if (← head?) = some '.' then next *> readDigits atEnd else pure []
  return { negative, whole, fraction, exponent := ← readExponent atEnd }

/-- Goes on with a number as long as its digits keep it below a limit, and gives the number and the
digits that are left. -/
def digitsBelow (limit : Nat) : Nat → List Char → Nat × List Char
  | n, [] => (n, [])
  | n, d :: ds =>
    let m := 10 * n + (digit? d).getD 0
    if m < limit then digitsBelow limit m ds else (n, d :: ds)

/-- A double times a power of ten, rounded at each step: the greatest power that is a double is
`10 ^ 308`. None when that is beyond all doubles. -/
def scaled? (f : Double) (e : Int) : Option Double :=
  let power (n : Nat) : Double := (Double.ofFraction? (Nat.pow 10 n) 1).getD .zero
  let divided (f : Double) (n : Nat) : Double := (f.div? (power n)).getD .zero
  if f.mantissa = 0 ∨ e < -616 then some .zero
  else if e < -308 then some (divided (divided f 308) (-e - 308).toNat)
  else if e < 0 then some (divided f (-e).toNat)
  else if e ≤ 308 then f.mul? (power e.toNat)
  else none

namespace Numeral

variable (n : Numeral)

/-- The digits that count, as a word of 64 bits, and the power of ten that it is multiplied by. Of
what the word cannot hold, whole digits raise the power and decimal places go by the board. -/
def significand : Nat × Int :=
  let (m, left) := digitsBelow 0x10000000000000000 0 n.whole
  let (m, lost) := digitsBelow 0x10000000000000000 m n.fraction
  (m, left.length - (n.fraction.length - lost.length : Nat))

/-- The double that is meant, or how many digits are left behind the one that makes it too
large. -/
def size : Except Nat Double :=
  let (m, e) := n.significand
  let f := (Double.ofFraction? m 1).getD .zero
  let (small, ds) := n.exponent.getD (false, [])
  match digitsBelow 0x80000000 0 ds with
  | (p, []) =>
    match scaled? f (if small then e - p else e + p) with
    | some f => .ok f
    | none => .error 0
  | (_, _ :: left) => if m = 0 ∨ small then .ok .zero else .error left.length

/-- The number that is meant. Whole numbers from `-2 ^ 63` to `2 ^ 64 - 1` are read as such; a
negative zero and all others are doubles. -/
def number : Except Nat Number :=
  let whole := (digits? n.whole).getD 0
  let fits := if n.negative then 0 < whole && whole ≤ 0x8000000000000000
    else whole < 0x10000000000000000
  if n.fraction.isEmpty && n.exponent.isNone && fits then
    .ok (.whole (if n.negative then -(whole : Int) else whole))
  else n.size.map (.double n.negative)

end Numeral

/-- Reads a number. -/
def readNumber : Reader Number := do
  match (← readNumeral .noValue).number with
  | .ok n => return n
  | .error left => fun c => .error ⟨.outOfRange, c.line, c.column - left⟩

/-- Passes a number. -/
def skipNumber : Reader Unit := discard (readNumeral .invalidNumber)

end GitDrift.Json
