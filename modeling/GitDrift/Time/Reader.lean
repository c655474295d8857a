import GitDrift.Text.Blank
import GitDrift.Time.Moment

/-!
Reads times in RFC 3339. Blanks may stand between the parts, a blank may take the place of the `T`,
and any number of digits may follow the decimal point.
-/
namespace GitDrift.Moment

open Text

/-- Why a text is no time. -/
inductive ReadError where
  | outOfRange
  /-- The time is out of range in UTC, but not where it was written. -/
  | impossible
  | invalid
  | tooShort
  | tooLong
deriving DecidableEq

def ReadError.message : ReadError → String
  | .outOfRange => "input is out of range"
  | .impossible => "no possible date and time matching input"
  | .invalid => "input contains invalid characters"
  | .tooShort => "premature end of input"
  | .tooLong => "trailing input"

abbrev Reader (α : Type) := List Char → Except ReadError (α × List Char)

def skipBlank (s : List Char) : List Char := s.dropWhile isBlank

/-- A number of at least one digit and at most `width`; a larger one than 64 bits hold is out of
range. -/
def number (width : Nat) : Reader Nat := fun s =>
  let ds := (s.take width).takeWhile Char.isDigit
  if s.isEmpty then .error .tooShort
  else
    match digits? ds with
    | none => .error .invalid
    | some n => if n < 0x8000000000000000 then .ok (n, s.drop ds.length) else .error .outOfRange

/-- A year: four digits, or a sign and any number of digits. A year that 32 bits cannot hold is out
of range whatever follows it. -/
def year : Reader Int := fun s => do
  let (n, s) ← match skipBlank s with
    | '-' :: s => (number s.length s).map fun (n, s) => (-(n : Int), s)
    | '+' :: s => (number s.length s).map fun (n, s) => ((n : Int), s)
    | s => (number 4 s).map fun (n, s) => ((n : Int), s)
  if -0x80000000 ≤ n ∧ n ≤ 0x7fffffff then .ok (n, s) else .error .outOfRange

/-- Two digits for a value of a given range. -/
def two (lo hi : Nat) : Reader Nat := fun s =>
  (number 2 (skipBlank s)).bind fun (n, s) =>
    if lo ≤ n ∧ n ≤ hi then .ok (n, s) else .error .outOfRange

/-- A character that has to come next, after blanks. -/
def mark (c : Char) : Reader Unit := fun s =>
  match skipBlank s with
  | [] => .error .tooShort
  | d :: s => if d = c then .ok ((), s) else .error .invalid

/-- What stands between a day and the time of day. -/
def dayEnd : Reader Unit := fun s =>
  match s with
  | [] => .error .tooShort
  | c :: s => if c = 't' ∨ c = 'T' ∨ c = ' ' then .ok ((), s) else .error .invalid

/-- The nanoseconds that a fraction says; digits behind the ninth count for nothing. -/
def fraction : Reader Nat := fun s =>
  match s with
  | '.' :: s =>
    (number 9 s).map fun (n, rest) =>
      (n * Nat.pow 10 (9 - (s.length - rest.length)), rest.dropWhile Char.isDigit)
  | s => .ok (0, s)

/-- Two digits of an offset. What could be the first of two characters is too short, but a character
beyond ASCII is none of a number. -/
def offsetDigits : Reader (Nat × Nat) := fun s =>
  match s with
  | a :: b :: s =>
    match digit? a, digit? b with
    | some m, some n => .ok ((m, n), s)
    | _, _ => .error .invalid
  | [a] => .error (if a.toNat < 0x80 then .tooShort else .invalid)
  | [] => .error .tooShort

/-- The hours and minutes of an offset from UTC, in seconds. -/
def offsetSize : Reader Nat := fun s => do
  let ((h1, h2), s) ← offsetDigits s
  let ((m1, m2), s) ← offsetDigits (s.dropWhile fun c => c = ':' || isBlank c)
  if m1 ≤ 5 then .ok ((h1 * 10 + h2) * 3600 + (m1 * 10 + m2) * 60, s) else .error .outOfRange

/-- An offset from UTC, in seconds. -/
def offset : Reader Int := fun s =>
  let size (sign : Int) (s : List Char) : Except ReadError (Int × List Char) :=
    (offsetSize s).map fun (n, s) => (sign * n, s)
  match s with
  | [] => .error .tooShort
  | c :: rest =>
    if (s.take 3).map Char.toUpper = ['U', 'T', 'C'] then .ok (0, s.drop 3)
    else if c = 'Z' ∨ c = 'z' then .ok (0, rest)
    else if c = '+' then size 1 rest
    else if c = '-' ∨ c = Char.ofNat 0x2212 then size (-1) rest
    else .error .invalid

/-- Reads a time. -/
def parse (text : String) : Except ReadError Moment := do
  let (y, s) ← year text.toList
  let ((), s) ← mark '-' s
  let (month, s) ← two 1 12 s
  let ((), s) ← mark '-' s
  let (day, s) ← two 1 31 s
  let ((), s) ← dayEnd s
  let (hour, s) ← two 0 23 s
  let ((), s) ← mark ':' s
  let (minute, s) ← two 0 59 s
  let ((), s) ← mark ':' s
  let (second, s) ← two 0 60 s
  let (nanos, s) ← fraction s
  let (shift, s) ← offset (skipBlank s)
  if !(skipBlank s).isEmpty then throw .tooLong
  if CalendarDay.daysInMonth y month < day ∨ y < -262143 ∨ 262142 < y ∨ 86400 ≤ shift.natAbs then
    throw .outOfRange
  let ofDay := hour * 3600 + minute * 60 + min second 59
  let t : Moment := ⟨CalendarDay.toDays ⟨y, month, day⟩ * 86400 + ofDay - shift,
    nanos + if second = 60 then 1000000000 else 0⟩
  if t.IsValid then return t else throw .impossible

end GitDrift.Moment
