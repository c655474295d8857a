/-!
Whole numbers as text: an optional sign and ASCII digits, nothing else. A minus sign is for types
that have negative numbers, and a value outside the type's range is no numeral of it.
-/
namespace GitDrift.Text

def digit? (c : Char) : Option Nat :=
  if '0' ≤ c ∧ c ≤ '9' then some (c.toNat - 48) else none

/-- The value of a non-empty run of digits. -/
def digits? : List Char → Option Nat
  | [] => none
  | s => s.foldlM (fun n c => (digit? c).map (10 * n + ·)) 0

/-- Reads a number below `2 ^ bits`. -/
def unsigned? (bits : Nat) (s : List Char) : Option Nat := do
  let n ← digits? (match s with | '+' :: r => r | r => r)
  if n < Nat.pow 2 bits then some n else none

/-- Reads a number of two's complement of 64 bits. -/
def signed? (s : List Char) : Option Int := do
  match s with
  | '-' :: r =>
    let n ← digits? r
    if n ≤ 0x8000000000000000 then some (-n) else none
  | s =>
    let n ← unsigned? 63 s
    some n

/-- Decimal digits of a number, without leading zeros. -/
def decimalDigits (n : Nat) : List Char :=
  if n < 10 then [Char.ofNat (48 + n)]
  else decimalDigits (n / 10) ++ [Char.ofNat (48 + n % 10)]

/-- A number in decimal. -/
def ofNat (n : Nat) : String := String.ofList (decimalDigits n)

/-- A number in decimal, a negative one with a minus sign. -/
def ofInt (n : Int) : String :=
  if n < 0 then String.ofList ('-' :: decimalDigits n.natAbs) else ofNat n.natAbs

/-- Decimal digits, filled with zeros on the left to the given width. -/
def paddedDigits (width n : Nat) : List Char :=
  let ds := decimalDigits n
  List.replicate (width - ds.length) '0' ++ ds

end GitDrift.Text
