import GitDrift.Data.CodeRanges
import GitDrift.Text.Blank
import GitDrift.Text.Numeral
import GitDrift.Text.Quoted

/-!
Network addresses as hosts (URL standard, section 3.5): IPv4 addresses in any of the forms that are
accepted, and IPv6 addresses.
-/
namespace GitDrift.Url

open Text

/-- The digits of a base below seventeen, as a number. -/
def digitsInBase? (base : Nat) (s : List Char) : Option Nat :=
  s.foldlM (fun n c => match hexDigit? c with
    | some d => if d < base then some (base * n + d) else none
    | none => none) 0

/-- A part of an IPv4 address: decimal, octal after a leading zero, or hexadecimal after `0x`. -/
def addressPart? : List Char → Option Nat
  | [] => none
  | ['0'] => some 0
  | '0' :: c :: s =>
    if c = 'x' ∨ c = 'X' then digitsInBase? 16 s else digitsInBase? 8 (c :: s)
  | s => digitsInBase? 10 s

/-- The parts of a host between its dots; one dot at the end separates nothing. -/
def dottedParts (host : List Char) : List (List Char) :=
  let parts := pieces '.' host
  if 1 < parts.length ∧ parts.getLast? = some [] then parts.dropLast else parts

/-- Whether a host has to be read as an IPv4 address: its last part looks like a number. -/
def endsInNumber (host : List Char) : Bool :=
  match (dottedParts host).getLast? with
  | none => false
  | some last => (!last.isEmpty && last.all Char.isDigit) || (addressPart? last).isSome

/-- The bytes of an IPv4 address from the values of its parts: the last part fills the bytes that
the others leave. -/
def ipv4Value? (numbers : List Nat) : Option Nat :=
  match numbers.reverse with
  | [] => none
  | last :: others =>
    let n := others.length
    if 3 < n ∨ others.any (255 < ·) ∨ Nat.pow 256 (4 - n) ≤ last then none
    else some (others.reverse.foldl (fun acc b => acc * 256 + b) 0 * Nat.pow 256 (4 - n) + last)

/-- The address in four decimal parts. -/
def ipv4Text (address : Nat) : List Char :=
  let part (n : Nat) := decimalDigits (address / Nat.pow 256 n % 256)
  part 3 ++ '.' :: part 2 ++ '.' :: part 1 ++ '.' :: part 0

def ipv4? (host : List Char) : Option (List Char) := do
  let numbers ← (dottedParts host).mapM addressPart?
  let address ← ipv4Value? numbers
  some (ipv4Text address)

/-- A decimal byte of the IPv4 form inside an IPv6 address, which has no leading zeros. -/
def decimalByte? (s : List Char) : Option Nat :=
  match s with
  | '0' :: _ :: _ => none
  | s => (digits? s).filter (· < 256)

/-- The two pieces that the IPv4 form at the end of an IPv6 address stands for. -/
def ipv4Pieces? (s : List Char) : Option (List Nat) :=
  match (pieces '.' s).mapM decimalByte? with
  | some [a, b, c, d] => some [a * 256 + b, c * 256 + d]
  | _ => none

/-- A piece of an IPv6 address: up to four hexadecimal digits. -/
def ipv6Piece? (s : List Char) : Option Nat :=
  if s.isEmpty ∨ 4 < s.length then none else digitsInBase? 16 s

/-- Pieces between single colons; only the last may be in IPv4 form. -/
def ipv6Pieces? : List (List Char) → Option (List Nat)
  | [] => some []
  | [s] => if s.contains '.' then ipv4Pieces? s else (ipv6Piece? s).map ([·])
  | s :: rest => do
    let n ← ipv6Piece? s
    let ns ← ipv6Pieces? rest
    some (n :: ns)

/-- Pieces of one side of a double colon, which may be empty. -/
def ipv6Side? (s : List Char) : Option (List Nat) :=
  if s.isEmpty then some [] else ipv6Pieces? (pieces ':' s)

/-- The parts before and after the first double colon. -/
def cutAtDoubleColon? : List Char → Option (List Char × List Char)
  | ':' :: ':' :: s => some ([], s)
  | c :: s => (cutAtDoubleColon? s).map fun (l, r) => (c :: l, r)
  | [] => none

/-- The eight pieces of an IPv6 address. A double colon stands for one or more zero pieces. -/
def ipv6? (s : List Char) : Option (List Nat) :=
  match cutAtDoubleColon? s with
  | none => (ipv6Pieces? (pieces ':' s)).filter (·.length = 8)
  | some (left, right) => do
    if left.contains '.' then none
    let ls ← ipv6Side? left
    let rs ← ipv6Side? right
    let n := ls.length + rs.length
    if 7 < n then none else some (ls ++ List.replicate (8 - n) 0 ++ rs)

/-- The length of the run of zeros that a list starts with. -/
def zeroRun (ns : List Nat) : Nat := (ns.takeWhile (· = 0)).length

/-- The first longest run of at least two zeros: where it starts and how long it is. -/
def longestZeroRun (ns : List Nat) : Option (Nat × Nat) :=
  let best := (List.range ns.length).foldl (fun best i =>
    if best.2 < zeroRun (ns.drop i) then (i, zeroRun (ns.drop i)) else best) (0, 1)
  if 1 < best.2 then some best else none

def joinPieces (ns : List Nat) : List Char :=
  [':'].intercalate (ns.map hexDigits)

/-- The shortest written form: the longest run of zeros becomes a double colon. -/
def ipv6Text (ns : List Nat) : List Char :=
  match longestZeroRun ns with
  | none => joinPieces ns
  | some (start, n) => joinPieces (ns.take start) ++ ':' :: ':' :: joinPieces (ns.drop (start + n))

end GitDrift.Url
