import GitDrift.Data.CodeRanges
import GitDrift.Text.Utf8

/-!
Percent encoding (URL standard, section 1.3): a byte is written as `%` and two hexadecimal digits.
-/
namespace GitDrift.Url

open Text

/-- C0 controls and everything that is not ASCII. -/
def isControlOrBeyond (c : Char) : Bool := c.toNat < 0x20 || 0x7e < c.toNat

/-- What has to be escaped in a path: the path percent-encode set. -/
def isUnsafeInPath (c : Char) : Bool :=
  isControlOrBeyond c || c = ' ' || c = '"' || c = '<' || c = '>' || c = (Char.ofNat 0x60) ||
    c = '#' || c = '?' || c = '\x7b' || c = '\x7d'

/-- An upper-case hexadecimal digit. -/
def upperHexChar (n : Nat) : Char :=
  if n < 10 then Char.ofNat (48 + n) else Char.ofNat (55 + n)

def escapeByte (b : Nat) : List Char := ['%', upperHexChar (b / 16), upperHexChar (b % 16)]

/-- Escapes the bytes of the characters that satisfy `p`. -/
def percentEncode (p : Char → Bool) (s : List Char) : List Char :=
  s.flatMap fun c => if p c then (encodeChar c).flatMap escapeByte else [c]

/-- The bytes that a text with escapes stands for; a `%` without two digits stands for itself. -/
def percentDecode : List Char → List Nat
  | [] => []
  | '%' :: a :: b :: s =>
    match hexDigit? a, hexDigit? b with
    | some x, some y => (16 * x + y) :: percentDecode s
    | _, _ => 0x25 :: percentDecode (a :: b :: s)
  | c :: s => encodeChar c ++ percentDecode s

end GitDrift.Url
