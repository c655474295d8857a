import GitDrift.Text.Extending
import GitDrift.Text.Unprintable

/-!
Quoted texts in messages. A text is put between double quotes; quotes, backslashes and the common
controls get a short escape, and a character that cannot be seen, or that would attach to the one
before it, is written by its code point.
-/
namespace GitDrift.Text

/-- The lower-case digit of a value below sixteen. -/
def hexChar (n : Nat) : Char :=
  if n < 10 then Char.ofNat (48 + n) else Char.ofNat (87 + n)

/-- Hexadecimal digits of a number, without leading zeros. -/
def hexDigits (n : Nat) : List Char :=
  if n < 16 then [hexChar n] else hexDigits (n / 16) ++ [hexChar (n % 16)]

/-- An escape by code point, such as `\u{301}`. -/
def codePointEscape (c : Char) : List Char :=
  ['\\', 'u', '\x7b'] ++ hexDigits c.toNat ++ ['\x7d']

def escapeChar (c : Char) : List Char :=
  if c = '\x00' then ['\\', '0']
  else if c = '\t' then ['\\', 't']
  else if c = '\r' then ['\\', 'r']
  else if c = '\n' then ['\\', 'n']
  else if c = '"' then ['\\', '"']
  else if c = '\\' then ['\\', '\\']
  else if isExtending c || isUnprintable c then codePointEscape c
  else [c]

/-- The text between double quotes, escaped. -/
def quote (s : String) : String :=
  String.ofList ('"' :: s.toList.flatMap escapeChar ++ ['"'])

end GitDrift.Text
