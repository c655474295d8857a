import GitDrift.Json
import GitDrift.Text.Numeral
import GitDrift.Text.Quoted

/-!
Writes JSON on one line, without blanks between tokens. Only quotes, backslashes and controls are
escaped; there is also a form in ASCII, in which any other character is written by its UTF-16 code
units.
-/
namespace GitDrift.Json

open Text

/-- An escape by one UTF-16 code unit. -/
def unitEscape (n : Nat) : List Char :=
  '\\' :: 'u' :: [hexChar (n / 4096 % 16), hexChar (n / 256 % 16), hexChar (n / 16 % 16),
    hexChar (n % 16)]

/-- The written form of a character inside a string. -/
def writeChar (c : Char) : List Char :=
  if c = '"' then ['\\', '"']
  else if c = '\\' then ['\\', '\\']
  else if c = '\x08' then ['\\', 'b']
  else if c = '\t' then ['\\', 't']
  else if c = '\n' then ['\\', 'n']
  else if c = '\x0c' then ['\\', 'f']
  else if c = '\r' then ['\\', 'r']
  else if c.toNat < 0x20 then unitEscape c.toNat
  else [c]

def writeString (s : String) : String :=
  String.ofList ('"' :: s.toList.flatMap writeChar ++ ['"'])

mutual

/-- The value on one line. -/
def render : Json → String
  | .null => "null"
  | .bool b => if b then "true" else "false"
  | .num n => n.text
  | .str s => writeString s
  | .arr items => "[" ++ renderItems items ++ "]"
  | .obj fields => "\x7b" ++ renderFields fields ++ "\x7d"

def renderItems : List Json → String
  | [] => ""
  | [item] => render item
  | item :: items => render item ++ "," ++ renderItems items

def renderFields : Fields → String
  | [] => ""
  | [(name, value)] => writeString name ++ ":" ++ render value
  | (name, value) :: fields => writeString name ++ ":" ++ render value ++ "," ++ renderFields fields

end

/-- A character in ASCII, by its UTF-16 code units if it is beyond that. -/
def asciiChar (c : Char) : List Char :=
  if c.toNat < 0x7f then [c]
  else if c.toNat < 0x10000 then unitEscape c.toNat
  else
    let n := c.toNat - 0x10000
    unitEscape (0xd800 + n / 0x400) ++ unitEscape (0xdc00 + n % 0x400)

/-- The value on one line, in ASCII. -/
def renderAscii (j : Json) : String := String.ofList (j.render.toList.flatMap asciiChar)

end GitDrift.Json
