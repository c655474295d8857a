import GitDrift.Json
import GitDrift.Text.Numeral
import GitDrift.Text.Search

/-!
Writes JSON values as YAML in block style. A text stands without quotes where that leaves no doubt
that it is a text, on several lines where it has several, and between single quotes otherwise.
-/
namespace GitDrift.Yaml

open Text

/-- Words that stand for truth values or for nothing. -/
def reservedWords : List String :=
  ["true", "false", "yes", "no", "on", "off", "y", "n", "null", "~"]

/-- Characters that a text without quotes does not start with. -/
def indicators : List Char :=
  ['-', '?', ':', ',', '[', ']', '\x7b', '\x7d', '#', '&', '*', '!', '|', '>', '\'', '"', '%', '@',
    Char.ofNat 0x60]

/-- Whether a text starts like a number. -/
def looksNumeric (s : List Char) : Bool :=
  match s with
  | c :: s => (digit? c).isSome || ((c = '+' || c = '.') && s.any fun d => (digit? d).isSome)
  | [] => false

/-- Whether a text can stand without quotes. -/
def isPlain (s : String) : Bool :=
  let cs := s.toList
  let first := cs.head?.getD ' '
  let last := cs.getLast?.getD ' '
  first ≠ ' ' && last ≠ ' ' && last ≠ ':' && !indicators.contains first &&
    !looksNumeric cs && !reservedWords.contains s.toLower && !occursAny [": ", " #"] cs

/-- A text between single quotes, which are doubled inside. -/
def quoted (s : String) : String :=
  let body := s.toList.flatMap fun c => if c = '\'' then ['\'', '\''] else [c]
  String.ofList ('\'' :: body ++ ['\''])

def scalarText (s : String) : String := if isPlain s then s else quoted s

/-- Lines moved to the right; empty lines stay empty. -/
def indent (ls : List String) : List String := ls.map fun l => if l.isEmpty then l else "  " ++ l

/-- The lines that a text consists of. -/
def textLines (s : String) : List String := (s.splitOn "\n")

/-- A value on one line, if it is written on one. -/
def inline? : Json → Option String
  | .null => some "null"
  | .bool b => some (if b then "true" else "false")
  | .num n => some n.text
  | .str s => if s.toList.contains '\n' then none else some (scalarText s)
  | .arr [] => some "[]"
  | .obj [] => some "\x7b\x7d"
  | .arr _ | .obj _ => none

/-- Puts a dash before the first of some lines, and moves the others below it. -/
def dashed : List String → List String
  | [] => ["-"]
  | l :: ls => ("- " ++ l) :: indent ls

/-- The lines of a field whose value takes the given lines. -/
def fieldLines (name : String) (value : Json) (ls : List String) : List String :=
  match inline? value, value with
  | some s, _ => [name ++ ": " ++ s]
  | none, .str _ => (name ++ ": |-") :: indent ls
  | none, .arr _ => (name ++ ":") :: ls
  | none, _ => (name ++ ":") :: indent ls

mutual

/-- The lines of a value. -/
def lines : Json → List String
  | .arr (item :: items) => itemLines (item :: items)
  | .obj (field :: fields) => objectLines (field :: fields)
  | .str s => if s.toList.contains '\n' then textLines s else [scalarText s]
  | value => (inline? value).toList

def itemLines : List Json → List String
  | [] => []
  | item :: items => dashed (lines item) ++ itemLines items

def objectLines : Json.Fields → List String
  | [] => []
  | (name, value) :: fields => fieldLines name value (lines value) ++ objectLines fields

end

/-- The document of a value. Every line of it ends with a line break. -/
def render (value : Json) : String := String.join ((lines value).map (· ++ "\n"))

end GitDrift.Yaml
