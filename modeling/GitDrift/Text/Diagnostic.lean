import GitDrift.Text.Quoted

/-!
Diagnostic notation: how values are shown to those who look for a fault. A value is a name, with
its parts in parentheses or its named fields in braces. Two dots stand for fields that are not
shown.
-/
namespace GitDrift.Text

inductive Diagnostic where
  /-- A number, or a name alone. -/
  | word (s : String)
  /-- A text, in quotes. -/
  | text (s : String)
  | applied (name : String) (parts : List Diagnostic)
  | record (name : String) (fields : List (String × Diagnostic)) (more : Bool)

namespace Diagnostic

def ofOption (f : α → Diagnostic) : Option α → Diagnostic
  | none => .word "None"
  | some a => .applied "Some" [f a]

mutual

def render : Diagnostic → String
  | .word s => s
  | .text s => quote s
  | .applied name parts => name ++ "(" ++ renderParts parts ++ ")"
  | .record name fields more =>
    match fields with
    | [] => name ++ (if more then " \x7b .. \x7d" else "")
    | fields =>
      name ++ " \x7b " ++ renderFields fields ++ (if more then ", .. \x7d" else " \x7d")

def renderParts : List Diagnostic → String
  | [] => ""
  | [d] => d.render
  | d :: ds => d.render ++ ", " ++ renderParts ds

def renderFields : List (String × Diagnostic) → String
  | [] => ""
  | [(n, d)] => n ++ ": " ++ d.render
  | (n, d) :: ds => n ++ ": " ++ d.render ++ ", " ++ renderFields ds

end

end Diagnostic
end GitDrift.Text
