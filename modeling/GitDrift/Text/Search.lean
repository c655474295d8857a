/-!
Looking for a text inside another.
-/
namespace GitDrift.Text

/-- Whether the first text occurs in the second. -/
def occursIn (part : List Char) : List Char → Bool
  | [] => part.isEmpty
  | c :: s => part.isPrefixOf (c :: s) || occursIn part s

/-- Whether one of some texts occurs in a text. -/
def occursAny (parts : List String) (s : List Char) : Bool := parts.any fun p => occursIn p.toList s

end GitDrift.Text
