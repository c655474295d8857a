import GitDrift.Text.Blank

/-!
Lines of a text. A line ends at a line feed, and a carriage return right before the line feed
belongs to the line's end. A text without a final line feed has an unended last line, which is
left out when it is empty.
-/
namespace GitDrift.Text

/-- A line's text without the carriage return of its ending. -/
def dropReturn (line : List Char) : List Char :=
  (beforeEnd? ['\r'] line).getD line

/-- The lines of a text; `line` holds, in reverse, what has been read of the current one. -/
def linesFrom (line : List Char) : List Char → List (List Char)
  | [] => if line.isEmpty then [] else [line.reverse]
  | c :: s =>
    if c = '\n' then dropReturn line.reverse :: linesFrom [] s
    else linesFrom (c :: line) s

def lines (s : List Char) : List (List Char) := linesFrom [] s

end GitDrift.Text
