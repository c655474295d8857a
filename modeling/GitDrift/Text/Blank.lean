/-!
Blank characters in the sense of the Unicode property `White_Space`, and trimming by them. Texts
are lists of characters here, which is the form the line formats of this library are read in.
-/
namespace GitDrift.Text

/-- Unicode `White_Space`. -/
def isBlank (c : Char) : Bool :=
  let n := c.toNat
  (9 ≤ n && n ≤ 13) || n == 0x20 || n == 0x85 || n == 0xa0 || n == 0x1680 ||
    (0x2000 ≤ n && n ≤ 0x200a) || n == 0x2028 || n == 0x2029 || n == 0x202f || n == 0x205f ||
    n == 0x3000

/-- The text without the trailing characters that satisfy `p`. -/
def dropEndWhile (p : Char → Bool) (s : List Char) : List Char :=
  (s.reverse.dropWhile p).reverse

def trimEnd (s : List Char) : List Char := dropEndWhile isBlank s

/-- The text without leading and trailing blanks. -/
def trim (s : List Char) : List Char := trimEnd (s.dropWhile isBlank)

/-- What follows `pre` in `s`, when `s` starts with it. -/
def afterStart? (pre s : List Char) : Option (List Char) :=
  if pre.isPrefixOf s then some (s.drop pre.length) else none

/-- What stands before `post` in `s`, when `s` ends with it. -/
def beforeEnd? (post s : List Char) : Option (List Char) :=
  (afterStart? post.reverse s.reverse).map List.reverse

/-- The parts before and after the first `c`. -/
def cutAt? (c : Char) : List Char → Option (List Char × List Char)
  | [] => none
  | d :: s => if d = c then some ([], s) else (cutAt? c s).map fun (l, r) => (d :: l, r)

/-- Whether `sub` occurs in the text. -/
def hasPart (sub : List Char) : List Char → Bool
  | [] => sub.isEmpty
  | c :: s => sub.isPrefixOf (c :: s) || hasPart sub s

/-- The pieces between the occurrences of `c`; a text without any is its own only piece. -/
def pieces (c : Char) : List Char → List (List Char)
  | [] => [[]]
  | d :: s =>
    if d = c then [] :: pieces c s
    else match pieces c s with
      | [] => [[d]]
      | p :: ps => (d :: p) :: ps

/-- What follows the last `c`, or the whole text. -/
def afterLast (c : Char) (s : List Char) : List Char :=
  (s.reverse.takeWhile (· ≠ c)).reverse

end GitDrift.Text
