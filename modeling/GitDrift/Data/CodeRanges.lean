/-!
Sets of code points written as inclusive ranges, for the tables of Unicode properties. A table is
one text of hexadecimal ranges separated by blanks, so that it can be read beside the standard.
-/
namespace GitDrift

/-- The value of a hexadecimal digit of either case. -/
def hexDigit? (c : Char) : Option Nat :=
  if '0' ≤ c ∧ c ≤ '9' then some (c.toNat - 48)
  else if 'a' ≤ c ∧ c ≤ 'f' then some (c.toNat - 87)
  else if 'A' ≤ c ∧ c ≤ 'F' then some (c.toNat - 55)
  else none

/-- The value of a run of hexadecimal digits; other characters count as nothing. -/
def hexValue (s : List Char) : Nat :=
  s.foldl (fun n c => match hexDigit? c with | some d => 16 * n + d | none => n) 0

/-- A set of code points as inclusive ranges. -/
structure CodeRanges where
  ranges : List (Nat × Nat)
deriving Inhabited

namespace CodeRanges

/-- One range, `lo-hi`, or a single code point. -/
def rangeOfHex (s : String) : Nat × Nat :=
  match s.splitOn "-" with
  | [lo, hi] => (hexValue lo.toList, hexValue hi.toList)
  | _ => (hexValue s.toList, hexValue s.toList)

/-- The words of a text whose words stand between blanks and line feeds. -/
def words (s : String) : List String :=
  ((s.splitOn "\n").flatMap (·.splitOn " ")).filter (· ≠ "")

/-- Reads ranges in hexadecimal. -/
def ofHex (s : String) : CodeRanges :=
  ⟨(words s).map rangeOfHex⟩

def contains (r : CodeRanges) (n : Nat) : Bool :=
  r.ranges.any fun (lo, hi) => lo ≤ n && n ≤ hi

end CodeRanges
end GitDrift
