/-!
Reads bytes as UTF-8 (RFC 3629). Where the bytes are no text, `decodeLossy` puts one replacement
character for each longest run that could have begun a character.
-/
namespace GitDrift.Text

/-- A byte that continues a character. -/
def isTail (b : Nat) : Bool := 0x80 ≤ b && b ≤ 0xbf

/-- How many bytes follow a first byte, and the range that the second byte has to be in. -/
def leadByte? (b : Nat) : Option (Nat × Nat × Nat) :=
  if 0xc2 ≤ b ∧ b ≤ 0xdf then some (1, 0x80, 0xbf)
  else if b = 0xe0 then some (2, 0xa0, 0xbf)
  else if b = 0xed then some (2, 0x80, 0x9f)
  else if 0xe1 ≤ b ∧ b ≤ 0xef then some (2, 0x80, 0xbf)
  else if b = 0xf0 then some (3, 0x90, 0xbf)
  else if 0xf1 ≤ b ∧ b ≤ 0xf3 then some (3, 0x80, 0xbf)
  else if b = 0xf4 then some (3, 0x80, 0x8f)
  else none

/-- The leading continuation bytes, at most `n`. -/
def tails : Nat → List Nat → List Nat
  | 0, _ => []
  | _, [] => []
  | n + 1, b :: bs => if isTail b then b :: tails n bs else []

/-- The code point of a character of more than one byte: the payload of the first byte, with the
lead bits gone, followed by six bits of each other byte. -/
def codePoint (lead n : Nat) (rest : List Nat) : Nat :=
  rest.foldl (fun acc b => acc * 64 + b % 64) (lead % Nat.pow 2 (6 - n))

/-- What starts at a byte: the character, or none for bytes that make none, and how many bytes
after the first belong to it. -/
def decodeAt (b : Nat) (bs : List Nat) : Option Char × Nat :=
  if b < 0x80 then (some (Char.ofNat b), 0)
  else
    match leadByte? b with
    | none => (none, 0)
    | some (n, lo, hi) =>
      match bs with
      | [] => (none, 0)
      | c :: cs =>
        if c < lo ∨ hi < c then (none, 0)
        else
          let rest := c :: tails (n - 1) cs
          if rest.length = n then (some (Char.ofNat (codePoint b n rest)), n)
          else (none, rest.length)

/-- The characters of a byte sequence, `none` for each run of bytes that is no character. -/
def decodeRuns (bytes : List Nat) : List (Option Char) :=
  match bytes with
  | [] => []
  | b :: bs =>
    let (c, n) := decodeAt b bs
    c :: decodeRuns (bs.drop n)
termination_by bytes.length
decreasing_by simp only [List.length_drop, List.length_cons]; omega

/-- The text of a byte sequence, if it is one. -/
def decode? (bytes : List Nat) : Option (List Char) := (decodeRuns bytes).mapM id

/-- The text of a byte sequence, with replacement characters where it is none. -/
def decodeLossy (bytes : List Nat) : List Char := (decodeRuns bytes).map (·.getD '\ufffd')

/-- The bytes of a character. -/
def encodeChar (c : Char) : List Nat :=
  let n := c.toNat
  if n < 0x80 then [n]
  else if n < 0x800 then [0xc0 + n / 64, 0x80 + n % 64]
  else if n < 0x10000 then [0xe0 + n / 4096, 0x80 + n / 64 % 64, 0x80 + n % 64]
  else [0xf0 + n / 262144, 0x80 + n / 4096 % 64, 0x80 + n / 64 % 64, 0x80 + n % 64]

def encode (s : List Char) : List Nat := s.flatMap encodeChar

end GitDrift.Text
