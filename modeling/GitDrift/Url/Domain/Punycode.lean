/-!
Punycode (RFC 3492): a label of any characters in letters, digits and hyphens. The ASCII
characters stand in front, and a sequence of numbers says where the others go.
-/
namespace GitDrift.Url.Domain.Punycode

/-- The digit of a value below 36. -/
def digitChar (d : Nat) : Char := if d < 26 then Char.ofNat (97 + d) else Char.ofNat (22 + d)

def digitValue? (c : Char) : Option Nat :=
  if 'a' ≤ c ∧ c ≤ 'z' then some (c.toNat - 97)
  else if 'A' ≤ c ∧ c ≤ 'Z' then some (c.toNat - 65)
  else if '0' ≤ c ∧ c ≤ '9' then some (c.toNat - 22)
  else none

/-- The least value of a digit, at position `k`, that is followed by another. -/
def threshold (k bias : Nat) : Nat := min 26 (max 1 (k - bias))

/-- Scales a number down to the size that the bias formula takes. -/
def scaleDown (delta k : Nat) : Nat × Nat :=
  if 455 < delta then scaleDown (delta / 35) (k + 36) else (k, delta)
termination_by delta

/-- The bias after a number has been coded, for a text that now has `count` characters. -/
def adapt (delta count : Nat) (first : Bool) : Nat :=
  let delta := if first then delta / 700 else delta / 2
  let (k, delta) := scaleDown (delta + delta / count) 0
  k + 36 * delta / (delta + 38)

/-- The digits of a number; `k` is the position of the first, and `fuel` bounds their count. -/
def encodeNumber (bias : Nat) : Nat → Nat → Nat → List Char
  | 0, _, _ => []
  | fuel + 1, k, n =>
    let t := threshold k bias
    if n < t then [digitChar n]
    else digitChar (t + (n - t) % (36 - t)) :: encodeNumber bias fuel (k + 36) ((n - t) / (36 - t))

/-- What an encoder keeps while it walks over a text. -/
structure Progress where
  out : List Char
  delta : Nat
  bias : Nat
  /-- How many characters have been coded. -/
  coded : Nat

/-- Codes the occurrences of code point `n`, in one walk over the text. -/
def encodePoint (basic n : Nat) (s : List Char) (p : Progress) : Progress :=
  s.foldl (fun p c =>
    if c.toNat < n then { p with delta := p.delta + 1 }
    else if c.toNat = n then
      { out := p.out ++ encodeNumber p.bias (p.delta + 1) 36 p.delta
        delta := 0
        bias := adapt p.delta (p.coded + 1) (p.coded = basic)
        coded := p.coded + 1 }
    else p) p

/-- Codes the given code points, which increase from `n` on. -/
def encodePoints (basic : Nat) (s : List Char) : Nat → List Nat → Progress → List Char
  | _, [], p => p.out
  | n, m :: ms, p =>
    let p := { p with delta := p.delta + (m - n) * (p.coded + 1) }
    let p := encodePoint basic m s p
    encodePoints basic s (m + 1) ms { p with delta := p.delta + 1 }

def encode (s : List Char) : List Char :=
  let basic := s.filter (·.toNat < 0x80)
  let others := ((s.filter (0x80 ≤ ·.toNat)).map Char.toNat).mergeSort.eraseDups
  let start := if basic.isEmpty then [] else basic ++ ['-']
  encodePoints basic.length s 0x80 others ⟨start, 0, 72, basic.length⟩

/-- Reads a number: its value added to `i`, and what follows. -/
def decodeNumber? (bias : Nat) : Nat → Nat → Nat → List Char → Option (Nat × List Char)
  | _, _, _, [] => none
  | k, w, i, c :: s =>
    (digitValue? c).bind fun d =>
      let t := threshold k bias
      if d < t then some (i + d * w, s)
      else decodeNumber? bias (k + 36) (w * (36 - t)) (i + d * w) s

/-- Puts the characters that the numbers in `s` stand for into `out`. -/
def decodeInto? : Nat → Nat → Nat → Nat → List Char → List Char → Option (List Char)
  | 0, _, _, _, _, _ => none
  | fuel + 1, n, i, bias, out, s =>
    if s.isEmpty then some out
    else
      (decodeNumber? bias 36 1 i s).bind fun (j, s) =>
        let count := out.length + 1
        let m := n + j / count
        if m.isValidChar then
          decodeInto? fuel m (j % count + 1) (adapt (j - i) count (i = 0))
            (out.insertIdx (j % count) (Char.ofNat m)) s
        else none

/-- The text that `s` is the code of. A hyphen at the start of a code has nothing in front of it to
set apart, and is no digit. -/
def decode? (s : List Char) : Option (List Char) :=
  let (rest, basic) := s.reverse.span (· ≠ '-')
  match basic with
  | ['-'] => none
  | _ => decodeInto? (s.length + 1) 0x80 0 72 (basic.drop 1).reverse rest.reverse

end GitDrift.Url.Domain.Punycode
