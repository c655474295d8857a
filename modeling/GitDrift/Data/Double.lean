import GitDrift.Text.Numeral

/-!
Double-precision numbers (IEEE 754), in exact arithmetic: the double nearest to a decimal or to a
product, and the fewest digits that read back as a double.
-/
namespace GitDrift

/-- A finite double that is not negative: `mantissa · 2 ^ exponent`. -/
structure Double where
  mantissa : Nat
  exponent : Int
deriving DecidableEq, Inhabited, Repr

namespace Double

/-- A quotient, rounded to the nearest whole number, a half to the even one. -/
def roundDiv (num den : Nat) : Nat :=
  let q := num / den
  let r := num % den
  if den < 2 * r ∨ (2 * r = den ∧ q % 2 = 1) then q + 1 else q

/-- `b ^ e` as a fraction. -/
def powFraction (b : Nat) (e : Int) : Nat × Nat :=
  if 0 ≤ e then (Nat.pow b e.toNat, 1) else (1, Nat.pow b (-e).toNat)

/-- `num / den` in units of `2 ^ e`, rounded. -/
def inUnits (num den : Nat) (e : Int) : Nat :=
  let (up, down) := powFraction 2 e
  roundDiv (num * down) (den * up)

/-- The double nearest to `num / den`; none when that is beyond all doubles. -/
def ofFraction? (num den : Nat) : Option Double :=
  if num = 0 then some ⟨0, -1074⟩
  else
    let size : Int := (Nat.log2 num : Int) - Nat.log2 den
    let low := max (size - 53) (-1074)
    let e := if inUnits num den low < 0x20000000000000 then low else low + 1
    let m := inUnits num den e
    let d : Double := if m = 0x20000000000000 then ⟨0x10000000000000, e + 1⟩ else ⟨m, e⟩
    if 971 < d.exponent then none else some d

def zero : Double := ⟨0, -1074⟩

/-- The double as a fraction. -/
def fraction (d : Double) : Nat × Nat :=
  let (up, down) := powFraction 2 d.exponent
  (d.mantissa * up, down)

/-- The double nearest to a product; none when that is beyond all doubles. -/
def mul? (a b : Double) : Option Double :=
  let (n, d) := a.fraction
  let (m, e) := b.fraction
  ofFraction? (n * m) (d * e)

/-- The double nearest to a quotient; none when that is beyond all doubles. -/
def div? (a b : Double) : Option Double :=
  let (n, d) := a.fraction
  let (m, e) := b.fraction
  ofFraction? (n * e) (d * m)

/-- The double nearest to `digits · 10 ^ e`. Exponents far from zero need no arithmetic. -/
def ofDecimal? (digits : Nat) (e : Int) : Option Double :=
  let size := (Text.decimalDigits digits).length + e
  if digits = 0 ∨ size < -400 then some ⟨0, -1074⟩
  else if 400 < size then none
  else
    let (up, down) := powFraction 10 e
    ofFraction? (digits * up) down

/-- Whether `n · 10 ^ p` is nearer to the double than to its neighbours. -/
def reads (d : Double) (n : Nat) (p : Int) : Bool :=
  let (up2, down2) := powFraction 2 (d.exponent - 2)
  let (up10, down10) := powFraction 10 p
  let x := n * up10 * down2
  let unit := up2 * down10
  let isPower := d.mantissa = 0x10000000000000 ∧ -1074 < d.exponent
  let low := (4 * d.mantissa - (if isPower then 1 else 2)) * unit
  let high := (4 * d.mantissa + 2) * unit
  if d.mantissa % 2 = 0 then low ≤ x && x ≤ high else low < x && x < high

/-- The multiple of `10 ^ p` nearest to the double. -/
def nearestMultiple (d : Double) (p : Int) : Nat :=
  let (up2, down2) := powFraction 2 d.exponent
  let (up10, down10) := powFraction 10 p
  roundDiv (d.mantissa * up2 * down10) (down2 * up10)

/-- The fewest digits that read back, as a multiple of the largest power of ten. The fuel counts
the powers that are tried. -/
def shortest (d : Double) : Nat → Int → Nat × Int
  | 0, p => (nearestMultiple d p, p)
  | fuel + 1, p =>
    let n := nearestMultiple d p
    if 0 < n ∧ d.reads n p then (n, p) else shortest d fuel (p - 1)

/-- A multiple of a power of ten in positional notation, with at least one decimal place. -/
def positional (n : Nat) (p : Int) : List Char :=
  if 0 ≤ p then Text.decimalDigits n ++ List.replicate p.toNat '0' ++ ['.', '0']
  else
    let places := (-p).toNat
    let ds := Text.paddedDigits (places + 1) n
    ds.take (ds.length - places) ++ '.' :: ds.drop (ds.length - places)

/-- A multiple of a power of ten in scientific notation, when the first digit of `n` stands for
multiples of `10 ^ e`. -/
def scientific (n : Nat) (e : Int) : List Char :=
  let places := match Text.decimalDigits n with
    | a :: b :: ds => a :: '.' :: b :: ds
    | ds => ds
  places ++ 'e' :: (if e < 0 then '-' else '+') :: Text.decimalDigits e.natAbs

/-- The double with the fewest digits that read back: in positional notation from `10 ^ -5` up to
`10 ^ 16`, beyond that in scientific notation. -/
def text (d : Double) : List Char :=
  if d.mantissa = 0 then ['0', '.', '0']
  else
    let (n, p) := shortest d 640 309
    let e := (Text.decimalDigits n).length + p - 1
    if -5 ≤ e ∧ e < 16 then positional n p else scientific n e

end Double
end GitDrift
