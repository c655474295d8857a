import GitDrift.Data.Double
import GitDrift.Json

/-!
Measured values: doubles with a sign, the infinities, and the value that is no number. They are
compared with limits, which are doubles that are not negative.
-/
namespace GitDrift

/-- Whether a double is no greater than another. -/
def Double.le (a b : Double) : Bool :=
  let e := min a.exponent b.exponent
  a.mantissa * Nat.pow 2 (a.exponent - e).toNat ≤ b.mantissa * Nat.pow 2 (b.exponent - e).toNat

/-- The double nearest to a whole number, as a whole number. -/
def nearestWhole (n : Nat) : Nat :=
  match Double.ofFraction? n 1 with
  | some d => d.mantissa * Nat.pow 2 d.exponent.toNat / Nat.pow 2 (-d.exponent).toNat
  | none => n

inductive Measure where
  | finite (negative : Bool) (size : Double)
  | infinite (negative : Bool)
  /-- No number; it is not comparable with any. -/
  | undefined
deriving DecidableEq

namespace Measure

/-- Whether a measured value is within a limit. -/
def within (limit : Double) : Measure → Bool
  | .finite negative size => negative || size.le limit
  | .infinite negative => negative
  | .undefined => false

def ofNumber : Number → Measure
  | .whole n =>
    match Double.ofFraction? n.natAbs 1 with
    | some size => .finite (n < 0) size
    | none => .infinite (n < 0)
  | .double negative size => .finite negative size

/-- The measure nearest to `± digits · 10 ^ exponent`. -/
def ofDecimal (negative : Bool) (digits : Nat) (exponent : Int) : Measure :=
  match Double.ofDecimal? digits exponent with
  | some size => .finite negative size
  | none => .infinite negative

end Measure
end GitDrift
