/-!
Delays that grow like the Fibonacci numbers, in whole minutes up to a greatest delay. The numbers
are words of 64 bits: a delay that overflows is not given, and nothing changes.
-/
namespace GitDrift.Retry

/-- Every number is below this one. -/
def wordLimit : Nat := 0x10000000000000000

structure Fibonacci where
  /-- The first delay, and the one that it starts from. -/
  least : Nat
  greatest : Nat
  previous : Nat := 0
  current : Nat := least
deriving DecidableEq

namespace Fibonacci

variable (b : Fibonacci)

/-- The current delay in seconds, and the delays that follow it. None stands for the panic of a
build with overflow checks: a number is too large for its word, and the delays stay as they are. -/
def next : Option Nat × Fibonacci :=
  let seconds := b.current * 60
  let sum := b.previous + b.current
  if seconds < wordLimit ∧ sum < wordLimit then
    (some seconds, { b with previous := b.current, current := min sum b.greatest })
  else (none, b)

/-- Starts over. -/
def reset : Fibonacci := { b with previous := 0, current := b.least }

end Fibonacci
end GitDrift.Retry
