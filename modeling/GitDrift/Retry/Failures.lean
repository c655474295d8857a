import GitDrift.Retry.Fibonacci

/-!
How often a Pattern has failed since its last success, and when it is tried again.
-/
namespace GitDrift.Retry

structure Failures where
  count : Nat := 0
  /-- The delays between tries, from one minute to ten. -/
  backoff : Fibonacci := ⟨1, 10, 0, 1⟩
deriving DecidableEq

namespace Failures

variable (f : Failures)

/-- Counts a failure. -/
def increment : Failures := { f with count := f.count + 1 }

/-- The delay before the next try, and the delays after it. -/
def next : Option Nat × Failures :=
  let (seconds, backoff) := f.backoff.next
  (seconds, { f with backoff })

/-- What is left after a success. -/
def reset : Failures where
  count := 0
  backoff := f.backoff.reset

end Failures
end GitDrift.Retry
