import GitDrift.Data.Measure
import GitDrift.Data.Table
import GitDrift.Time.Clock

/-!
What the operator counts and measures about itself.
-/
namespace GitDrift

/-- The upper limit of a bucket, and how it is written. -/
structure Bound where
  limit : Double
  text : String
deriving DecidableEq, Inhabited

/-- The bound `digits · 10 ^ exponent`, written as given. -/
def Bound.ofDecimal (digits : Nat) (exponent : Int) (text : String) : Bound :=
  ⟨(Double.ofDecimal? digits exponent).getD ⟨0, 0⟩, text⟩

/-- Measured values, counted by the bounds that they are within. -/
structure Histogram where
  count : Nat := 0
  buckets : List (Bound × Nat)
deriving DecidableEq, Inhabited

namespace Histogram

def ofBounds (bounds : List Bound) : Histogram := { buckets := bounds.map fun b => (b, 0) }

def observe (h : Histogram) (x : Measure) : Histogram where
  count := h.count + 1
  buckets := h.buckets.map fun (b, n) => (b, if x.within b.limit then n + 1 else n)

end Histogram

/-- Bounds of the time that a reconciliation takes, in seconds. -/
def reconciliationBounds : List Bound :=
  [.ofDecimal 1 (-1) "0.1", .ofDecimal 5 (-1) "0.5", .ofDecimal 1 0 "1", .ofDecimal 2 0 "2",
    .ofDecimal 5 0 "5", .ofDecimal 10 0 "10", .ofDecimal 30 0 "30"]

/-- Bounds of the time that a drift check takes, in seconds. -/
def driftCheckBounds : List Bound := reconciliationBounds ++ [.ofDecimal 120 0 "120"]

/-- The time between two readings of the clock, in seconds. -/
def secondsBetween (start stop : Instant) : Measure := .ofDecimal false (stop - start) (-3)

structure Metrics where
  reconciliations : Nat := 0
  reconciliationErrors : Nat := 0
  reconciliationDuration : Histogram := .ofBounds reconciliationBounds
  /-- How often Patterns were put back into the queue, by reason. -/
  requeues : Table String Nat := {}
  /-- Drift checks by result. -/
  driftChecks : Table String Nat := {}
  driftCheckDuration : Table String Histogram := {}
  watchedPatterns : Nat := 0
  conditionWriteFailures : Nat := 0
  /-- Whether the metrics are open to be read. -/
  registered : Bool := false
deriving DecidableEq, Inhabited

namespace Metrics

/-- Adds one to the counter of a label. -/
def tally (t : Table String Nat) (label : String) : Table String Nat :=
  t.insert label ((t.get? label).getD 0 + 1)

variable (m : Metrics)

def reconciliation : Metrics := { m with reconciliations := m.reconciliations + 1 }

def reconciliationError : Metrics :=
  { m with reconciliationErrors := m.reconciliationErrors + 1 }

def reconciliationTook (seconds : Measure) : Metrics :=
  { m with reconciliationDuration := m.reconciliationDuration.observe seconds }

def requeue (reason : String) : Metrics := { m with requeues := tally m.requeues reason }

/-- Counts a drift check and the time that it took. -/
def driftCheck (result : String) (seconds : Measure) : Metrics :=
  let h := (m.driftCheckDuration.get? result).getD (.ofBounds driftCheckBounds)
  { m with
    driftChecks := tally m.driftChecks result
    driftCheckDuration := m.driftCheckDuration.insert result (h.observe seconds) }

/-- Sets the number of watched Patterns, which is kept below `2 ^ 63`. -/
def watched (count : Nat) : Metrics := { m with watchedPatterns := min count 0x7fffffffffffffff }

def writeFailure : Metrics := { m with conditionWriteFailures := m.conditionWriteFailures + 1 }

/-- The number of watched Patterns as it is read: the nearest double. -/
def watchedText : String := Text.ofNat (nearestWhole m.watchedPatterns)

/-- Metrics can be registered once. -/
inductive RegistrationError where
  | duplicate
deriving DecidableEq

def RegistrationError.message : RegistrationError → String
  | .duplicate => "Duplicate metrics collector registration attempted"

def register : Except RegistrationError Metrics :=
  if m.registered then .error .duplicate else .ok { m with registered := true }

end Metrics
end GitDrift
