import GitDrift.Cluster.Fault
import Mathlib.Data.Nat.Notation
import Mathlib.Tactic.Ring

/-!
How long a throttled stream rests. The rests double up to the longest one, the first not being cut
off, and other faults that come in between neither lengthen nor shorten them.
-/
namespace GitDrift.Cluster

variable {kind : FaultKind} {longest restart backoff : ℕ}

/-- The backoff that some faults leave. The latest fault is the first. -/
def backoffAfter (first longest restart : Span) : List (List Char) → Span
  | [] => first
  | text :: faults =>
    let backoff := backoffAfter first longest restart faults
    ((FaultKind.ofText text).respond backoff longest restart).backoff

/-- The response to a fault that comes after some others. -/
def responseAfter (first longest restart : Span) (faults : List (List Char)) (text : List Char) :
    FaultResponse :=
  (FaultKind.ofText text).respond (backoffAfter first longest restart faults) longest restart

/-- How many of some faults are throttlings. -/
def throttlings (faults : List (List Char)) : ℕ :=
  faults.countP fun text => FaultKind.ofText text = .throttled

/-- The backoff after so many throttlings. What it starts from is not cut off. -/
def rest (first longest : Span) : ℕ → Span
  | 0 => first
  | k + 1 => min longest (first * 2 ^ (k + 1))

/-- A longest rest that is a word keeps the doubled one a word. -/
theorem doubled_eq (hl : longest < Retry.wordLimit) (backoff : ℕ) :
    doubled longest backoff = min longest (2 * backoff) := by
  change min (min (2 * backoff) (Retry.wordLimit - 1)) longest = _
  omega

/-- Cutting off before the doubling makes no difference. -/
theorem doubled_rest (hl : longest < Retry.wordLimit) (first k : ℕ) :
    doubled longest (rest first longest k) = rest first longest (k + 1) := by
  rw [doubled_eq hl]
  cases k with
  | zero => rw [rest, rest, Nat.pow_one, Nat.mul_comm]
  | succ k =>
    have hpow : first * 2 ^ (k + 2) = 2 * (first * 2 ^ (k + 1)) := by ring
    change min longest (2 * min longest (first * 2 ^ (k + 1))) = min longest (first * 2 ^ (k + 2))
    rw [hpow]
    omega

theorem backoff_respond (h : kind ≠ .throttled) :
    (kind.respond backoff longest restart).backoff = backoff := by
  cases kind with
  | throttled => exact absurd rfl h
  | _ => rfl

theorem kept_respond_iff :
    (kind.respond backoff longest restart).kept = true ↔ kind = .notFound := by
  cases kind <;> simp [FaultKind.respond]

theorem backoffAfter_eq (hl : longest < Retry.wordLimit) (first restart : ℕ)
    (faults : List (List Char)) :
    backoffAfter first longest restart faults = rest first longest (throttlings faults) := by
  induction faults with
  | nil => rfl
  | cons text faults ih =>
    rw [backoffAfter, ih]
    by_cases h : FaultKind.ofText text = .throttled
    · have hcount : throttlings (text :: faults) = throttlings faults + 1 := by
        simp [throttlings, h]
      rw [hcount, h]
      exact doubled_rest hl first (throttlings faults)
    · have hcount : throttlings (text :: faults) = throttlings faults := by
        simp [throttlings, h]
      rw [hcount]
      exact backoff_respond h

/-- Whatever faults came before, a throttled stream rests for the first backoff, doubled for each
throttling before and then cut off at the longest rest, but no longer than sleeps last. It leaves
twice as long a backoff, and other faults leave the backoff as it was. An event is kept only where
something was not found. -/
theorem throttled_rests (hl : longest < Retry.wordLimit) (first restart : ℕ)
    (faults : List (List Char)) (text : List Char) :
    let response := responseAfter first longest restart faults text
    let k := throttlings faults
    (FaultKind.ofText text = .throttled →
      response.wait = min (if k = 0 then first else min longest (first * 2 ^ k))
        Span.longestSleep ∧
      response.backoff = min longest (first * 2 ^ (k + 1))) ∧
    (FaultKind.ofText text ≠ .throttled →
      response.backoff = backoffAfter first longest restart faults) ∧
    (response.kept = true ↔ FaultKind.ofText text = .notFound) := by
  intro response k
  refine ⟨fun h => ?_, backoff_respond, kept_respond_iff⟩
  have hrest : rest first longest k = if k = 0 then first else min longest (first * 2 ^ k) := by
    cases k <;> rfl
  have hresponse : response =
      ⟨false, (rest first longest k).slept, doubled longest (rest first longest k)⟩ := by
    change (FaultKind.ofText text).respond _ longest restart = _
    rw [h, backoffAfter_eq hl]
    rfl
  rw [hresponse, doubled_rest hl, ← hrest]
  exact ⟨rfl, rfl⟩

/-- The second throttling finds the backoff doubled, and the third finds it cut off. -/
theorem rests_up_to_three_seconds : 3000 < Retry.wordLimit ∧
    (responseAfter 1000 3000 5000 ["boom".toList, "429".toList] "429".toList).wait = 2000 ∧
    (responseAfter 1000 3000 5000 ["boom".toList, "429".toList] "429".toList).backoff = 3000 := by
  have hl : 3000 < Retry.wordLimit := by decide
  have hrests := (throttled_rests hl 1000 5000 ["boom".toList, "429".toList] "429".toList).1
    (by decide)
  exact ⟨hl, hrests.1.trans (by decide), hrests.2.trans (by decide)⟩

/-- A rest that is longer than sleeps last is cut off. -/
theorem long_rest_is_cut_off :
    FaultKind.ofText "429".toList = .throttled ∧
    throttlings [] = 0 ∧
    (responseAfter 946080000001 946080000002 5000 [] "429".toList).wait ≠ 946080000001 := by
  decide

end GitDrift.Cluster
