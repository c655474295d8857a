import GitDrift.Retry.Fibonacci
import Mathlib.Data.Nat.Fib.Basic

/-!
The delays between tries in closed form. They are the Fibonacci numbers times the least delay, each
cut off at the greatest delay by itself, although the sequence goes on from the delays that were cut
off.
-/
namespace GitDrift.Retry.Fibonacci

/-- What is done with a sequence of delays. -/
inductive Call where
  | next
  | reset

variable {b : Fibonacci} {least greatest n k : ℕ} {calls : List Call}

/-- What is left of a sequence after some calls. The latest call is the first. -/
def after (b : Fibonacci) : List Call → Fibonacci
  | [] => b
  | .next :: calls => (b.after calls).next.2
  | .reset :: calls => (b.after calls).reset

/-- How many delays were asked for since the sequence last started over. -/
def taken : List Call → ℕ
  | .next :: calls => taken calls + 1
  | .reset :: _ | [] => 0

/-- The minutes of the delay at a place from one on. The first delay is not cut off. -/
def delay (least greatest : ℕ) : ℕ → ℕ
  | 0 => 0
  | 1 => least
  | n + 2 => min greatest (Nat.fib (n + 2) * least)

/-- Cutting off the delays before does not change what their sum is cut off to. -/
theorem delay_add_two (least greatest n : ℕ) :
    delay least greatest (n + 2) =
      min (delay least greatest n + delay least greatest (n + 1)) greatest := by
  rcases n with _ | _ | n
  · change min greatest (Nat.fib 2 * least) = min (0 + least) greatest
    rw [Nat.fib_two]
    omega
  · change min greatest (Nat.fib 3 * least) =
      min (least + min greatest (Nat.fib 2 * least)) greatest
    have hthree : Nat.fib 3 = 2 := rfl
    rw [hthree, Nat.fib_two]
    omega
  · have hsum : Nat.fib (n + 4) * least = Nat.fib (n + 2) * least + Nat.fib (n + 3) * least := by
      rw [Nat.fib_add_two, Nat.add_mul]
    change min greatest (Nat.fib (n + 4) * least) =
      min (min greatest (Nat.fib (n + 2) * least) + min greatest (Nat.fib (n + 3) * least)) greatest
    rw [hsum]
    omega

theorem delay_le (least greatest n : ℕ) : delay least greatest n ≤ max least greatest := by
  rcases n with _ | _ | n <;> simp only [delay] <;> omega

/-- From one minute on, the delays are the numbers themselves, cut off. -/
theorem delay_one (h : 1 ≤ greatest) (n : ℕ) : delay 1 greatest n = min greatest (Nat.fib n) := by
  rcases n with _ | _ | n
  · exact (Nat.min_zero greatest).symm
  · exact (Nat.min_eq_right h).symm
  · rw [delay, Nat.mul_one]

theorem delay_mono (h : least ≤ greatest) : Monotone (delay least greatest) := by
  refine monotone_nat_of_le_succ fun n => ?_
  rcases n with _ | _ | n
  · exact Nat.zero_le _
  · simpa [delay] using h
  · have hfib : Nat.fib (n + 2) * least ≤ Nat.fib (n + 3) * least :=
      Nat.mul_le_mul_right least Nat.fib_le_fib_succ
    exact min_le_min_left greatest hfib

/-- Delays that fit into a word follow each other in the closed form. -/
theorem next_delay (hl : least ≤ (wordLimit - 1) / 60) (hg : greatest ≤ (wordLimit - 1) / 60)
    (n : ℕ) :
    next ⟨least, greatest, delay least greatest n, delay least greatest (n + 1)⟩ =
      (some (60 * delay least greatest (n + 1)),
        ⟨least, greatest, delay least greatest (n + 1), delay least greatest (n + 2)⟩) := by
  have hprevious := delay_le least greatest n
  have hcurrent := delay_le least greatest (n + 1)
  have hfits : delay least greatest (n + 1) * 60 < wordLimit ∧
      delay least greatest n + delay least greatest (n + 1) < wordLimit := by
    unfold wordLimit at *
    omega
  dsimp only [next]
  rw [if_pos hfits, delay_add_two least greatest n, Nat.mul_comm]

theorem after_eq (hl : least ≤ (wordLimit - 1) / 60) (hg : greatest ≤ (wordLimit - 1) / 60)
    (calls : List Call) :
    after { least, greatest } calls = ⟨least, greatest, delay least greatest (taken calls),
      delay least greatest (taken calls + 1)⟩ := by
  induction calls with
  | nil => rfl
  | cons call calls ih =>
    cases call with
    | next => rw [after, ih, next_delay hl hg, taken]
    | reset =>
      rw [after, ih]
      rfl

theorem next_after (hl : least ≤ (wordLimit - 1) / 60) (hg : greatest ≤ (wordLimit - 1) / 60)
    (calls : List Call) : (after { least, greatest } calls).next.1 =
      some (60 * delay least greatest (taken calls + 1)) := by
  rw [after_eq hl hg, next_delay hl hg]

theorem taken_replicate (calls : List Call) (k : ℕ) :
    taken (List.replicate k .next ++ calls) = taken calls + k := by
  induction k with
  | zero => rw [List.replicate_zero, List.nil_append, Nat.add_zero]
  | succ k ih => rw [List.replicate_succ, List.cons_append, taken, ih, Nat.add_assoc]

theorem next_cases (b : Fibonacci) : b.next = (none, b) ∨
    b.previous + b.current < wordLimit ∧ b.next = (some (b.current * 60),
      { b with previous := b.current, current := min (b.previous + b.current) b.greatest }) := by
  dsimp only [next]
  split_ifs with h
  · exact Or.inr ⟨h.2, rfl⟩
  · exact Or.inl rfl

theorem after_bounds (b : Fibonacci) (calls : List Call) :
    (b.after calls).least = b.least ∧ (b.after calls).greatest = b.greatest := by
  induction calls with
  | nil => exact ⟨rfl, rfl⟩
  | cons call calls ih =>
    cases call with
    | next =>
      rw [after]
      rcases next_cases (b.after calls) with h | ⟨-, h⟩ <;> rw [h] <;> exact ih
    | reset => exact ih

/-- The delays that are kept are words. -/
def Words (b : Fibonacci) : Prop := b.previous < wordLimit ∧ b.current < wordLimit

theorem words_after (hl : b.least < wordLimit) (hb : b.Words) (calls : List Call) :
    (b.after calls).Words := by
  induction calls with
  | nil => exact hb
  | cons call calls ih =>
    cases call with
    | next =>
      rw [after]
      rcases next_cases (b.after calls) with h | ⟨hsum, h⟩ <;> rw [h]
      · exact ih
      · exact ⟨ih.2, Nat.lt_of_le_of_lt (Nat.min_le_left ..) hsum⟩
    | reset =>
      rw [after, reset, Words, (after_bounds b calls).1]
      exact ⟨Nat.two_pow_pos 64, hl⟩

/-- Once a delay overflows, none is given and nothing changes until the sequence starts over. -/
theorem after_replicate_of_overflow (h : (b.after calls).next.1 = none) (k : ℕ) :
    b.after (List.replicate k .next ++ calls) = b.after calls := by
  have hstays : (b.after calls).next.2 = b.after calls := by
    rcases next_cases (b.after calls) with hn | ⟨-, hn⟩
    · rw [hn]
    · simp [hn] at h
  induction k with
  | zero => rfl
  | succ k ih => rw [List.replicate_succ, List.cons_append, after, ih, hstays]

/-- Between bounds whose seconds fit into a word no delay overflows. The first is the least delay,
and each that follows is the least delay times a Fibonacci number, cut off at the greatest. If the
bounds are in order the delays do not exceed the greatest and do not fall until the sequence starts
over, when it is as new. Whatever the bounds, what is kept are words, and a delay that overflows
changes nothing. -/
theorem delays_in_closed_form (least greatest : ℕ) :
    let b : Fibonacci := { least, greatest }
    (least ≤ (wordLimit - 1) / 60 → greatest ≤ (wordLimit - 1) / 60 → ∀ calls,
      (b.after calls).next.1 = some (60 * delay least greatest (taken calls + 1)) ∧
      (least ≤ greatest → ∀ k, ∃ seconds later, (b.after calls).next.1 = some seconds ∧
        (b.after (List.replicate k .next ++ calls)).next.1 = some later ∧
        seconds ≤ later ∧ later ≤ 60 * greatest ∧
        (seconds = 60 * greatest → later = 60 * greatest))) ∧
    (∀ calls, b.after (.reset :: calls) = b) ∧
    (least < wordLimit → ∀ calls, (b.after calls).Words ∧
      ((b.after calls).next.1 = none →
        ∀ k, b.after (List.replicate k .next ++ calls) = b.after calls)) := by
  intro b
  refine ⟨fun hl hg calls => ⟨next_after hl hg calls, fun horder k => ?_⟩, fun calls => ?_,
    fun hl calls => ⟨words_after hl ⟨Nat.two_pow_pos 64, hl⟩ calls, after_replicate_of_overflow⟩⟩
  · have hrises : delay least greatest (taken calls + 1) ≤
        delay least greatest (taken calls + k + 1) := delay_mono horder (by omega)
    have hbound := delay_le least greatest (taken calls + k + 1)
    have hlater := next_after hl hg (List.replicate k .next ++ calls)
    rw [taken_replicate] at hlater
    exact ⟨_, _, next_after hl hg calls, hlater, by omega, by omega, by omega⟩
  · rw [after, reset]
    obtain ⟨hl, hg⟩ := after_bounds b calls
    rw [hl, hg]

theorem delays_up_to_ten :
    (1 ≤ (wordLimit - 1) / 60 ∧ 10 ≤ (wordLimit - 1) / 60) ∧
    (after { least := 1, greatest := 10 } (List.replicate 6 .next)).next.1 = some 600 ∧
    (after { least := 1, greatest := 10 } (List.replicate 9 .next)).next.1 = some 600 ∧
    after { least := 2 ^ 63, greatest := 10 } [.next] = { least := 2 ^ 63, greatest := 10 } := by
  have hl : 1 ≤ (wordLimit - 1) / 60 := by decide
  have hg : 10 ≤ (wordLimit - 1) / 60 := by decide
  obtain ⟨hseventh, hlater⟩ := (delays_in_closed_form 1 10).1 hl hg (List.replicate 6 .next)
  obtain ⟨seconds, later, hs, ht, -, -, hcap⟩ := hlater (by decide) 3
  obtain rfl : 600 = seconds := Option.some.inj (hseventh.symm.trans hs)
  obtain rfl := hcap rfl
  obtain ⟨-, hstays⟩ := (delays_in_closed_form (2 ^ 63) 10).2.2 (by decide) []
  exact ⟨⟨hl, hg⟩, hseventh, ht, hstays rfl 1⟩

end GitDrift.Retry.Fibonacci
