import GitDrift.Proofs.Restart

/-!
Where the clock can overflow. An interval can be nearly as long as the clock's range, but an entry
with such an interval is not due in the first half of that range, and a check that finds its entry
not due leaves it alone. So it is only when a client books a key that the clock overflows, and the
task that checks the keys never dies of it.
-/
namespace GitDrift.Drift

variable {E : Execution} {w w' : Watcher} {a : Event} {now : Instant} {k : PatternKey} {d : Span}
  {n : ℕ}

/-- The clock overflows in the event. -/
def Event.Overflows : Event → Prop
  | .add _ _ r | .remove _ r | .update _ _ r => r = .overflow
  | .finish _ _ _ x => x = .error .overflow
  | _ => False

/-- The client books a key for a time that is beyond the clock's range. -/
inductive Overbooks (now : Instant) : Event → Prop
  | add {k : PatternKey} {seconds : ℤ} (hs : 0 ≤ seconds)
      (hn : Instant.limit ≤ now + Span.ofSeconds seconds.toNat) :
      Overbooks now (.add k seconds .overflow)
  | update {k : PatternKey} {seconds : ℤ} (hs : 0 ≤ seconds)
      (hn : Instant.limit ≤ now + Span.ofSeconds seconds.toNat) :
      Overbooks now (.update k seconds .overflow)

theorem Watcher.limit_le_of_reschedule (h : w.reschedule k d now = (.overflow, w')) :
    Instant.limit ≤ now + d := by
  by_contra hlt
  have hfits : now.after? d = some (now + d) :=
    Instant.after?_eq_some_iff.mpr ⟨Nat.not_le.mp hlt, rfl⟩
  rw [reschedule, Schedule.upsert, hfits] at h
  cases h

/-- A step in which the clock overflows books a key, or is the end of a check. -/
theorem overbooks_of_overflows (h : Step now w a w') (ha : a.Overflows)
    (hf : ∀ i k time, a ≠ .finish i k time (.error .overflow)) : Overbooks now a := by
  cases h with
  | add h =>
    obtain rfl := ha
    obtain ⟨hs, h⟩ | ⟨⟨e, he⟩, -⟩ := Watcher.add_cases h
    · exact .add hs (Watcher.limit_le_of_reschedule h)
    · cases he
  | remove h =>
    obtain rfl := ha
    obtain ⟨hr, -⟩ | ⟨⟨e, he⟩, -⟩ := Watcher.remove_cases h
    · cases hr
    · cases he
  | update h =>
    obtain rfl := ha
    obtain ⟨-, h⟩ | ⟨hs, e, -, ⟨-, hr, -⟩ | ⟨-, h⟩⟩ | ⟨⟨e, he⟩, -⟩ :=
      Watcher.updateInterval_cases h
    · obtain ⟨hr, -⟩ | ⟨⟨e, he⟩, -⟩ := Watcher.remove_cases h
      · cases hr
      · cases he
    · cases hr
    · exact .update hs (Watcher.limit_le_of_reschedule h)
    · cases he
  | finish hp h =>
    obtain rfl := ha
    exact absurd rfl (hf _ _ _)
  | _ => cases ha

/-- While the clock stands in the first half of its range, the end of a check never overflows it,
whatever intervals were accepted and however keys were booked anew under the check: an entry is due
no earlier than its interval is long. The clock overflows only over a key that a client books, and
the task that counts as running is alive. -/
theorem only_bookings_overflow (h : Valid E) (ht : Timely E)
    (hc : ∀ n, E.clock n < Span.ofSeconds (2 ^ 62)) (n : ℕ) :
    (∀ e ∈ (E.state n).schedule, e.interval ≤ e.nextCheck) ∧
    (∀ k time, time < Span.ofSeconds (2 ^ 62) →
      ∃ b, ((E.state n).schedule.complete k time).1 = .ok b) ∧
    (∀ i k time x, E.event n = some (.finish i k time x) → ∃ b, x = .ok b) ∧
    (∀ a, E.event n = some a → a.Overflows → Overbooks (E.clock n) a) ∧
    ∀ i, (E.state n).running = some i → (E.state n).Alive i := by
  have hhalf {time : Instant} (hlt : time < Span.ofSeconds (2 ^ 62)) :
      2 * time < Instant.limit := calc
    2 * time < 2 * Span.ofSeconds (2 ^ 62) := Nat.mul_lt_mul_of_pos_left hlt Nat.two_pos
    _ = Instant.limit := by decide
  have hsound := (reached_of_execution h ht (fun m => hhalf (hc m)) n).sound sound_new
  have hcomplete (k : PatternKey) (time : Instant) (hlt : time < Span.ofSeconds (2 ^ 62)) :=
    exists_complete_ok hsound.scheduled (hhalf hlt) k
  have hfinish (i : TaskId) (k : PatternKey) (time : Instant) (x : Except ClockOverflow Bool)
      (ha : E.event n = some (.finish i k time x)) : ∃ b, x = .ok b := by
    obtain ⟨m, -, rfl, -⟩ := ht.finish n i k time x ha
    obtain ⟨b, hb⟩ := hcomplete k (E.clock m) (hc m)
    exact ⟨b, (congrArg Prod.fst (finish_step h ha).2).symm.trans hb⟩
  refine ⟨hsound.scheduled, hcomplete, hfinish, fun a ha ho => ?_, hsound.alive⟩
  refine overbooks_of_overflows (h.step n a ha) ho fun i k time hfin => ?_
  obtain ⟨b, hb⟩ := hfinish i k time _ (hfin ▸ ha)
  cases hb

/-- In the middle of its range the clock can overflow at the end of a check. -/
example : (Schedule.complete
    [⟨sampleKey, Span.ofSeconds (2 ^ 62), none, Span.ofSeconds (2 ^ 62)⟩] sampleKey
    (Span.ofSeconds (2 ^ 62))).1 = .error .overflow := by
  decide

/-- While a key is checked, its interval becomes nearly as long as the clock's range. Another key is
then booked for a time beyond it. -/
def overbookedRun : List (Instant × Event) :=
  [(0, .start), (0, .add sampleKey 5 .ok), (0, .task 0 .arm), (0, .task 0 .readNote),
    (0, .task 0 .arm), (5000, .task 0 (.fire (some sampleKey))),
    (6000, .update sampleKey 9223372036854775801 .ok), (7000, .finish 0 sampleKey 7000 (.ok false)),
    (7000, .add otherKey 9223372036854775801 .overflow)]

theorem legal_overbookedRun : Legal {} overbookedRun := by
  refine ⟨trivial, rfl, ⟨_, rfl, rfl⟩, ⟨_, rfl, by decide, _, _, rfl⟩, ⟨_, rfl, rfl⟩, ?_⟩
  exact ⟨⟨_, rfl, _, _, rfl, by decide, rfl⟩, rfl, ⟨rfl, rfl⟩, rfl, trivial⟩

theorem overbookedRun_task_alive :
    Valid (.replay overbookedRun) ∧ Timely (.replay overbookedRun) ∧
    (∀ n, (Execution.replay overbookedRun).clock n < Span.ofSeconds (2 ^ 62)) ∧
    (∃ b, (((Execution.replay overbookedRun).state 7).schedule.complete sampleKey 7000).1 = .ok b) ∧
    Overbooks 7000 (.add otherKey 9223372036854775801 .overflow) ∧
    ((Execution.replay overbookedRun).state 9).Alive 0 := by
  have hv := valid_replay legal_overbookedRun
  have ht : Timely (.replay overbookedRun) :=
    timely_replay legal_overbookedRun (by decide) (by simp +contextual [overbookedRun, eq_comm])
  have hc (n : ℕ) : (Execution.replay overbookedRun).clock n < Span.ofSeconds (2 ^ 62) :=
    Nat.lt_of_le_of_lt (clock_replay_le (l := overbookedRun) (b := 7000) (by decide) n) (by decide)
  obtain ⟨-, hcomplete, -, -, -⟩ := only_bookings_overflow hv ht hc 7
  obtain ⟨-, -, -, hover, -⟩ := only_bookings_overflow hv ht hc 8
  obtain ⟨-, -, -, -, halive⟩ := only_bookings_overflow hv ht hc 9
  exact ⟨hv, ht, hc, hcomplete sampleKey 7000 (by decide), hover _ rfl rfl, halive 0 rfl⟩

end GitDrift.Drift
