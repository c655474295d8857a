import GitDrift.Proofs.Starvation

/-!
What a check does to a schedule that its key got while it was under way. The end of a check knows
its entry by the key alone, and so a newer schedule is kept only as long as it is not due.
-/
namespace GitDrift.Drift

variable {E : Execution} {m n r : ℕ} {k : PatternKey} {i : TaskId} {time : Instant} {d : Span}
  {x : Except ClockOverflow Bool} {w w' : Watcher} {s : Schedule} {e : Entry}

theorem Entry.finished_eq_self_iff (hl : e.lastCheck = none) :
    e.finished time = some e ↔ time < e.nextCheck := by
  unfold Entry.finished
  split_ifs with hlate hfits
  · simp [hlate]
  · -- the end of the check is recorded in the new entry
    have hne : Schedule.checked e time ≠ e := by
      intro heq
      have hlast : some time = e.lastCheck := congrArg Entry.lastCheck heq
      simp [hl] at hlast
    simp [hne, hlate]
  · simp [hlate]

/-- While a task is checking, nobody but clients changes an entry. -/
theorem entry_kept_during_check (h : Valid E) (hm : E.Starts i k m) (hmr : m < r) (hrn : r < n)
    (hown : ∀ q, m < q → q < n → E.actor? q ≠ some i)
    (hlast : ∀ q, r < q → q < n → ¬ E.Disturbs k q) : E.entry n k = E.entry (r + 1) k := by
  refine entry_kept h hrn fun q hrq hqn => key?_effect_ne (hlast q hrq hqn) ?_
  intro j t y hev
  have hmq : m < q := Nat.lt_trans hmr hrq
  have hchk := checking_until h hm hmq fun p hmp hpq => hown p hmp (Nat.lt_trans hpq hqn)
  obtain rfl := alive_unique h hchk (by simp) (finish_step h hev).1 (by simp)
  exact hown q hmq hqn (by simp [Execution.actor?, hev, Event.actor?])

/-- The schedule that clients gave a key last while a check of it was under way stays until that
check is over. Then it survives if it is not due by the time at which the check was over. One that
is due gives way: the check counts as the one that was due under it, though it had started before,
and the next is an interval later. -/
theorem newer_schedule_survives_iff (h : Valid E) (hm : E.Starts i k m) (hmr : m < r)
    (hrn : r < n) (hown : ∀ q, m < q → q < n → E.actor? q ≠ some i) (hr : E.Reschedules k r)
    (hlast : ∀ q, r < q → q < n → ¬ E.Disturbs k q)
    (hn : E.event n = some (.finish i k time x)) :
    ∃ d, E.Chooses k r d ∧ E.entry n k = some ⟨k, d, none, E.clock r + d⟩ ∧
      (E.entry (n + 1) k = E.entry n k ↔ time < E.clock r + d) ∧
      (E.clock r + d ≤ time → E.entry (n + 1) k =
        if time + d < Instant.limit then some ⟨k, d, some time, time + d⟩ else none) := by
  obtain ⟨d, hb⟩ := reschedules_effect hr
  have hgiven : E.entry (r + 1) k = some ⟨k, d, none, E.clock r + d⟩ := by
    rw [entry_succ h, hb, Effect.onEntry, if_pos rfl]
  have hentry := (entry_kept_during_check h hm hmr hrn hown hlast).trans hgiven
  have hafter := entry_after_finish h hn hentry
  refine ⟨d, (books_event hb).1, hentry, ?_, fun hdue => ?_⟩
  · rw [hafter, hentry]
    exact Entry.finished_eq_self_iff rfl
  · rw [hafter, Entry.finished, if_neg (Nat.not_lt.mpr hdue)]
    rfl

/-- A key whose interval is given while a check of it takes a time. -/
def rescheduledRun (seconds : Int) (survives : Bool) : List (Instant × Event) :=
  [(0, .start), (0, .add sampleKey 5 .ok), (0, .task 0 .arm), (0, .task 0 .readNote),
    (0, .task 0 .arm), (5000, .task 0 (.fire (some sampleKey))),
    (5000, .update sampleKey seconds .ok), (8000, .finish 0 sampleKey 8000 (.ok (!survives)))]

theorem legal_rescheduledRun {seconds : Int} {survives : Bool}
    (hu : (replayed {} (rescheduledRun seconds survives) 6).Possible 5000
      (.update sampleKey seconds .ok))
    (hf : (replayed {} (rescheduledRun seconds survives) 7).Possible 8000
      (.finish 0 sampleKey 8000 (.ok (!survives)))) :
    Legal {} (rescheduledRun seconds survives) := by
  refine ⟨trivial, rfl, ⟨_, rfl, rfl⟩, ⟨_, rfl, by decide, _, _, rfl⟩, ⟨_, rfl, rfl⟩, ?_⟩
  exact ⟨⟨_, rfl, _, _, rfl, by decide, rfl⟩, hu, hf, trivial⟩

/-- An interval of half a minute is not over when the check is. -/
theorem rescheduledRun_survives :
    let E := Execution.replay (rescheduledRun 30 true)
    E.Starts 0 sampleKey 5 ∧ E.Reschedules sampleKey 6 ∧
      E.event 7 = some (.finish 0 sampleKey 8000 (.ok false)) ∧
      E.entry 8 sampleKey = some ⟨sampleKey, 30000, none, 35000⟩ := by
  intro E
  have hv : Valid E := valid_replay (legal_rescheduledRun rfl ⟨rfl, rfl⟩)
  have hs : E.Starts 0 sampleKey 5 := rfl
  have hr : E.Reschedules sampleKey 6 :=
    Or.inr ⟨30, ⟨sampleKey, 5000, none, 5000⟩, by decide, rfl, rfl, by decide⟩
  have hown : ∀ q, 5 < q → q < 7 → E.actor? q ≠ some 0 := by
    intro q hq hq'
    interval_cases q
    decide
  have hlast : ∀ q, 6 < q → q < 7 → ¬ E.Disturbs sampleKey q := fun q hq hq' => by omega
  obtain ⟨d, _, hentry, hsurvives, _⟩ :=
    newer_schedule_survives_iff hv hs (by decide) (by decide) hown hr hlast rfl
  have hgiven : E.entry 7 sampleKey = some ⟨sampleKey, 30000, none, 35000⟩ := rfl
  have hdue : E.clock 6 + d = 35000 :=
    congrArg Entry.nextCheck (Option.some.inj (hentry.symm.trans hgiven))
  exact ⟨hs, hr, rfl, (hsurvives.mpr (hdue ▸ by decide)).trans hgiven⟩

/-- An interval of a second is over before the check is: the check that had started under the old
interval counts as the one due under the new. -/
theorem short_interval_gives_way :
    let E := Execution.replay (rescheduledRun 1 false)
    Valid E ∧ Timely E ∧ E.Starts 0 sampleKey 5 ∧ E.Reschedules sampleKey 6 ∧
      E.event 7 = some (.finish 0 sampleKey 8000 (.ok true)) ∧
      E.entry 7 sampleKey = some ⟨sampleKey, 1000, none, 6000⟩ ∧
      E.entry 8 sampleKey = some ⟨sampleKey, 1000, some 8000, 9000⟩ := by
  intro E
  have hl : Legal {} (rescheduledRun 1 false) := legal_rescheduledRun rfl ⟨rfl, rfl⟩
  have ht : Timely E :=
    timely_replay hl (by decide) (by simp +contextual [rescheduledRun, eq_comm])
  have hr : E.Reschedules sampleKey 6 :=
    Or.inr ⟨1, ⟨sampleKey, 5000, none, 5000⟩, by decide, rfl, rfl, by decide⟩
  exact ⟨valid_replay hl, ht, rfl, hr, rfl, rfl, rfl⟩

end GitDrift.Drift
