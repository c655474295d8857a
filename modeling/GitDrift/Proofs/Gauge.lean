import GitDrift.Proofs.ScheduleHistory

/-!
What a change that fails leaves behind, and what the gauge of watched keys shows. A change that is
refused leaves everything. One over which the clock overflows takes the entry of its key along, and
the gauge goes on to count it until the next change.
-/
namespace GitDrift.Drift

variable {w w' : Watcher} {a : Event} {now : Instant} {k : PatternKey} {d : Span} {r : ChangeResult}

namespace Schedule

variable {s : Schedule} {e : Entry}

theorem without_eq_self_iff : s.without k = s ↔ k ∉ s.keys := by
  rw [without, List.filter_eq_self]
  simp [keys]

theorem length_without (hn : s.keys.Nodup) (hk : k ∈ s.keys) :
    (s.without k).length + 1 = s.length := by
  induction s with
  | nil => simp [keys] at hk
  | cons f s ih =>
    obtain ⟨hf, hn⟩ : f.key ∉ keys s ∧ (keys s).Nodup := List.nodup_cons.mp hn
    by_cases hfk : f.key = k
    · have hdrop : without (f :: s) k = without s k := by simp [without, hfk]
      have hrest : without s k = s := without_eq_self_iff.mpr (hfk ▸ hf)
      rw [hdrop, hrest, List.length_cons]
    · have hkeep : without (f :: s) k = f :: without s k := by simp [without, hfk]
      have hks : k ∈ keys s := (List.mem_cons.mp hk).resolve_left fun h => hfk h.symm
      rw [hkeep, List.length_cons, List.length_cons, ih hn hks]

theorem length_replace (hn : s.keys.Nodup) (he : e.key ∈ s.keys) :
    (place e (s.without e.key)).length = s.length := by
  rw [(place_perm e (s.without e.key)).length_eq, List.length_cons, length_without hn he]

end Schedule

/-- The key that a client changes, and how that ended. -/
def Event.change? : Event → Option (PatternKey × ChangeResult)
  | .add k _ r | .remove k r | .update k _ r => some (k, r)
  | _ => none

namespace Watcher

/-- The watcher after a change that was refused, or over which the clock overflowed. -/
def failed (w : Watcher) (k : PatternKey) : ChangeResult → Watcher
  | .overflow => { w with schedule := w.schedule.without k }
  | _ => w

theorem reschedule_failed (h : w.reschedule k d now = (r, w')) (hr : r ≠ .ok) :
    w' = w.failed k r := by
  rcases reschedule_cases h with ⟨rfl, _⟩ | ⟨rfl, rfl⟩
  · exact absurd rfl hr
  · rfl

theorem remove_failed (h : w.remove k = (r, w')) (hr : r ≠ .ok) : w' = w.failed k r := by
  rcases remove_cases h with ⟨rfl, _⟩ | ⟨⟨e, rfl⟩, rfl⟩
  · exact absurd rfl hr
  · rfl

theorem add_failed {seconds : Int} (h : w.add k seconds now = (r, w')) (hr : r ≠ .ok) :
    w' = w.failed k r := by
  rcases add_cases h with ⟨_, h⟩ | ⟨⟨e, rfl⟩, rfl⟩
  · exact reschedule_failed h hr
  · rfl

theorem updateInterval_failed {seconds : Int} (h : w.updateInterval k seconds now = (r, w'))
    (hr : r ≠ .ok) : w' = w.failed k r := by
  rcases updateInterval_cases h with
    ⟨_, h⟩ | ⟨_, e, _, ⟨_, rfl, _⟩ | ⟨_, h⟩⟩ | ⟨⟨e, rfl⟩, rfl⟩
  · exact remove_failed h hr
  · exact absurd rfl hr
  · exact reschedule_failed h hr
  · rfl

end Watcher

theorem change_failed (h : Step now w a w') (ha : a.change? = some (k, r)) (hr : r ≠ .ok) :
    w' = w.failed k r := by
  cases h with
  | add h =>
    obtain ⟨rfl, rfl⟩ := Prod.mk.inj (Option.some.inj ha)
    exact Watcher.add_failed h hr
  | remove h =>
    obtain ⟨rfl, rfl⟩ := Prod.mk.inj (Option.some.inj ha)
    exact Watcher.remove_failed h hr
  | update h =>
    obtain ⟨rfl, rfl⟩ := Prod.mk.inj (Option.some.inj ha)
    exact Watcher.updateInterval_failed h hr
  | _ => cases ha

/-- Of a change that fails nothing is left if and only if the clock did not overflow over a key that
is watched. -/
theorem failed_eq_self_iff : w.failed k r = w ↔ ¬ (r = .overflow ∧ k ∈ w.watched) := by
  cases r with
  | overflow =>
    have hschedule : w.failed k .overflow = w ↔ w.schedule.without k = w.schedule :=
      ⟨fun h => congrArg Watcher.schedule h, fun h => by rw [Watcher.failed, h]⟩
    rw [hschedule, Schedule.without_eq_self_iff, Watcher.watched]
    simp
  | _ => simp [Watcher.failed]

/-- An effect after which the watched keys are counted. -/
def Effect.Counted : Effect → Prop
  | .books _ _ | .drops _ => True
  | _ => False

namespace Watcher

theorem touch_gauge : w.touch.gauge = w.schedule.length := by
  simp only [touch]
  split <;> rfl

theorem start_gauge : w.start.2.gauge = w.gauge := by
  unfold start
  split <;> rfl

theorem takeStep_gauge {id : TaskId} {step : TaskStep} : (w.takeStep id step).gauge = w.gauge := by
  unfold takeStep
  split <;> rfl

theorem finishCheck_gauge {id : TaskId} {x : Except ClockOverflow Bool}
    (h : w.finishCheck id k now = (x, w')) : w'.gauge = w.gauge := by
  obtain rfl := congrArg Prod.snd h
  rfl

end Watcher

/-- A change that succeeds sets the gauge to the number of watched keys, and nothing else sets
it. -/
theorem gauge_step (h : Step now w a w') :
    ((w.effect a).Counted ∧ w'.gauge = w'.schedule.length) ∨
      (¬ (w.effect a).Counted ∧ w'.gauge = w.gauge) := by
  cases h with
  | start => exact Or.inr ⟨by simp [Watcher.effect, Effect.Counted], Watcher.start_gauge⟩
  | stop id => exact Or.inr ⟨by simp [Watcher.effect, Effect.Counted], rfl⟩
  | add h =>
    rcases Watcher.add_cases h with ⟨_, h⟩ | ⟨⟨e, rfl⟩, rfl⟩
    · rcases Watcher.reschedule_cases h with ⟨rfl, rfl⟩ | ⟨rfl, rfl⟩ <;>
        simp [Watcher.effect, Effect.Counted, Watcher.touch_gauge]
    · simp [Watcher.effect, Effect.Counted]
  | remove h =>
    rcases Watcher.remove_cases h with ⟨rfl, rfl⟩ | ⟨⟨e, rfl⟩, rfl⟩ <;>
      simp [Watcher.effect, Effect.Counted, Watcher.touch_gauge]
  | @update k seconds r w' h =>
    rcases Watcher.updateInterval_cases h with ⟨hs, h⟩ | ⟨hs, e, he, h⟩ | ⟨⟨e, rfl⟩, rfl⟩
    · rcases Watcher.remove_cases h with ⟨rfl, rfl⟩ | ⟨⟨e, rfl⟩, rfl⟩ <;>
        simp [Watcher.effect, Effect.Counted, Watcher.touch_gauge, hs]
    · have hs : ¬ seconds < 0 := by omega
      rcases h with ⟨hi, rfl, rfl⟩ | ⟨hi, h⟩
      · simp [Watcher.effect, Effect.Counted, hs, he, hi]
      · rcases Watcher.reschedule_cases h with ⟨rfl, rfl⟩ | ⟨rfl, rfl⟩ <;>
          simp [Watcher.effect, Effect.Counted, Watcher.touch_gauge, hs, he, hi]
    · simp [Watcher.effect, Effect.Counted]
  | task ht he => exact Or.inr ⟨by simp [Watcher.effect, Effect.Counted], Watcher.takeStep_gauge⟩
  | @finish id k time x w' hp h =>
    have hx : ¬ (w.effect (.finish id k time x)).Counted := by
      rcases x with e | b
      · simp [Watcher.effect, Effect.Counted]
      · cases b <;> simp [Watcher.effect, Effect.Counted]
    exact Or.inr ⟨hx, Watcher.finishCheck_gauge h⟩

/-- Only a change that succeeds, or an overflow of the clock, makes the watched keys more or
fewer. -/
theorem length_apply {f : Effect} {s : Schedule} (hn : s.keys.Nodup) (hf : ¬ f.Counted)
    (hl : ∀ k, f = .loses k → k ∉ s.keys) : (f.apply now s).length = s.length := by
  cases f with
  | books k d => exact absurd trivial hf
  | drops k => exact absurd trivial hf
  | completes k time =>
    rw [Effect.apply]
    split
    · rename_i e he
      have hke : (Schedule.checked e time).key = k := Schedule.key_of_entryOf (e := e) he
      have hmem : k ∈ s.keys := Schedule.mem_keys_iff.mpr ⟨e, he⟩
      rw [← hke] at hmem ⊢
      exact Schedule.length_replace hn hmem
    · rfl
  | loses k => rw [Effect.apply, Schedule.without_eq_self_iff.mpr (hl k rfl)]
  | keeps => rfl

namespace Execution

variable (E : Execution) (n : ℕ)

/-- The clock overflows over a key that is watched. -/
def LosesEntry : Prop := ∃ k, E.effect n = .loses k ∧ k ∈ (E.state n).watched

/-- A client's change succeeds and is more than a repetition. -/
def Recounts : Prop := (E.effect n).Counted

end Execution

variable {E : Execution} {n : ℕ}

theorem gauge_succ (h : Valid E) (n : ℕ) :
    (E.Recounts n ∧ (E.state (n + 1)).gauge = (E.state (n + 1)).schedule.length) ∨
      (¬ E.Recounts n ∧ (E.state (n + 1)).gauge = (E.state n).gauge) := by
  cases ha : E.event n with
  | none =>
    right
    rw [Execution.Recounts, effect_of_idle ha, h.idle n ha]
    exact ⟨id, rfl⟩
  | some a =>
    rw [Execution.Recounts, effect_of_event ha]
    exact gauge_step (h.step n a ha)

theorem length_succ_of_lost (h : Valid E) (hl : E.LosesEntry n) :
    (E.state (n + 1)).schedule.length + 1 = (E.state n).schedule.length := by
  obtain ⟨k, he, hk⟩ := hl
  rw [schedule_succ h, he]
  exact Schedule.length_without (nodup_watched h n) hk

theorem length_succ_of_kept (h : Valid E) (hr : ¬ E.Recounts n) (hl : ¬ E.LosesEntry n) :
    (E.state (n + 1)).schedule.length = (E.state n).schedule.length := by
  rw [schedule_succ h]
  exact length_apply (nodup_watched h n) hr fun k he hk => hl ⟨k, he, hk⟩

theorem not_recounts_of_lost (hl : E.LosesEntry n) : ¬ E.Recounts n := by
  obtain ⟨k, he, _⟩ := hl
  rw [Execution.Recounts, he]
  exact id

/-- The gauge never shows less than there is. -/
theorem length_le_gauge (h : Valid E) (n : ℕ) :
    (E.state n).schedule.length ≤ (E.state n).gauge := by
  induction n with
  | zero => simp [h.initial]
  | succ n ih =>
    rcases gauge_succ h n with ⟨_, hg⟩ | ⟨hr, hg⟩
    · exact Nat.le_of_eq hg.symm
    · rw [hg]
      by_cases hl : E.LosesEntry n
      · have hlen := length_succ_of_lost h hl
        omega
      · rwa [length_succ_of_kept h hr hl]

theorem gauge_ne_succ (h : Valid E) (n : ℕ) :
    (E.state (n + 1)).gauge ≠ (E.state (n + 1)).schedule.length ↔
      E.LosesEntry n ∨
        (E.state n).gauge ≠ (E.state n).schedule.length ∧ ¬ E.Recounts n := by
  have hle := length_le_gauge h n
  rcases gauge_succ h n with ⟨hr, hg⟩ | ⟨hr, hg⟩
  · have hl : ¬ E.LosesEntry n := fun hl => not_recounts_of_lost hl hr
    simp [hg, hr, hl]
  · by_cases hl : E.LosesEntry n
    · have hlen := length_succ_of_lost h hl
      simp only [hl, true_or, iff_true]
      omega
    · simp [hg, length_succ_of_kept h hr hl, hl, hr]

/-- A change that fails is as if it had not been tried, unless the clock overflows over a key that
is watched: then the entry of the key is gone, and nothing else. The gauge shows the number of
watched keys if and only if each entry over which the clock overflowed was followed by a change that
succeeded. -/
theorem gauge_exact_iff (h : Valid E) (n : ℕ) :
    (∀ now a w' k r, Step now (E.state n) a w' → a.change? = some (k, r) → r ≠ .ok →
      w'.generation = (E.state n).generation ∧ w'.gauge = (E.state n).gauge ∧
      (w' = E.state n ↔ ¬ (r = .overflow ∧ k ∈ (E.state n).watched)) ∧
      (r = .overflow → w' = { E.state n with schedule := (E.state n).schedule.without k })) ∧
    ((E.state n).gauge = (E.state n).schedule.length ↔
      ∀ m < n, E.LosesEntry m → ∃ r, m < r ∧ r < n ∧ E.Recounts r) := by
  constructor
  · intro now a w' k r hs ha hr
    obtain rfl := change_failed hs ha hr
    refine ⟨?_, ?_, failed_eq_self_iff, fun ho => by rw [ho, Watcher.failed]⟩
    · cases r <;> rfl
    · cases r <;> rfl
  · have hinexact := since_iff (n := n)
      (P := fun n => (E.state n).gauge ≠ (E.state n).schedule.length) (A := E.LosesEntry)
      (R := E.Recounts) (by simp [h.initial]) fun m _ => gauge_ne_succ h m
    rw [← not_iff_not, ← ne_eq, hinexact]
    push Not
    rfl

/-- A key is watched, an interval is chosen for it at which the clock overflows, and it is added
again. -/
def overflowRun : List (Instant × Event) :=
  [(0, .start), (0, .add sampleKey 300 .ok), (1000, .add sampleKey 9223372036854775807 .overflow),
    (1000, .add sampleKey 300 .ok)]

theorem valid_overflowRun : Valid (.replay overflowRun) :=
  valid_replay ⟨trivial, rfl, rfl, rfl, trivial⟩

theorem overflowRun_gauge_exact : Valid (.replay overflowRun) ∧
    (∃ w', Step 1000 ((Execution.replay overflowRun).state 2)
        (.add sampleKey 9223372036854775807 .overflow) w' ∧
      w'.gauge = ((Execution.replay overflowRun).state 2).gauge ∧
      w' = { (Execution.replay overflowRun).state 2 with
        schedule := ((Execution.replay overflowRun).state 2).schedule.without sampleKey }) ∧
    (((Execution.replay overflowRun).state 4).gauge =
        ((Execution.replay overflowRun).state 4).schedule.length ↔
      ∀ m < 4, (Execution.replay overflowRun).LosesEntry m →
        ∃ r, m < r ∧ r < 4 ∧ (Execution.replay overflowRun).Recounts r) := by
  have hstep := valid_overflowRun.step 2 _ rfl
  obtain ⟨_, hgauge, _, hlost⟩ :=
    (gauge_exact_iff valid_overflowRun 2).1 1000 _ _ sampleKey .overflow hstep rfl (by decide)
  exact ⟨valid_overflowRun, ⟨_, hstep, hgauge, hlost rfl⟩, (gauge_exact_iff valid_overflowRun 4).2⟩

/-- Adding a watched key with an interval at which the clock overflows ends its watch, and the gauge
does not show it. -/
theorem overflowing_add_unwatches : Valid (.replay overflowRun) ∧
    (Execution.replay overflowRun).event 2 =
      some (.add sampleKey 9223372036854775807 .overflow) ∧
    sampleKey ∈ ((Execution.replay overflowRun).state 2).watched ∧
    sampleKey ∉ ((Execution.replay overflowRun).state 3).watched ∧
    ((Execution.replay overflowRun).state 3).gauge ≠
      ((Execution.replay overflowRun).state 3).schedule.length :=
  ⟨valid_overflowRun, rfl, by decide, by decide, by decide⟩

end GitDrift.Drift
