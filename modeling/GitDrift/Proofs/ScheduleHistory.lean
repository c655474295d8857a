import GitDrift.Proofs.Execution
import Mathlib.Data.List.Perm.Basic

/-! The schedule of an execution, read off what clients asked for and which checks have finished. -/
namespace GitDrift.Drift

namespace Execution

variable (E : Execution) (k : PatternKey) (n : ℕ)

/-- A client adds a key. -/
def Adds : Prop := ∃ seconds, E.event n = some (.add k seconds .ok)

/-- A client removes a key, or gives it a negative interval. -/
def Removes : Prop :=
  E.event n = some (.remove k .ok) ∨
    ∃ seconds, seconds < 0 ∧ E.event n = some (.update k seconds .ok)

/-- A client adds or updates a key, and the interval that it gives it is not negative. -/
def Chooses (d : Span) : Prop :=
  ∃ seconds, d = Span.ofSeconds seconds.toNat ∧ (E.event n = some (.add k seconds .ok) ∨
    0 ≤ seconds ∧ E.event n = some (.update k seconds .ok))

/-- A client adds a key, or changes the interval of a key that is watched. -/
def Reschedules : Prop :=
  E.Adds k n ∨ ∃ seconds e, 0 ≤ seconds ∧ E.event n = some (.update k seconds .ok) ∧
    E.entry n k = some e ∧ e.interval ≠ Span.ofSeconds seconds.toNat

/-- The clock has not overflowed before a step. -/
def OverflowFree : Prop := ∀ m < n, ∀ k, E.effect m ≠ .loses k

end Execution

variable {E : Execution} {n m : ℕ} {k : PatternKey} {d : Span} {e : Entry}

theorem drops_iff : E.effect n = .drops k ↔ E.Removes k n := by
  cases ha : E.event n with
  | none => simp [effect_of_idle ha, Execution.Removes, ha]
  | some a =>
    simp only [effect_of_event ha, Execution.Removes, ha]
    unfold Watcher.effect
    split <;> (try split_ifs) <;> simp_all

theorem adds_effect (h : E.Adds k n) : ∃ d, E.effect n = .books k d := by
  obtain ⟨seconds, ha⟩ := h
  exact ⟨Span.ofSeconds seconds.toNat, by rw [effect_of_event ha, Watcher.effect]⟩

/-- Choosing the interval that a key has already keeps everything. -/
theorem chooses_effect (h : E.Chooses k n d) :
    E.effect n = .books k d ∨
      (E.effect n = .keeps ∧ ∃ e, E.entry n k = some e ∧ e.interval = d) := by
  obtain ⟨seconds, rfl, ha | ⟨hs, ha⟩⟩ := h
  · exact Or.inl (effect_of_event ha)
  · simp only [effect_of_event ha, Watcher.effect, Int.not_lt.mpr hs, if_false]
    split
    · rename_i he
      exact Or.inr ⟨rfl, Option.map_eq_some_iff.mp he⟩
    · exact Or.inl rfl

theorem reschedules_effect (h : E.Reschedules k n) : ∃ d, E.effect n = .books k d := by
  obtain h | ⟨seconds, e, hs, ha, he, hi⟩ := h
  · exact adds_effect h
  · obtain hb | ⟨_, f, hf, hd⟩ := chooses_effect ⟨seconds, rfl, Or.inr ⟨hs, ha⟩⟩
    · exact ⟨_, hb⟩
    · rw [he] at hf
      obtain rfl := Option.some.inj hf
      exact absurd hd hi

theorem books_event (h : E.effect n = .books k d) :
    E.Chooses k n d ∧ (E.Adds k n ∨ ∃ seconds, 0 ≤ seconds ∧ d = Span.ofSeconds seconds.toNat ∧
      E.event n = some (.update k seconds .ok)) := by
  cases ha : E.event n with
  | none => cases (effect_of_idle ha).symm.trans h
  | some a =>
    rw [effect_of_event ha] at h
    unfold Watcher.effect at h
    split at h <;> (try split_ifs at h) <;> try cases h
    · exact ⟨⟨_, rfl, Or.inl ha⟩, Or.inl ⟨_, ha⟩⟩
    · exact ⟨⟨_, rfl, Or.inr ⟨by omega, ha⟩⟩, Or.inr ⟨_, by omega, rfl, rfl⟩⟩

theorem books_reschedules (h : Valid E) (hb : E.effect n = .books k d) : E.Reschedules k n := by
  obtain ⟨_, hadd | ⟨seconds, hs, rfl, ha⟩⟩ := books_event hb
  · exact Or.inl hadd
  · have hstep := h.step n _ ha
    generalize E.state (n + 1) = w' at hstep
    cases hstep with
    | update hu =>
      rcases Watcher.updateInterval_cases hu with ⟨hneg, _⟩ | ⟨_, e, he, hc⟩ | ⟨⟨x, hx⟩, _⟩
      · omega
      · refine Or.inr ⟨seconds, e, hs, ha, he, ?_⟩
        rcases hc with ⟨hi, _⟩ | ⟨hi, _⟩
        · simp [effect_of_event ha, Watcher.effect, Int.not_lt.mpr hs, he, hi] at hb
        · exact hi
      · cases hx

/-- Something that is brought about by `A` and undone by `R` holds if `A` has happened and `R` has
not happened since. -/
theorem since_iff {P A R : ℕ → Prop} (h0 : ¬ P 0)
    (hs : ∀ m < n, P (m + 1) ↔ A m ∨ P m ∧ ¬ R m) :
    P n ↔ ∃ m < n, A m ∧ ∀ r, m < r → r < n → ¬ R r := by
  induction n with
  | zero => simpa using h0
  | succ n ih =>
    rw [hs n (Nat.lt_succ_self n), ih fun m hm => hs m (by omega)]
    constructor
    · rintro (ha | ⟨⟨m, hm, ha, hr⟩, hn⟩)
      · exact ⟨n, Nat.lt_succ_self n, ha, fun r hnr hrn => by omega⟩
      · refine ⟨m, by omega, ha, fun r hmr hrn => ?_⟩
        rcases Nat.lt_or_eq_of_le (Nat.le_of_lt_succ hrn) with hlt | rfl
        · exact hr r hmr hlt
        · exact hn
    · rintro ⟨m, hm, ha, hr⟩
      rcases Nat.lt_or_eq_of_le (Nat.le_of_lt_succ hm) with hlt | rfl
      · exact Or.inr ⟨⟨m, hlt, ha, fun r hmr hrn => hr r hmr (by omega)⟩,
          hr n hlt (Nat.lt_succ_self n)⟩
      · exact Or.inl ha

theorem mem_watched_iff : k ∈ (E.state n).watched ↔ ∃ e, E.entry n k = some e :=
  Schedule.mem_keys_iff

theorem watched_succ (h : Valid E) (ho : ∀ k, E.effect n ≠ .loses k) (k : PatternKey) :
    k ∈ (E.state (n + 1)).watched ↔ E.Adds k n ∨ k ∈ (E.state n).watched ∧ ¬ E.Removes k n := by
  rw [mem_watched_iff, mem_watched_iff, ← drops_iff]
  obtain ⟨d, hb, he⟩ | ⟨hd | hl, he⟩ | ⟨time, e, hc, he, _, he'⟩ | ⟨hk, he⟩ :=
    entry_succ_cases h n k
  · rcases books_reschedules h hb with ha | ⟨_, e, _, _, hw, _⟩
    · simp [he, ha]
    · simp [he, hb, hw]
  · have ha : ¬ E.Adds k n := by
      intro ha
      obtain ⟨d, hb⟩ := adds_effect ha
      simp [hb] at hd
    simp [he, hd, ha]
  · exact absurd hl (ho k)
  · simp [he, he', hc]
  · have ha : ¬ E.Adds k n := by
      intro ha
      obtain ⟨d, hb⟩ := adds_effect ha
      simp [hb, Effect.key?] at hk
    have hd : E.effect n ≠ .drops k := by
      intro hd
      simp [hd, Effect.key?] at hk
    simp [he, hd, ha]

theorem interval_succ (h : Valid E) (he : E.entry (n + 1) k = some e) :
    E.Chooses k n e.interval ∨
      (∀ d, ¬ E.Chooses k n d) ∧ ∃ f, E.entry n k = some f ∧ f.interval = e.interval := by
  obtain ⟨d, hb, he'⟩ | ⟨_, he'⟩ | ⟨time, f, hc, hf, _, he'⟩ | ⟨hk, he'⟩ := entry_succ_cases h n k
  · obtain rfl := Option.some.inj (he'.symm.trans he)
    exact Or.inl (books_event hb).1
  · simp [he'] at he
  · obtain rfl := Option.some.inj (he'.symm.trans he)
    refine Or.inr ⟨fun d hd => ?_, f, hf, rfl⟩
    rcases chooses_effect hd with hb | ⟨hb, _⟩ <;> simp [hb] at hc
  · rw [he'] at he
    by_cases hd : ∃ d, E.Chooses k n d
    · obtain ⟨d, hd⟩ := hd
      rcases chooses_effect hd with hb | ⟨_, f, hf, rfl⟩
      · simp [hb, Effect.key?] at hk
      · obtain rfl := Option.some.inj (hf.symm.trans he)
        exact Or.inl hd
    · exact Or.inr ⟨fun d hc => hd ⟨d, hc⟩, e, he, rfl⟩

theorem interval_latest (h : Valid E) (n : ℕ) : ∀ {e}, E.entry n k = some e →
    ∃ m, Latest (fun r => ∃ d, E.Chooses k r d) n m ∧ E.Chooses k m e.interval := by
  induction n with
  | zero => simp [Execution.entry, h.initial, Schedule.entryOf]
  | succ n ih =>
    intro e he
    rcases interval_succ h he with hc | ⟨hc, f, hf, hi⟩
    · exact ⟨n, latest_succ_self ⟨_, hc⟩, hc⟩
    · obtain ⟨m, hm, hcm⟩ := ih hf
      exact ⟨m, hm.succ (not_exists.mpr hc), hi ▸ hcm⟩

theorem nextCheck_latest (h : Valid E) (n : ℕ) : ∀ {e}, E.entry n k = some e →
    (∀ t, e.lastCheck = some t → e.nextCheck = t + e.interval) ∧
    (e.lastCheck = none →
      ∃ m, Latest (E.Reschedules k) n m ∧ e.nextCheck = E.clock m + e.interval) := by
  induction n with
  | zero => simp [Execution.entry, h.initial, Schedule.entryOf]
  | succ n ih =>
    intro e he
    obtain ⟨d, hb, he'⟩ | ⟨_, he'⟩ | ⟨time, f, hc, hf, _, he'⟩ | ⟨hk, he'⟩ :=
      entry_succ_cases h n k
    · obtain rfl := Option.some.inj (he'.symm.trans he)
      exact ⟨by simp, fun _ => ⟨n, latest_succ_self (books_reschedules h hb), rfl⟩⟩
    · simp [he'] at he
    · obtain rfl := Option.some.inj (he'.symm.trans he)
      refine ⟨fun t ht => ?_, fun hl => by simp [Schedule.checked] at hl⟩
      obtain rfl : time = t := by simpa [Schedule.checked] using ht
      rfl
    · obtain ⟨hlast, hnone⟩ := ih (he' ▸ he)
      refine ⟨hlast, fun hl => ?_⟩
      obtain ⟨m, hm, hn⟩ := hnone hl
      refine ⟨m, hm.succ fun hr => ?_, hn⟩
      obtain ⟨d, hb⟩ := reschedules_effect hr
      simp [hb, Effect.key?] at hk

/-- The schedule holds one entry for each key that was added and not removed since. Its interval is
what a client chose last, and it is due one interval after its last check or, when it was not
checked since, after it was last rescheduled. Nothing that tasks do, and no start and no stop, adds
or takes away a key. -/
theorem schedule_follows_history (h : Valid E) (ho : E.OverflowFree n) :
    (E.state n).watched.Nodup ∧
    (∀ k, k ∈ (E.state n).watched ↔
      ∃ m < n, E.Adds k m ∧ ∀ r, m < r → r < n → ¬ E.Removes k r) ∧
    (∀ e ∈ (E.state n).schedule,
      (∃ m, Latest (fun r => ∃ d, E.Chooses e.key r d) n m ∧ E.Chooses e.key m e.interval) ∧
      (∀ t, e.lastCheck = some t → e.nextCheck = t + e.interval) ∧
      (e.lastCheck = none →
        ∃ m, Latest (E.Reschedules e.key) n m ∧ e.nextCheck = E.clock m + e.interval)) ∧
    ∀ m < n, (∀ k, ¬ E.Adds k m ∧ ¬ E.Removes k m) →
      (E.state (m + 1)).watched.Perm (E.state m).watched := by
  refine ⟨nodup_watched h n, fun k => ?_, fun e he => ?_, fun m hm hk => ?_⟩
  · apply since_iff (P := fun n => k ∈ (E.state n).watched)
    · simp [h.initial, Watcher.watched, Schedule.keys]
    · exact fun m hm => watched_succ h (ho m hm) k
  · have he : E.entry n e.key = some e := Schedule.entryOf_of_mem (nodup_watched h n) he
    exact ⟨interval_latest h n he, nextCheck_latest h n he⟩
  · refine (List.perm_ext_iff_of_nodup (nodup_watched h _) (nodup_watched h _)).mpr fun k => ?_
    rw [watched_succ h (ho m hm)]
    simp [hk k]

theorem sampleRun_follows_history :
    (Execution.replay sampleRun).OverflowFree 9 ∧
      (sampleKey ∈ ((Execution.replay sampleRun).state 9).watched ↔
        ∃ m < 9, (Execution.replay sampleRun).Adds sampleKey m ∧
          ∀ r, m < r → r < 9 → ¬ (Execution.replay sampleRun).Removes sampleKey r) ∧
      ∀ e ∈ ((Execution.replay sampleRun).state 9).schedule, ∀ t, e.lastCheck = some t →
        e.nextCheck = t + e.interval := by
  have ho : (Execution.replay sampleRun).OverflowFree 9 := by
    intro m hm k h
    interval_cases m <;> cases h
  obtain ⟨_, hw, he, _⟩ := schedule_follows_history valid_sampleRun ho
  exact ⟨ho, hw sampleKey, fun e hmem => (he e hmem).2.1⟩

end GitDrift.Drift
