import GitDrift.Proofs.ScheduleHistory

/-!
When checks start. A check starts for the head of the schedule and only when that is due, by a timer
that is not outdated, and never while another check is under way.
-/
namespace GitDrift.Drift

variable {E : Execution} {m n : ℕ} {k : PatternKey} {d : Option Instant} {g : UInt64}
  {e f : Entry} {i j id : TaskId}

namespace Execution

/-- A task starts a check of a key. -/
def Starts (E : Execution) (id : TaskId) (k : PatternKey) (n : ℕ) : Prop :=
  E.event n = some (.task id (.fire (some k)))

/-- A key gets a place in the schedule, from a client or by the end of a check. -/
def Schedules (E : Execution) (k : PatternKey) (n : ℕ) : Prop :=
  E.Reschedules k n ∨ ∃ id time, E.event n = some (.finish id k time (.ok true))

end Execution

theorem completes_event {time : Instant} (hc : E.effect n = .completes k time) :
    ∃ id, E.event n = some (.finish id k time (.ok true)) := by
  cases ha : E.event n with
  | none => cases (effect_of_idle ha).symm.trans hc
  | some a =>
    obtain ⟨id, rfl⟩ := effect_eq_completes_iff.mp ((effect_of_event ha).symm.trans hc)
    exact ⟨id, rfl⟩

theorem schedules_key? (h : E.Schedules k n) : (E.effect n).key? = some k := by
  rcases h with hr | ⟨id, time, ha⟩
  · obtain ⟨d, hb⟩ := reschedules_effect hr
    rw [hb, Effect.key?]
  · rw [effect_of_event ha, Watcher.effect, Effect.key?]

theorem latest_succ_iff {P : ℕ → Prop} (hn : ¬ P n) : Latest P (n + 1) m ↔ Latest P n m := by
  refine ⟨fun ⟨hm, hp, hr⟩ => ?_, fun h => h.succ hn⟩
  rcases Nat.lt_or_eq_of_le (Nat.le_of_lt_succ hm) with hlt | rfl
  · exact ⟨hlt, hp, fun r hmr hrn => hr r hmr (by omega)⟩
  · exact absurd hp hn

theorem eq_of_latest_succ {P : ℕ → Prop} (hn : P n) (h : Latest P (n + 1) m) : m = n := by
  obtain ⟨hm, _, hr⟩ := h
  by_contra hne
  exact hr n (by omega) (Nat.lt_succ_self n) hn

/-- Entries that are due at one time stand in the order in which they were scheduled. -/
def Aged (E : Execution) (n : ℕ) (e f : Entry) : Prop :=
  e.nextCheck = f.nextCheck →
    ∀ a b, Latest (E.Schedules e.key) n a → Latest (E.Schedules f.key) n b → a < b

theorem Aged.succ (h : Aged E n e f) (he : (E.effect n).key? ≠ some e.key)
    (hf : (E.effect n).key? ≠ some f.key) : Aged E (n + 1) e f := by
  intro heq a b ha hb
  rw [latest_succ_iff fun hs => he (schedules_key? hs)] at ha
  rw [latest_succ_iff fun hs => hf (schedules_key? hs)] at hb
  exact h heq a b ha hb

theorem key?_ne_of_mem_without {s : Schedule} (hk : (E.effect n).key? = some k)
    (hf : f ∈ s.without k) : (E.effect n).key? ≠ some f.key := by
  rw [hk]
  exact fun he => (Schedule.mem_without.mp hf).2 (Option.some.inj he).symm

theorem pairwise_aged_without {s : Schedule} (hk : (E.effect n).key? = some k)
    (ha : s.Pairwise (Aged E n)) : (s.without k).Pairwise (Aged E (n + 1)) :=
  (ha.sublist (Schedule.without_sublist s k)).imp_of_mem fun hx hy hxy =>
    hxy.succ (key?_ne_of_mem_without hk hx) (key?_ne_of_mem_without hk hy)

/-- An entry that has just got its place is the youngest. -/
theorem pairwise_aged_place {s : Schedule} (ho : s.Ordered) (hs : E.Schedules e.key n)
    (ha : s.Pairwise (Aged E n)) : ((s.without e.key).place e).Pairwise (Aged E (n + 1)) := by
  have hk := schedules_key? hs
  apply Schedule.pairwise_place (ho.without e.key) (pairwise_aged_without hk ha)
  · intro f hf _ _ a b hfa hb
    obtain rfl := eq_of_latest_succ hs hb
    rw [latest_succ_iff fun hs => key?_ne_of_mem_without hk hf (schedules_key? hs)] at hfa
    exact hfa.1
  · exact fun f _ hlt heq => absurd heq (Nat.ne_of_lt hlt)

theorem pairwise_aged (h : Valid E) (n : ℕ) : (E.state n).schedule.Pairwise (Aged E n) := by
  induction n with
  | zero => simp [h.initial]
  | succ n ih =>
    rw [schedule_succ h]
    have hord := ordered_schedule h n
    cases hf : E.effect n with
    | books k d =>
      exact pairwise_aged_place (e := ⟨k, d, none, E.clock n + d⟩) hord
        (Or.inl (books_reschedules h hf)) ih
    | drops k => exact pairwise_aged_without (by rw [hf, Effect.key?]) ih
    | loses k => exact pairwise_aged_without (by rw [hf, Effect.key?]) ih
    | completes k time =>
      obtain ⟨e, he, _⟩ := completes_entry h hf
      obtain ⟨id, ha⟩ := completes_event hf
      have hke : (Schedule.checked e time).key = k := Schedule.key_of_entryOf (e := e) he
      simp only [Effect.apply, show (E.state n).schedule.entryOf k = some e from he]
      subst hke
      exact pairwise_aged_place (e := Schedule.checked e time) hord (Or.inr ⟨id, time, ha⟩) ih
    | keeps =>
      have hnone (e : Entry) : (E.effect n).key? ≠ some e.key := by simp [hf, Effect.key?]
      exact ih.imp fun hxy => hxy.succ (hnone _) (hnone _)

/-- Every entry got its place at some step. -/
theorem exists_latest_schedules (h : Valid E) (n : ℕ) : ∀ {e}, E.entry n k = some e →
    ∃ m, Latest (E.Schedules k) n m := by
  induction n with
  | zero => simp [Execution.entry, h.initial, Schedule.entryOf]
  | succ n ih =>
    intro e he
    obtain ⟨d, hb, _⟩ | ⟨_, he'⟩ | ⟨time, f, hc, _⟩ | ⟨hk, he'⟩ := entry_succ_cases h n k
    · exact ⟨n, latest_succ_self (Or.inl (books_reschedules h hb))⟩
    · simp [he'] at he
    · obtain ⟨id, ha⟩ := completes_event hc
      exact ⟨n, latest_succ_self (Or.inr ⟨id, time, ha⟩)⟩
    · obtain ⟨m, hm⟩ := ih (he' ▸ he)
      exact ⟨m, hm.succ fun hs => hk (schedules_key? hs)⟩

/-- A timer is that of the last step of its task, which looked at the head of the schedule. -/
theorem armed (h : Valid E) : ∀ n, (E.state n).phase? id = some (.waiting d g) →
    ∃ m < n, E.event m = some (.task id .arm) ∧ (∀ r, m < r → r < n → E.actor? r ≠ some id) ∧
      (E.state m).generation = g ∧ (E.state m).schedule.head?.map (·.nextCheck) = d := by
  intro n
  induction n with
  | zero => simp [h.initial, Watcher.phase?]
  | succ n ih =>
    intro hp
    have hlast {m} (hq : ∀ r, m < r → r < n → E.actor? r ≠ some id) (ha : E.actor? n ≠ some id) :
        ∀ r, m < r → r < n + 1 → E.actor? r ≠ some id := by
      intro r hmr hrn
      rcases Nat.lt_or_eq_of_le (Nat.le_of_lt_succ hrn) with hlt | rfl
      · exact hq r hmr hlt
      · exact ha
    cases hev : E.event n with
    | none =>
      rw [h.idle n hev] at hp
      obtain ⟨m, hm, hma, hq, hgd⟩ := ih hp
      exact ⟨m, by omega, hma, hlast hq (by simp [Execution.actor?, hev]), hgd⟩
    | some a =>
      rcases waiting_step (h.step n a hev) hp with ⟨rfl, hd, hg⟩ | ⟨ha, hp⟩
      · exact ⟨n, Nat.lt_succ_self n, hev, fun r hnr hrn => by omega, hg, hd⟩
      · obtain ⟨m, hm, hma, hq, hgd⟩ := ih hp
        exact ⟨m, by omega, hma, hlast hq (by simpa [Execution.actor?, hev] using ha), hgd⟩

/-- A check starts for the head of the schedule, which is due, and by a timer of the current
generation. -/
theorem starts_head (h : Valid E) (hs : E.Starts id k n) :
    (∃ d g, (E.state n).phase? id = some (.waiting d g) ∧ (E.state n).generation = g) ∧
      ∃ e, (E.state n).schedule.head? = some e ∧ e.nextCheck ≤ E.clock n ∧ e.key = k := by
  obtain ⟨t, ht, ⟨d, g, hp, _, hk⟩, _⟩ := task_step h hs
  obtain ⟨hg, hhead⟩ := Watcher.dueKey?_eq_some_iff.mp hk.symm
  exact ⟨⟨some d, g, by rw [Watcher.phase?, ht, Option.map_some, hp], hg⟩, hhead⟩

theorem entry_of_head (h : Valid E) (he : (E.state n).schedule.head? = some e) :
    E.entry n e.key = some e :=
  Schedule.entryOf_of_mem (nodup_watched h n) (List.mem_of_head? he)

/-- A key that has lost its entry stays without one until a client schedules it. -/
theorem entry_eq_none_until (h : Valid E) (hmn : m ≤ n) (hm : E.entry m k = none)
    (hr : ∀ r, m ≤ r → r < n → ¬ E.Reschedules k r) : E.entry n k = none := by
  induction n, hmn using Nat.le_induction with
  | base => exact hm
  | succ n hmn ih =>
    have hn := ih fun r hmr hrn => hr r hmr (by omega)
    obtain ⟨d, hb, _⟩ | ⟨_, he⟩ | ⟨time, f, hc, hf, _⟩ | ⟨_, he⟩ := entry_succ_cases h n k
    · exact absurd (books_reschedules h hb) (hr n hmn (Nat.lt_succ_self n))
    · exact he
    · simp [hn] at hf
    · exact he.trans hn

/-- While a task is checking, no other check ends. -/
theorem entry_while_checking (h : Valid E) {key : PatternKey}
    (hp : (E.state n).phase? i = some (.checking key)) (ha : E.actor? n ≠ some i)
    (hr : ¬ E.Reschedules k n) (hn : E.entry (n + 1) k ≠ none) :
    E.entry (n + 1) k = E.entry n k := by
  obtain ⟨d, hb, _⟩ | ⟨_, he⟩ | ⟨time, f, hc, _⟩ | ⟨_, he⟩ := entry_succ_cases h n k
  · exact absurd (books_reschedules h hb) hr
  · exact absurd he hn
  · obtain ⟨j, hev⟩ := completes_event hc
    have hj := (finish_step h hev).1
    obtain rfl := alive_unique h hp (by simp) hj (by simp)
    simp [Execution.actor?, hev, Event.actor?] at ha
  · exact he

/-- Without clients, the next check of a key only moves later, and its interval stays. -/
theorem nextCheck_mono (h : Valid E) (hmn : m ≤ n) (he : E.entry m k = some e)
    (hr : ∀ r, m ≤ r → r < n → ¬ E.Reschedules k r) : ∀ {f}, E.entry n k = some f →
    f.interval = e.interval ∧ e.nextCheck ≤ f.nextCheck := by
  induction n, hmn using Nat.le_induction with
  | base =>
    intro f hf
    obtain rfl := Option.some.inj (he.symm.trans hf)
    exact ⟨rfl, Nat.le_refl _⟩
  | succ n hmn ih =>
    intro f hf
    have ih {f} (hf : E.entry n k = some f) := ih (fun r hmr hrn => hr r hmr (by omega)) hf
    obtain ⟨d, hb, _⟩ | ⟨_, he'⟩ | ⟨time, f', hc, hf', hle, he'⟩ | ⟨_, he'⟩ :=
      entry_succ_cases h n k
    · exact absurd (books_reschedules h hb) (hr n hmn (Nat.lt_succ_self n))
    · simp [he'] at hf
    · obtain rfl := Option.some.inj (he'.symm.trans hf)
      obtain ⟨hi, hn⟩ := ih hf'
      refine ⟨hi, Nat.le_trans hn (Nat.le_trans hle ?_)⟩
      exact Nat.le_add_right time f'.interval
    · exact ih (he' ▸ hf)

/-- A task that has started a check goes on with it until it takes a step of its own. -/
theorem checking_until (h : Valid E) (hm : E.Starts i k m) (hmn : m < n)
    (ha : ∀ r, m < r → r < n → E.actor? r ≠ some i) :
    (E.state n).phase? i = some (.checking k) := by
  obtain ⟨t, ht, _, hs⟩ := task_step h hm
  have hchk : (E.state (m + 1)).phase? i = some (.checking k) := by
    rw [hs, Watcher.phase?_takeStep ht, if_pos rfl, Watcher.TaskStep.phase]
  exact phase?_until h hmn hchk fun r hmr hrn => ha r hmr hrn

/-- The first step of its own that a task takes after it started a check, if it does not end before
another check starts. -/
theorem first_step_of_check (h : Valid E) (hm : E.Starts i k m) (hn : E.Starts j k n)
    (hmn : m < n) :
    ∃ r, m < r ∧ r < n ∧ E.actor? r = some i ∧ (∀ q, m < q → q < r → E.actor? q ≠ some i) ∧
      ∀ q, m < q → q ≤ r → (E.state q).phase? i = some (.checking k) := by
  have hex : ∃ r, m < r ∧ r < n ∧ E.actor? r = some i := by
    by_contra hno
    have hp := checking_until h hm hmn fun r hmr hrn ha => hno ⟨r, hmr, hrn, ha⟩
    obtain ⟨⟨d, g, hw, _⟩, _⟩ := starts_head h hn
    obtain rfl := alive_unique h hp (by simp) hw (by simp)
    simp [hp] at hw
  classical
  let r := Nat.find hex
  have hr : m < r ∧ r < n ∧ E.actor? r = some i := Nat.find_spec hex
  have hfirst : ∀ q, m < q → q < r → E.actor? q ≠ some i := fun q hmq hqr ha =>
    Nat.find_min hex hqr ⟨hmq, by omega, ha⟩
  exact ⟨r, hr.1, hr.2.1, hr.2.2, hfirst, fun q hmq hqr =>
    checking_until h hm hmq fun p hmp hpq => hfirst p hmp (by omega)⟩

theorem entry_after_finish (h : Valid E) {time : Instant} {x : Except ClockOverflow Bool}
    (ha : E.event n = some (.finish i k time x)) (he : E.entry n k = some e) :
    E.entry (n + 1) k = e.finished time := by
  have hs := congrArg (fun p => p.2.schedule) (finish_step h ha).2
  have he : (E.state n).schedule.entryOf k = some e := he
  rw [Execution.entry, ← hs]
  exact (Schedule.entryOf_complete _ k time).trans (by rw [he, Option.bind_some])

/-- A check that is over after its entry was due reschedules it, unless the clock overflows. -/
theorem entry_of_finish (h : Valid E) {time : Instant} {x : Except ClockOverflow Bool}
    (ha : E.event n = some (.finish i k time x)) (he : E.entry n k = some e)
    (hle : e.nextCheck ≤ time) (hn : E.entry (n + 1) k ≠ none) :
    E.entry (n + 1) k = some (Schedule.checked e time) := by
  have hnext := entry_after_finish h ha he
  rw [Entry.finished, if_neg (Nat.not_lt.mpr hle)] at hnext
  split at hnext
  · exact hnext
  · exact absurd hnext hn

/-- The entry of a key stays as it is while its check is under way. -/
theorem entry_during_check (h : Valid E) (hm : E.Starts i k m) (hmn : m ≤ n)
    (ha : ∀ r, m < r → r < n → E.actor? r ≠ some i)
    (hp : ∀ r, m < r → r ≤ n → (E.state r).phase? i = some (.checking k))
    (hr : ∀ r, m < r → r < n → ¬ E.Reschedules k r) (hn : E.entry n k ≠ none) :
    E.entry n k = E.entry m k := by
  induction n, hmn using Nat.le_induction with
  | base => rfl
  | succ n hmn ih =>
    rcases Nat.eq_or_lt_of_le hmn with rfl | hlt
    · rw [entry_succ h, Effect.onEntry_of_ne]
      simp [effect_of_event hm, Watcher.effect, Effect.key?]
    · have hnr := hr n hlt (Nat.lt_succ_self n)
      have hkeep := entry_while_checking h (hp n hlt (Nat.le_succ n))
        (ha n hlt (Nat.lt_succ_self n)) hnr hn
      rw [hkeep]
      exact ih (fun r hmr hrn => ha r hmr (by omega)) (fun r hmr hrn => hp r hmr (by omega))
        (fun r hmr hrn => hr r hmr (by omega)) (hkeep ▸ hn)

/-- The end of a check is read off the clock after every step at which its task was not checking. -/
theorem finish_read_after (ht : Timely E) {time : Instant} {x : Except ClockOverflow Bool}
    (ha : E.event n = some (.finish i k time x)) (hmn : m ≤ n)
    (hp : (E.state m).phase? i ≠ some (.checking k)) : ∃ r, m < r ∧ r ≤ n ∧ E.clock r = time := by
  obtain ⟨r, hrn, hr, hread⟩ := ht.finish n _ _ _ _ ha
  refine ⟨r, ?_, hrn, hr⟩
  by_contra hle
  exact hp (hread m (by omega) hmn)

/-- Two checks of a key, the first of which its task does not give up by ending: without clients
that schedule the key, the second starts an interval or more after the first has finished. -/
theorem checks_spaced (h : Valid E) (ht : Timely E) (hm : E.Starts i k m) (hn : E.Starts j k n)
    (hmn : m < n) (hr : ∀ r, m < r → r < n → ¬ E.Reschedules k r)
    (hx : ∀ r, m < r → r < n → E.event r ≠ some (.task i .exit)) (he : E.entry n k = some e) :
    ∃ r time x, m < r ∧ r < n ∧ E.event r = some (.finish i k time x) ∧
      (∀ q, m < q → q < r → E.actor? q ≠ some i) ∧ time + e.interval ≤ E.clock n := by
  obtain ⟨r, hmr, hrn, hact, hfirst, hchk⟩ := first_step_of_check h hm hn hmn
  obtain ⟨a, hev, ha⟩ := Option.bind_eq_some_iff.mp hact
  obtain ⟨time, x, rfl⟩ : ∃ time x, a = .finish i k time x := by
    rcases checking_step (h.step r a hev) (hchk r hmr le_rfl) ha with rfl | hfin
    · exact absurd hev (hx r hmr hrn)
    · exact hfin
  -- the entry is there all the time, since nobody puts it back
  have hsome {q} (hmq : m < q) (hqn : q ≤ n) : E.entry q k ≠ none := by
    intro hq
    rw [entry_eq_none_until h hqn hq fun p hqp hpn => hr p (by omega) hpn] at he
    cases he
  obtain ⟨⟨d, g, hwait, _⟩, e₀, hhead, hdue, rfl⟩ := starts_head h hm
  have hkeep : E.entry r e₀.key = some e₀ :=
    (entry_during_check h hm (Nat.le_of_lt hmr) hfirst hchk (fun q hmq hqr => hr q hmq (by omega))
      (hsome hmr (Nat.le_of_lt hrn))).trans (entry_of_head h hhead)
  -- the check was over after it had started, when its entry was due
  obtain ⟨p, hmp, _, rfl⟩ :=
    finish_read_after ht hev (Nat.le_of_lt hmr) (by rw [hwait]; simp)
  have hle : e₀.nextCheck ≤ E.clock p := Nat.le_trans hdue (ht.monotone (Nat.le_of_lt hmp))
  have hnext := entry_of_finish h hev hkeep hle (hsome (q := r + 1) (by omega) (by omega))
  obtain ⟨hi, hlate⟩ := nextCheck_mono h (show r + 1 ≤ n by omega) hnext
    (fun q hrq hqn => hr q (by omega) hqn) he
  obtain ⟨_, f, hfhead, hfdue, hfkey⟩ := starts_head h hn
  obtain rfl := Option.some.inj (he.symm.trans (hfkey ▸ entry_of_head h hfhead))
  refine ⟨r, E.clock p, x, hmr, hrn, hev, hfirst, ?_⟩
  rw [hi]
  exact Nat.le_trans hlate hfdue

/-- A check starts for a key that is watched and due, and that stands at the head of the schedule:
no key is due earlier, and of those due at the same time it was scheduled first. The timer that
starts it was set in the current generation, and no other check is under way. So checks of a key
that clients leave alone start one interval or more after the last one has finished, unless its task
was stopped and ended. -/
theorem check_start_safe (h : Valid E) (ht : Timely E) (hs : E.Starts id k n) :
    (∃ e, (E.state n).schedule.head? = some e ∧ e.key = k ∧ e.nextCheck ≤ E.clock n ∧
      (∀ f ∈ (E.state n).schedule, e.nextCheck ≤ f.nextCheck) ∧
      (∀ f ∈ (E.state n).schedule, f.key ≠ k → f.nextCheck = e.nextCheck →
        ∃ a b, Latest (E.Schedules k) n a ∧ Latest (E.Schedules f.key) n b ∧ a < b) ∧
      ∀ m < n, ∀ i, E.Starts i k m → (∀ r, m < r → r < n → ¬ E.Reschedules k r) →
        (∀ r, m < r → r < n → E.event r ≠ some (.task i .exit)) →
        ∃ r time x, m < r ∧ r < n ∧ E.event r = some (.finish i k time x) ∧
          (∀ q, m < q → q < r → E.actor? q ≠ some i) ∧ time + e.interval ≤ E.clock n) ∧
    (∃ m < n, E.event m = some (.task id .arm) ∧ (∀ r, m < r → r < n → E.actor? r ≠ some id) ∧
      (E.state m).generation = (E.state n).generation) ∧
    ∀ i key, (E.state n).phase? i ≠ some (.checking key) := by
  obtain ⟨⟨d, g, hwait, hg⟩, e, hhead, hdue, rfl⟩ := starts_head h hs
  have he := entry_of_head h hhead
  have hfirst : ∀ f ∈ (E.state n).schedule, e.nextCheck ≤ f.nextCheck := fun f hf =>
    (ordered_schedule h n).head_le hhead hf
  refine ⟨⟨e, hhead, rfl, hdue, hfirst, ?_, ?_⟩, ?_, ?_⟩
  · intro f hf hk heq
    obtain ⟨a, ha⟩ := exists_latest_schedules h n he
    obtain ⟨b, hb⟩ := exists_latest_schedules h n (Schedule.entryOf_of_mem (nodup_watched h n) hf)
    refine ⟨a, b, ha, hb, ?_⟩
    obtain ⟨l, hl⟩ := List.head?_eq_some_iff.mp hhead
    have haged := pairwise_aged h n
    rw [hl] at haged hf
    have hfl : f ∈ l := (List.mem_cons.mp hf).resolve_left fun hfe => hk (hfe ▸ rfl)
    exact (List.pairwise_cons.mp haged).1 f hfl heq.symm a b ha hb
  · exact fun m hmn i hm hr hx => checks_spaced h ht hm hs hmn hr hx he
  · obtain ⟨m, hm, hma, hq, hgm, _⟩ := armed h n hwait
    exact ⟨m, hm, hma, hq, hgm.trans hg.symm⟩
  · intro i key hc
    obtain rfl := alive_unique h hc (by simp) hwait (by simp)
    cases hc.symm.trans hwait

/-- The second check of a key that nobody touches meanwhile. -/
theorem sampleRun_check_start_safe :
    (Execution.replay sampleRun).Starts 0 sampleKey 8 ∧
      ∃ e, ((Execution.replay sampleRun).state 8).schedule.head? = some e ∧ e.key = sampleKey ∧
        ∃ r time x, 5 < r ∧ r < 8 ∧
          (Execution.replay sampleRun).event r = some (.finish 0 sampleKey time x) ∧
          time + e.interval ≤ (Execution.replay sampleRun).clock 8 := by
  have hs : (Execution.replay sampleRun).Starts 0 sampleKey 8 := rfl
  obtain ⟨⟨e, hhead, hk, _, _, _, hnext⟩, _⟩ := check_start_safe valid_sampleRun timely_sampleRun hs
  have hr : ∀ r, 5 < r → r < 8 → ¬ (Execution.replay sampleRun).Reschedules sampleKey r := by
    intro r hr hr'
    interval_cases r <;> rintro (⟨_, h⟩ | ⟨_, _, _, h, _⟩) <;> cases h
  have hx : ∀ r, 5 < r → r < 8 →
      (Execution.replay sampleRun).event r ≠ some (.task 0 .exit) := by
    intro r hr hr'
    interval_cases r <;> decide
  obtain ⟨r, time, x, hmr, hrn, hev, _, hle⟩ := hnext 5 (by decide) 0 rfl hr hx
  exact ⟨hs, e, hhead, hk, r, time, x, hmr, hrn, hev, hle⟩

end GitDrift.Drift
