import GitDrift.Proofs.Membership
import GitDrift.Proofs.Step
import Mathlib.Logic.Relation

/-!
Watches that are as a Pattern asks. Bringing a watch in line settles it, and once it is settled
there is nothing to bring in line, however often checks of it and changes elsewhere come in between.
-/
namespace GitDrift

variable {spec : PatternSpec} {c : GitConfig} {least : Int}

/-- The time between two checks that a configuration asks for, if it asks for any. -/
def GitConfig.wanted (c : GitConfig) : Option Span :=
  if c.qualifies then some (Span.ofSeconds c.pollInterval.toNat) else none

theorem effectiveInterval_cases (least interval : Int) :
    (interval < 0 ∧ effectiveInterval least interval = pollingDisabled) ∨
      (0 ≤ interval ∧ 0 ≤ effectiveInterval least interval) := by
  unfold effectiveInterval
  split_ifs <;> omega

theorem qualifies_qualified_iff : (spec.qualified least).gitSpec.qualifies = true ↔
    spec.gitSpec.originRepo ≠ "" ∧ spec.gitSpec.targetRepo ≠ "" ∧
      0 ≤ spec.gitSpec.pollInterval := by
  have hpoll : effectiveInterval least spec.gitSpec.pollInterval ≠ pollingDisabled ↔
      0 ≤ spec.gitSpec.pollInterval := by
    rcases effectiveInterval_cases least spec.gitSpec.pollInterval with ⟨h, he⟩ | ⟨h, he⟩
    · simp [he, Int.not_le.mpr h]
    · have hne : effectiveInterval least spec.gitSpec.pollInterval ≠ pollingDisabled := by
        intro heq
        rw [heq] at he
        exact absurd he (by decide)
      simp [hne, h]
  rw [← hpoll]
  simp only [GitConfig.qualifies, PatternSpec.qualified, Bool.and_eq_true, and_assoc]
  exact and_congr decide_eq_true_iff (and_congr decide_eq_true_iff decide_eq_true_iff)

namespace Drift

namespace Schedule

variable {s : Schedule} {e : Entry} {k : PatternKey}

theorem without_without (s : Schedule) (k : PatternKey) :
    (s.without k).without k = s.without k := by
  simp [without]

/-- Placing an entry changes nothing for other keys. -/
theorem without_place (s : Schedule) (e : Entry) : (place e s).without e.key = s.without e.key := by
  induction s with
  | nil => simp [place, without]
  | cons f s ih =>
    rw [place]
    split
    · by_cases hf : f.key = e.key
      · simpa [without, hf] using ih
      · simpa [without, hf] using ih
    · simp [without]

/-- The schedule in which a key is booked anew, or in which it has no entry. -/
def rebook (s : Schedule) (k : PatternKey) (now : Instant) : Option Span → Schedule
  | some d => s.book k d now
  | none => s.without k

theorem without_rebook (s : Schedule) (k : PatternKey) (now : Instant) (d : Option Span) :
    (s.rebook k now d).without k = s.without k := by
  cases d with
  | none => exact without_without s k
  | some d => exact (without_place _ ⟨k, d, none, now + d⟩).trans (without_without s k)

/-- The time between two checks of a key, if it has an entry. -/
def intervalOf (s : Schedule) (k : PatternKey) : Option Span := (s.entryOf k).map (·.interval)

theorem intervalOf_rebook (s : Schedule) (k : PatternKey) (now : Instant) (d : Option Span) :
    (s.rebook k now d).intervalOf k = d := by
  cases d with
  | none =>
    rw [rebook, intervalOf, entryOf_without, if_pos rfl]
    rfl
  | some d =>
    have hentry := entryOf_place_self (e := ⟨k, d, none, now + d⟩) (notMem_keys_without s k)
    rw [rebook, intervalOf, book, hentry]
    rfl

end Schedule

namespace Watcher

variable {w v : Watcher} {k : PatternKey} {d : Span} {now : Instant} {seconds : Int}

theorem isWatching_eq_isSome : w.isWatching k = (w.schedule.intervalOf k).isSome := by
  rw [isWatching, Schedule.contains, Schedule.intervalOf, Option.isSome_map]

theorem reschedule_of_lt (h : now + d < Instant.limit) :
    w.reschedule k d now = (.ok, touch { w with schedule := w.schedule.book k d now }) := by
  have hnow : now.after? d = some (now + d) := Instant.after?_eq_some_iff.mpr ⟨h, rfl⟩
  simp only [reschedule, Schedule.upsert, hnow]
  rfl

/-- The watcher whose watch of a key is as it is wanted. -/
def settle (w : Watcher) (k : PatternKey) (wanted : Option Span) (now : Instant) : Watcher :=
  if w.schedule.intervalOf k = wanted then w
  else touch { w with schedule := w.schedule.rebook k now wanted }

theorem add_running (hw : w.isRunning = true) (hs : 0 ≤ seconds)
    (hi : w.schedule.intervalOf k = none)
    (hclock : now + Span.ofSeconds seconds.toNat < Instant.limit) :
    w.add k seconds now = (.ok, w.settle k (some (Span.ofSeconds seconds.toNat)) now) := by
  have hneg : ¬ seconds < 0 := by omega
  rw [settle, hi, if_neg (by simp)]
  simp only [add, hneg, hw]
  exact reschedule_of_lt hclock

theorem updateInterval_running (hw : w.isRunning = true) (hs : 0 ≤ seconds)
    (hi : w.schedule.intervalOf k = some d)
    (hclock : d ≠ Span.ofSeconds seconds.toNat →
      now + Span.ofSeconds seconds.toNat < Instant.limit) :
    w.updateInterval k seconds now =
      (.ok, w.settle k (some (Span.ofSeconds seconds.toNat)) now) := by
  have hneg : ¬ seconds < 0 := by omega
  obtain ⟨e, he, rfl⟩ := Option.map_eq_some_iff.mp hi
  rw [settle, hi]
  simp only [updateInterval, hneg, hw, he, Option.some.injEq]
  by_cases hd : e.interval = Span.ofSeconds seconds.toNat
  · simp only [hd, if_true]
    rfl
  · simp only [hd, if_false]
    exact reschedule_of_lt (hclock hd)

theorem remove_running (hw : w.isRunning = true) (hi : w.schedule.intervalOf k = some d)
    (now : Instant) : w.remove k = (.ok, w.settle k none now) := by
  obtain ⟨e, he, _⟩ := Option.map_eq_some_iff.mp hi
  rw [settle, hi, if_neg (by simp)]
  simp only [remove, hw, Schedule.remove, he]
  rfl

/-- A running watcher does what a configuration asks for, and nothing if the watch is as it is
wanted. -/
theorem sync_running (hw : w.isRunning = true) (hc : c.qualifies = true → 0 ≤ c.pollInterval)
    (hclock : w.schedule.intervalOf k ≠ c.wanted →
      ∀ d, c.wanted = some d → now + d < Instant.limit) :
    w.sync k c now = (membershipStep c (w.isWatching k), .ok, w.settle k c.wanted now) := by
  have hstep : w.perform (membershipStep c (w.isWatching k)) k c.pollInterval now =
      (.ok, w.settle k c.wanted now) := by
    cases hq : c.qualifies with
    | true =>
      have hwant : c.wanted = some (Span.ofSeconds c.pollInterval.toNat) := by
        rw [GitConfig.wanted, if_pos hq]
      rw [hwant] at hclock ⊢
      cases hi : w.schedule.intervalOf k with
      | none =>
        have hadd := add_running hw (hc hq) hi (hclock (by simp [hi]) _ rfl)
        simpa [membershipStep, hq, isWatching_eq_isSome, hi, perform] using hadd
      | some d =>
        have hupdate := updateInterval_running hw (hc hq) hi fun hne =>
          hclock (by simpa [hi] using hne) _ rfl
        simpa [membershipStep, hq, isWatching_eq_isSome, hi, perform] using hupdate
    | false =>
      have hwant : c.wanted = none := by rw [GitConfig.wanted, if_neg (by simp [hq])]
      rw [hwant]
      cases hi : w.schedule.intervalOf k with
      | none => simp [membershipStep, hq, isWatching_eq_isSome, hi, perform, settle]
      | some d =>
        have hremove := remove_running hw hi now
        simpa [membershipStep, hq, isWatching_eq_isSome, hi, perform] using hremove
  rw [sync, hstep]

/-- There is nothing to bring in line in a watch that is as it is wanted. -/
theorem sync_settled (hw : w.isRunning = true) (hc : c.qualifies = true → 0 ≤ c.pollInterval)
    (hs : w.schedule.intervalOf k = c.wanted) :
    w.sync k c now = (membershipStep c (w.isWatching k), .ok, w) := by
  rw [sync_running hw hc fun hne => absurd hs hne, settle, if_pos hs]

/-- A watcher that does not run refuses every step, and there may be none to take. -/
theorem sync_not_running (hw : w.isRunning = false)
    (hc : c.qualifies = true → 0 ≤ c.pollInterval) (k : PatternKey) (now : Instant) :
    w.sync k c now = (membershipStep c (w.isWatching k),
      if membershipStep c (w.isWatching k) = .notWatched then .ok else .refused .notStarted,
      w) := by
  have hstep : w.perform (membershipStep c (w.isWatching k)) k c.pollInterval now =
      (if membershipStep c (w.isWatching k) = .notWatched then .ok else .refused .notStarted,
        w) := by
    unfold membershipStep
    cases hq : c.qualifies with
    | true =>
      have hneg : ¬ c.pollInterval < 0 := Int.not_lt.mpr (hc hq)
      cases w.isWatching k with
      | true => simp [perform, updateInterval, hneg, hw]
      | false => simp [perform, add, hneg, hw]
    | false =>
      cases w.isWatching k with
      | true => simp [perform, remove, hw]
      | false => simp [perform]
  rw [sync, hstep]

theorem intervalOf_settle (w : Watcher) (k : PatternKey) (wanted : Option Span) (now : Instant) :
    (w.settle k wanted now).schedule.intervalOf k = wanted := by
  unfold settle
  split
  · assumption
  · rw [touch_schedule, Schedule.intervalOf_rebook]

theorem without_settle (w : Watcher) (k : PatternKey) (wanted : Option Span) (now : Instant) :
    (w.settle k wanted now).schedule.without k = w.schedule.without k := by
  unfold settle
  split
  · rfl
  · rw [touch_schedule, Schedule.without_rebook]

theorem settle_running (w : Watcher) (k : PatternKey) (wanted : Option Span) (now : Instant) :
    (w.settle k wanted now).running = w.running := by
  unfold settle
  split
  · rfl
  · exact touch_running

end Watcher

variable {w v v' : Watcher} {k key : PatternKey} {now : Instant} {a : Event}

/-- The key whose watch an event is a call for, or over which the clock overflows. -/
def Event.disturbed? : Event → Option PatternKey
  | .add k _ _ | .remove k _ | .update k _ _ | .finish _ k _ (.error _) => some k
  | _ => none

/-- Clients leave a key alone, and the clock does not overflow over it. All else may happen: checks
of the key, changes of other keys, stops and starts. -/
def Undisturbed (k : PatternKey) (v v' : Watcher) : Prop :=
  ∃ now a, Step now v a v' ∧ a.disturbed? ≠ some k

theorem effect_undisturbed (w : Watcher) (ha : a.disturbed? ≠ some k) :
    (w.effect a).key? ≠ some k ∨ ∃ time, w.effect a = .completes k time := by
  by_cases hk : (w.effect a).key? = some k
  · right
    unfold Watcher.effect at hk ⊢
    split at hk <;> (try split_ifs at hk) <;> simp_all [Effect.key?, Event.disturbed?]
  · exact Or.inl hk

/-- Checks of a key leave its interval. -/
theorem intervalOf_undisturbed (h : Undisturbed k v v') :
    v'.schedule.intervalOf k = v.schedule.intervalOf k := by
  obtain ⟨now, a, hs, ha⟩ := h
  rw [Schedule.intervalOf, schedule_step hs, Effect.entryOf_apply]
  rcases effect_undisturbed v ha with hk | ⟨time, hc⟩
  · rw [Effect.onEntry_of_ne hk]
    rfl
  · rw [hc, Effect.onEntry, if_pos rfl, Option.map_map]
    rfl

theorem intervalOf_while_undisturbed (h : Relation.ReflTransGen (Undisturbed k) v v') :
    v'.schedule.intervalOf k = v.schedule.intervalOf k := by
  induction h with
  | refl => rfl
  | tail _ h ih => rw [intervalOf_undisturbed h, ih]

/-- With its defaults a configuration asks for a watch if both repositories are known and its poll
interval is not negative. A running watcher does what it asks for and leaves other keys alone, and
what it did stays: asked for the same again, however much later, it changes nothing. A watcher that
does not run changes nothing. -/
theorem sync_settles (spec : PatternSpec) (least : Int) (key : PatternKey) (w : Watcher)
    (now : Instant)
    (hclock : ∀ d, (spec.qualified least).gitSpec.wanted = some d → now + d < Instant.limit) :
    let c := (spec.qualified least).gitSpec
    (c.pollInterval = pollingDisabled ∨ 0 ≤ c.pollInterval) ∧
    (c.qualifies = true ↔ spec.gitSpec.originRepo ≠ "" ∧ spec.gitSpec.targetRepo ≠ "" ∧
      0 ≤ spec.gitSpec.pollInterval) ∧
    (w.isRunning = true → ∃ step w', w.sync key c now = (step, .ok, w') ∧
      w'.isWatching key = c.qualifies ∧
      (c.qualifies = true →
        w'.schedule.intervalOf key = some (Span.ofSeconds c.pollInterval.toNat)) ∧
      w'.schedule.without key = w.schedule.without key ∧ w'.running = w.running ∧
      ∀ v later, Relation.ReflTransGen (Undisturbed key) w' v → v.isRunning = true →
        ∃ step, v.sync key c later = (step, .ok, v)) ∧
    (w.isRunning = false →
      (c.qualifies = true ∨ w.isWatching key = true) ∧
        w.sync key c now = (membershipStep c (w.isWatching key), .refused .notStarted, w) ∨
      (c.qualifies = false ∧ w.isWatching key = false) ∧
        w.sync key c now = (.notWatched, .ok, w)) := by
  intro c
  have hnonneg : c.qualifies = true → 0 ≤ c.pollInterval := pollInterval_nonneg
  have hwanted (hq : c.qualifies = true) :
      c.wanted = some (Span.ofSeconds c.pollInterval.toNat) := by
    rw [GitConfig.wanted, if_pos hq]
  refine ⟨?_, qualifies_qualified_iff, fun hw => ?_, fun hw => ?_⟩
  · rcases effectiveInterval_cases least spec.gitSpec.pollInterval with ⟨_, h⟩ | ⟨_, h⟩
    · exact Or.inl h
    · exact Or.inr h
  · have hsettled := Watcher.intervalOf_settle w key c.wanted now
    refine ⟨_, _, Watcher.sync_running hw hnonneg fun _ => hclock, ?_, ?_,
      Watcher.without_settle w key c.wanted now, Watcher.settle_running w key c.wanted now,
      fun v later hv hrun => ?_⟩
    · rw [Watcher.isWatching_eq_isSome, hsettled, GitConfig.wanted]
      cases c.qualifies <;> rfl
    · exact fun hq => hsettled.trans (hwanted hq)
    · have hstill := (intervalOf_while_undisturbed hv).trans hsettled
      exact ⟨_, Watcher.sync_settled hrun hnonneg hstill⟩
  · have hsync := Watcher.sync_not_running hw hnonneg key now
    unfold membershipStep at hsync ⊢
    cases hq : c.qualifies <;> cases hk : w.isWatching key <;> simpa [hq, hk] using hsync

theorem heldPattern_settles :
    let c :=
      ((Reconcile.heldPattern "git@gitea.example.com:org/mcg.git").spec.qualified 600).gitSpec
    let key : PatternKey := ⟨"mcg", "patterns"⟩
    (∀ d, c.wanted = some d → 5000 + d < Instant.limit) ∧
    ∃ step w', (Watcher.start {}).2.sync key c 5000 = (step, .ok, w') ∧
      w'.schedule.intervalOf key = some 600000 ∧
      ∀ later, ∃ step, w'.sync key c later = (step, .ok, w') := by
  intro c key
  have hwanted : c.wanted = some 600000 := by decide
  have hclock : ∀ d, c.wanted = some d → 5000 + d < Instant.limit := by
    rintro d hd
    obtain rfl := Option.some.inj (hwanted.symm.trans hd)
    decide
  obtain ⟨_, _, hsettle, _⟩ := sync_settles
    (Reconcile.heldPattern "git@gitea.example.com:org/mcg.git").spec 600 key (Watcher.start {}).2
    5000 hclock
  obtain ⟨step, w', hsync, _, hinterval, _, hrunning, hagain⟩ := hsettle rfl
  refine ⟨hclock, step, w', hsync, hinterval (by decide), fun later => hagain w' later .refl ?_⟩
  rw [Watcher.isRunning, hrunning]
  rfl

end Drift
end GitDrift
