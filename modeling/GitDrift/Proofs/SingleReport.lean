import GitDrift.Drift.SyncCondition
import Mathlib.Data.List.Basic

/-!
What one report makes of a list of conditions, whatever the list is: at most one sync condition is
true afterwards if that was so before, every entry stays at its place, and conditions of other types
are left as they are.
-/
namespace GitDrift

/-- The condition says how the repositories compare now. -/
def Condition.isCurrent (c : Condition) : Bool := c.type.isGitSync && c.status = .true

namespace Drift

variable {l : List Condition} {c x active : Condition} {d : Bool} {time : String} {now : Moment}
  {i : ℕ}

/-- The conditions of other types. -/
def unrelated (l : List Condition) : List Condition := l.filter fun c => !c.type.isGitSync

theorem isGitSync_syncType (d : Bool) : (syncType d).isGitSync = true := by
  cases d <;> rfl

theorem isCurrent_activated (d : Bool) (time : String) : (activated d time).isCurrent = true := by
  cases d <;> rfl

theorem findIdx?_cases (p : Condition → Bool) (l : List Condition) :
    (l.findIdx? p = none ∧ ∀ c ∈ l, p c = false) ∨
      ∃ i c, l.findIdx? p = some i ∧ l[i]? = some c ∧ p c = true := by
  cases h : l.findIdx? p with
  | none => exact .inl ⟨rfl, List.findIdx?_eq_none_iff.mp h⟩
  | some i =>
    obtain ⟨hi, hp, _⟩ := List.findIdx?_eq_some_iff_getElem.mp h
    exact .inr ⟨i, l[i], rfl, List.getElem?_eq_getElem hi, hp⟩

theorem activate_cases (l : List Condition) (d : Bool) (time : String) :
    (∃ i c, l[i]? = some c ∧ c.type = syncType d ∧
      activate l d time = l.set i (activated d time)) ∨
    activate l d time = l ++ [activated d time] := by
  unfold activate
  rcases findIdx?_cases (fun c => c.type = syncType d) l with ⟨h, _⟩ | ⟨i, c, h, hc, ht⟩
  · exact .inr (by rw [h])
  · exact .inl ⟨i, c, hc, by simpa using ht, by rw [h]⟩

theorem setSyncCondition_cases (l : List Condition) (d : Bool) (now : Moment) :
    ((∀ c ∈ l, c.isCurrent = false) ∧
      setSyncCondition l d now = (activate l d now.format, true)) ∨
    ∃ i active, l[i]? = some active ∧ active.isCurrent = true ∧
      ((active.type = syncType d ∧
        setSyncCondition l d now = (l.set i { active with lastUpdateTime := now.format },
          decide (active.lastUpdateTime ≠ now.format))) ∨
      (active.type ≠ syncType d ∧
        setSyncCondition l d now =
          (activate (l.set i { active with status := .false, lastUpdateTime := now.format }) d
            now.format, true))) := by
  unfold setSyncCondition syncConditionOfStatus findCondition
  rcases findIdx?_cases (fun c => c.type.isGitSync && c.status = .true) l with
    ⟨h, hnone⟩ | ⟨i, active, h, hactive, hcurrent⟩
  · exact .inl ⟨hnone, by simp only [h, Option.bind_none]⟩
  · refine .inr ⟨i, active, hactive, hcurrent, ?_⟩
    simp only [h, hactive, Option.bind_some, Option.map_some]
    by_cases ht : active.type = syncType d
    · exact .inl ⟨ht, if_pos ht⟩
    · exact .inr ⟨ht, if_neg ht⟩

theorem unrelated_set (h : l[i]? = some c) (hc : c.type.isGitSync = true)
    (hx : x.type.isGitSync = true) : unrelated (l.set i x) = unrelated l := by
  induction l generalizing i with
  | nil => rfl
  | cons y l ih =>
    cases i with
    | zero =>
      obtain rfl : y = c := by simpa using h
      simp [unrelated, hc, hx]
    | succ i =>
      simp only [unrelated, List.set_cons_succ, List.filter_cons] at ih ⊢
      rw [ih (by simpa using h)]

theorem unrelated_activate : unrelated (activate l d time) = unrelated l := by
  have hnew : (activated d time).type.isGitSync = true := isGitSync_syncType d
  rcases activate_cases l d time with ⟨i, c, hc, ht, h⟩ | h
  · rw [h, unrelated_set hc (by rw [ht, isGitSync_syncType]) hnew]
  · simp [h, unrelated, hnew]

/-- A report leaves conditions of other types as they are and in their order. -/
theorem unrelated_setSyncCondition (l : List Condition) (d : Bool) (now : Moment) :
    unrelated (setSyncCondition l d now).1 = unrelated l := by
  rcases setSyncCondition_cases l d now with ⟨_, h⟩ | ⟨i, active, hi, hcurrent, ⟨_, h⟩ | ⟨_, h⟩⟩
  · rw [h, unrelated_activate]
  all_goals
    have hsync : active.type.isGitSync = true := (Bool.and_eq_true_iff.mp hcurrent).1
    rw [h]
  · exact unrelated_set hi hsync hsync
  · rw [unrelated_activate]
    exact unrelated_set hi hsync hsync

theorem countP_set_of_getElem? {p : Condition → Bool} (h : l[i]? = some c) :
    (l.set i x).countP p = l.countP p - (if p c then 1 else 0) + if p x then 1 else 0 := by
  obtain ⟨hi, rfl⟩ := List.getElem?_eq_some_iff.mp h
  exact List.countP_set hi

theorem countP_activate (h : l.countP Condition.isCurrent = 0) :
    (activate l d time).countP Condition.isCurrent = 1 := by
  rcases activate_cases l d time with ⟨i, c, hc, _, hset⟩ | happend
  · have hold : c.isCurrent = false := by
      simpa using List.countP_eq_zero.mp h c (List.mem_of_getElem? hc)
    rw [hset, countP_set_of_getElem? hc, h, hold, isCurrent_activated]
    rfl
  · rw [happend, List.countP_append, h, List.countP_singleton, isCurrent_activated]
    rfl

/-- Where at most one sync condition is true, exactly one is after a report. -/
theorem countP_setSyncCondition (h : l.countP Condition.isCurrent ≤ 1) (d : Bool) (now : Moment) :
    (setSyncCondition l d now).1.countP Condition.isCurrent = 1 := by
  rcases setSyncCondition_cases l d now with
    ⟨hnone, hset⟩ | ⟨i, active, hi, hcurrent, ⟨_, hset⟩ | ⟨_, hset⟩⟩
  · rw [hset]
    exact countP_activate (List.countP_eq_zero.mpr fun c hc => by simp [hnone c hc])
  all_goals
    have hpos : 0 < l.countP Condition.isCurrent :=
      List.countP_pos_iff.mpr ⟨active, List.mem_of_getElem? hi, hcurrent⟩
    rw [hset]
  · have hkept : ({ active with lastUpdateTime := now.format } : Condition).isCurrent = true :=
      hcurrent
    rw [countP_set_of_getElem? hi, if_pos hcurrent, if_pos hkept]
    omega
  · refine countP_activate ?_
    have hflipped : ({ active with status := .false, lastUpdateTime := now.format } :
        Condition).isCurrent = false := by simp [Condition.isCurrent]
    rw [countP_set_of_getElem? hi, if_pos hcurrent, hflipped]
    simp only [Bool.false_eq_true, if_false]
    omega

theorem getElem?_activate (h : l[i]? = some c) (ht : c.type ≠ syncType d) :
    (activate l d time)[i]? = some c := by
  rcases activate_cases l d time with ⟨j, x, hx, htx, hset⟩ | happend
  · have hne : j ≠ i := by
      rintro rfl
      exact ht (Option.some.inj (h.symm.trans hx) ▸ htx)
    rw [hset, List.getElem?_set_ne hne, h]
  · rw [happend, List.getElem?_append_left (List.getElem?_eq_some_iff.mp h).1, h]

/-- A report says that it changed the conditions exactly when they are others than before. -/
theorem setSyncCondition_changed_iff :
    (setSyncCondition l d now).2 = true ↔ (setSyncCondition l d now).1 ≠ l := by
  rcases setSyncCondition_cases l d now with
    ⟨hnone, hset⟩ | ⟨i, active, hi, hcurrent, ⟨_, hset⟩ | ⟨ht, hset⟩⟩ <;> rw [hset]
  · refine iff_of_true rfl fun (heq : activate l d now.format = l) => ?_
    -- one condition is true afterwards, and none was before
    have hzero : l.countP Condition.isCurrent = 0 :=
      List.countP_eq_zero.mpr fun c hc => by simp [hnone c hc]
    have hone : (activate l d now.format).countP Condition.isCurrent = 1 := countP_activate hzero
    rw [heq, hzero] at hone
    cases hone
  · obtain ⟨hlt, rfl⟩ := List.getElem?_eq_some_iff.mp hi
    rw [decide_eq_true_iff, not_iff_not]
    refine ⟨fun htime => ?_, fun heq => ?_⟩
    · rw [← htime]
      exact List.set_getElem_self hlt
    · have hget := congrArg (·[i]?) heq
      simp only [List.getElem?_set_self hlt, hi, Option.some.injEq] at hget
      exact congrArg Condition.lastUpdateTime hget.symm
  · let flipped : Condition := { active with status := .false, lastUpdateTime := now.format }
    refine iff_of_true rfl fun (heq : activate (l.set i flipped) d now.format = l) => ?_
    -- the condition that was true is false
    have hflipped : l[i]? = some flipped := by
      rw [← heq]
      exact getElem?_activate (List.getElem?_set_self (List.getElem?_eq_some_iff.mp hi).1) ht
    have hsame : active = flipped := Option.some.inj (hi.symm.trans hflipped)
    rw [hsame] at hcurrent
    simp [Condition.isCurrent, flipped] at hcurrent

/-- The entry at a place is the first of the result's type. -/
def FirstOfResult (l : List Condition) (d : Bool) (i : ℕ) : Prop :=
  (∃ c, l[i]? = some c ∧ c.type = syncType d) ∧
    ∀ j x, j < i → l[j]? = some x → x.type ≠ syncType d

/-- What a report can make of the entry at a place. -/
inductive Revised (l : List Condition) (d : Bool) (time : String) (i : ℕ) (c : Condition) :
    Condition → Prop
  | kept : Revised l d time i c c
  | refreshed (hc : c.isCurrent = true) (ht : c.type = syncType d) :
      Revised l d time i c { c with lastUpdateTime := time }
  | flipped (hc : c.isCurrent = true) (ht : c.type ≠ syncType d) :
      Revised l d time i c { c with status := .false, lastUpdateTime := time }
  | renewed (h : FirstOfResult l d i) : Revised l d time i c (activated d time)

theorem firstOfResult_of_findIdx? (h : l.findIdx? (fun c => c.type = syncType d) = some i) :
    FirstOfResult l d i := by
  obtain ⟨hi, ht, hfirst⟩ := List.findIdx?_eq_some_iff_getElem.mp h
  refine ⟨⟨l[i], List.getElem?_eq_getElem hi, by simpa using ht⟩, fun j x hj hx => ?_⟩
  obtain ⟨_, rfl⟩ := List.getElem?_eq_some_iff.mp hx
  simpa using hfirst j hj

/-- Places before the end keep their entries, but for the first of the result's type. -/
theorem getElem?_activate_cases (h : l[i]? = some c) :
    (activate l d time)[i]? = some c ∨
      FirstOfResult l d i ∧ (activate l d time)[i]? = some (activated d time) := by
  have hlt := (List.getElem?_eq_some_iff.mp h).1
  unfold activate
  cases hf : l.findIdx? (fun c => c.type = syncType d) with
  | none => exact .inl (by rw [List.getElem?_append_left hlt, h])
  | some j =>
    by_cases hj : j = i
    · subst hj
      exact .inr ⟨firstOfResult_of_findIdx? hf, List.getElem?_set_self hlt⟩
    · exact .inl (by rw [List.getElem?_set_ne hj, h])

/-- An entry of another type that is put in the place of one does not change which is the first of
the result's type. -/
theorem FirstOfResult.of_set {j : ℕ} (h : FirstOfResult (l.set j x) d i) (hx : x.type ≠ syncType d)
    (hc : l[j]? = some c) (ht : c.type ≠ syncType d) : FirstOfResult l d i := by
  obtain ⟨⟨y, hy, hty⟩, hfirst⟩ := h
  have hjlt := (List.getElem?_eq_some_iff.mp hc).1
  have hji : j ≠ i := by
    rintro rfl
    rw [List.getElem?_set_self hjlt] at hy
    exact hx (Option.some.inj hy ▸ hty)
  refine ⟨⟨y, by rwa [List.getElem?_set_ne hji] at hy, hty⟩, fun k z hk hz => ?_⟩
  by_cases hkj : j = k
  · subst hkj
    exact Option.some.inj (hc.symm.trans hz) ▸ ht
  · exact hfirst k z hk (by rw [List.getElem?_set_ne hkj, hz])

/-- A report leaves every entry at its place, and revises it at most. -/
theorem revised_setSyncCondition (d : Bool) (now : Moment) (h : l[i]? = some c) :
    ∃ x, (setSyncCondition l d now).1[i]? = some x ∧ Revised l d now.format i c x := by
  rcases setSyncCondition_cases l d now with
    ⟨_, hset⟩ | ⟨j, active, hj, hcurrent, ⟨ht, hset⟩ | ⟨ht, hset⟩⟩ <;> rw [hset]
  · rcases getElem?_activate_cases h with hkept | ⟨hfirst, hnew⟩
    · exact ⟨c, hkept, .kept⟩
    · exact ⟨_, hnew, .renewed hfirst⟩
  · by_cases hji : j = i
    · subst hji
      obtain rfl := Option.some.inj (hj.symm.trans h)
      exact ⟨_, List.getElem?_set_self (List.getElem?_eq_some_iff.mp h).1, .refreshed hcurrent ht⟩
    · exact ⟨c, by rw [List.getElem?_set_ne hji, h], .kept⟩
  · by_cases hji : j = i
    · subst hji
      obtain rfl := Option.some.inj (hj.symm.trans h)
      have hflip : (l.set j { active with status := .false, lastUpdateTime := now.format })[j]? =
          some { active with status := .false, lastUpdateTime := now.format } :=
        List.getElem?_set_self (List.getElem?_eq_some_iff.mp h).1
      exact ⟨_, getElem?_activate hflip ht, .flipped hcurrent ht⟩
    · have hother : (l.set j { active with status := .false, lastUpdateTime := now.format })[i]? =
          some c := by rw [List.getElem?_set_ne hji, h]
      rcases getElem?_activate_cases hother with hkept | ⟨hfirst, hnew⟩
      · exact ⟨c, hkept, .kept⟩
      · exact ⟨_, hnew, .renewed (hfirst.of_set ht hj ht)⟩

theorem FirstOfResult.type_eq (h : FirstOfResult l d i) (hc : l[i]? = some c) :
    c.type = syncType d := by
  obtain ⟨⟨x, hx, ht⟩, _⟩ := h
  rwa [Option.some.inj (hc.symm.trans hx)]

theorem Revised.type_eq (h : Revised l d time i c x) (hc : l[i]? = some c) : x.type = c.type := by
  cases h with
  | renewed hfirst => exact (hfirst.type_eq hc).symm
  | _ => rfl

theorem Revised.cases_of_ne (h : Revised l d time i c x) (hne : x ≠ c) :
    c.isCurrent = true ∨ FirstOfResult l d i := by
  cases h with
  | kept => exact absurd rfl hne
  | refreshed hcurrent _ => exact .inl hcurrent
  | flipped hcurrent _ => exact .inl hcurrent
  | renewed hfirst => exact .inr hfirst

theorem Revised.eq_of_unrelated (h : Revised l d time i c x) (hc : l[i]? = some c)
    (hs : c.type.isGitSync = false) : x = c := by
  by_contra hne
  rcases h.cases_of_ne hne with hcurrent | hfirst
  · simp [Condition.isCurrent, hs] at hcurrent
  · rw [hfirst.type_eq hc, isGitSync_syncType] at hs
    cases hs

/-- What is not true any more is false, and otherwise only of a later update. -/
theorem Revised.of_not_current (h : Revised l d time i c x) (hcurrent : c.isCurrent = true)
    (hx : x.isCurrent = false) : x = { c with status := .false, lastUpdateTime := time } := by
  cases h with
  | kept => exact absurd (hcurrent.symm.trans hx) (by simp)
  | refreshed => exact absurd (hcurrent.symm.trans hx) (by simp)
  | flipped => rfl
  | renewed => exact absurd ((isCurrent_activated d time).symm.trans hx) (by simp)

theorem activate_grows (l : List Condition) (d : Bool) (time : String) :
    (activate l d time).length = l.length ∨
      (∀ c ∈ l, c.type ≠ syncType d) ∧ activate l d time = l ++ [activated d time] := by
  unfold activate
  rcases findIdx?_cases (fun c => c.type = syncType d) l with ⟨h, hnone⟩ | ⟨i, c, h, _⟩ <;> rw [h]
  · exact .inr ⟨fun c hc => by simpa using hnone c hc, rfl⟩
  · exact .inl List.length_set

/-- What a report adds, it adds at the end. -/
theorem setSyncCondition_grows (l : List Condition) (d : Bool) (now : Moment) :
    (setSyncCondition l d now).1.length = l.length ∨
      (∀ c ∈ l, c.type ≠ syncType d) ∧
        (setSyncCondition l d now).1.drop l.length = [activated d now.format] := by
  rcases setSyncCondition_cases l d now with
    ⟨_, hset⟩ | ⟨j, active, hj, _, ⟨_, hset⟩ | ⟨ht, hset⟩⟩ <;> rw [hset]
  · rcases activate_grows l d now.format with hlen | ⟨hnone, happend⟩
    · exact .inl hlen
    · exact .inr ⟨hnone, by rw [happend, List.drop_left]⟩
  · exact .inl List.length_set
  · rcases activate_grows (l.set j { active with status := .false, lastUpdateTime := now.format }) d
      now.format with hlen | ⟨hnone, happend⟩
    · exact .inl (hlen.trans List.length_set)
    · refine .inr ⟨fun c hc heq => ?_, ?_⟩
      · obtain ⟨k, hk⟩ := List.getElem?_of_mem hc
        have hjk : j ≠ k := by
          rintro rfl
          exact ht (Option.some.inj (hj.symm.trans hk) ▸ heq)
        exact hnone c (List.mem_of_getElem? (by rw [List.getElem?_set_ne hjk, hk])) heq
      · rw [happend, List.drop_append, List.length_set]
        simp

theorem activated_mem_activate (l : List Condition) (d : Bool) (time : String) :
    activated d time ∈ activate l d time := by
  rcases activate_cases l d time with ⟨i, c, hc, _, h⟩ | h <;> rw [h]
  · exact List.mem_of_getElem? (List.getElem?_set_self (List.getElem?_eq_some_iff.mp hc).1)
  · simp

/-- After a report, a condition of its result is true and was updated at its time. -/
theorem exists_current_setSyncCondition (l : List Condition) (d : Bool) (now : Moment) :
    ∃ c ∈ (setSyncCondition l d now).1, c.isCurrent = true ∧ c.type = syncType d ∧
      c.lastUpdateTime = now.format := by
  rcases setSyncCondition_cases l d now with
    ⟨_, hset⟩ | ⟨i, active, hi, hcurrent, ⟨ht, hset⟩ | ⟨_, hset⟩⟩ <;> rw [hset]
  · exact ⟨_, activated_mem_activate l d _, isCurrent_activated d _, rfl, rfl⟩
  · have hlt := (List.getElem?_eq_some_iff.mp hi).1
    exact ⟨_, List.mem_of_getElem? (List.getElem?_set_self hlt), hcurrent, ht, rfl⟩
  · exact ⟨_, activated_mem_activate _ d _, isCurrent_activated d _, rfl, rfl⟩

theorem filter_isCurrent_of_countP (h : l.countP Condition.isCurrent = 1) (hc : c ∈ l)
    (hcurrent : c.isCurrent = true) : l.filter Condition.isCurrent = [c] := by
  obtain ⟨x, hx⟩ := List.length_eq_one_iff.mp (List.countP_eq_length_filter.symm.trans h)
  have hmem : c ∈ l.filter Condition.isCurrent := List.mem_filter.mpr ⟨hc, hcurrent⟩
  rw [hx] at hmem ⊢
  rw [List.mem_singleton.mp hmem]

/-- A report of what is recorded already changes nothing. -/
theorem setSyncCondition_recorded (h : l.filter Condition.isCurrent = [c])
    (ht : c.type = syncType d) (htime : c.lastUpdateTime = now.format) :
    setSyncCondition l d now = (l, false) := by
  have hunique {x : Condition} (hx : x ∈ l) (hcurrent : x.isCurrent = true) : x = c := by
    have hmem : x ∈ l.filter Condition.isCurrent := List.mem_filter.mpr ⟨hx, hcurrent⟩
    rw [h] at hmem
    exact List.mem_singleton.mp hmem
  rcases setSyncCondition_cases l d now with
    ⟨hnone, _⟩ | ⟨i, active, hi, hcurrent, ⟨_, hset⟩ | ⟨hne, _⟩⟩
  · have hc : c ∈ l.filter Condition.isCurrent := by rw [h, List.mem_singleton]
    obtain ⟨hmem, hcurrent⟩ := List.mem_filter.mp hc
    exact absurd (hnone c hmem) (by simp [hcurrent])
  · obtain rfl := hunique (List.mem_of_getElem? hi) hcurrent
    obtain ⟨hlt, rfl⟩ := List.getElem?_eq_some_iff.mp hi
    rw [hset, ← htime, List.set_getElem_self hlt]
    simp
  · obtain rfl := hunique (List.mem_of_getElem? hi) hcurrent
    exact absurd ht hne

/-- Of conditions of which at most one sync condition is true, a report leaves exactly one true,
that of its result. All entries stay at their places and of their types, and one of the result's
type is added at the end if there was none. Only the entry that was true and the first of the
result's type can become others; one that was true and is not any more keeps its message and the
time of its transition. The same report once more changes nothing. Whatever the conditions are, a
report says that it changed them exactly when they are others than before. -/
theorem report_keeps_one_current (l : List Condition) (d : Bool) (now : Moment) :
    (l.countP Condition.isCurrent ≤ 1 →
      (∃ c, (setSyncCondition l d now).1.filter Condition.isCurrent = [c] ∧
        c.type = syncType d) ∧
      ((setSyncCondition l d now).1.length = l.length ∨
        (∀ c ∈ l, c.type ≠ syncType d) ∧
          (setSyncCondition l d now).1.drop l.length = [activated d now.format]) ∧
      (∀ i c, l[i]? = some c → ∃ x, (setSyncCondition l d now).1[i]? = some x ∧
        x.type = c.type ∧ (x ≠ c → c.isCurrent = true ∨ FirstOfResult l d i) ∧
        (c.type.isGitSync = false → x = c) ∧
        (c.isCurrent = true → x.isCurrent = false → x.status = .false ∧
          x.lastTransitionTime = c.lastTransitionTime ∧ x.message = c.message)) ∧
      setSyncCondition (setSyncCondition l d now).1 d now =
        ((setSyncCondition l d now).1, false)) ∧
    ((setSyncCondition l d now).2 = true ↔ (setSyncCondition l d now).1 ≠ l) := by
  refine ⟨fun h => ?_, setSyncCondition_changed_iff⟩
  obtain ⟨c, hc, hcurrent, ht, htime⟩ := exists_current_setSyncCondition l d now
  have hone := filter_isCurrent_of_countP (countP_setSyncCondition h d now) hc hcurrent
  refine ⟨⟨c, hone, ht⟩, setSyncCondition_grows l d now, fun i y hy => ?_,
    setSyncCondition_recorded hone ht htime⟩
  obtain ⟨x, hx, hrev⟩ := revised_setSyncCondition d now hy
  refine ⟨x, hx, hrev.type_eq hy, hrev.cases_of_ne, hrev.eq_of_unrelated hy, fun hwas hnot => ?_⟩
  obtain rfl := hrev.of_not_current hwas hnot
  exact ⟨rfl, rfl, rfl⟩

/-- Two entries of the result's type, one of them unknown, and a true one of the other type. -/
def mixedConditions : List Condition :=
  [⟨.synced, .true, "s", "s", "synced"⟩, ⟨.gitInSync, .unknown, "a", "a", ""⟩,
    ⟨.gitOutOfSync, .true, "b", "b", "apart"⟩, ⟨.gitInSync, .false, "c", "c", ""⟩]

theorem mixedConditions_keep_one_current :
    mixedConditions.countP Condition.isCurrent ≤ 1 ∧
      (∃ c, (setSyncCondition mixedConditions false ⟨0, 0⟩).1.filter Condition.isCurrent = [c] ∧
        c.type = .gitInSync) ∧
      setSyncCondition (setSyncCondition mixedConditions false ⟨0, 0⟩).1 false ⟨0, 0⟩ =
        ((setSyncCondition mixedConditions false ⟨0, 0⟩).1, false) ∧
      (setSyncCondition mixedConditions false ⟨0, 0⟩).1 =
        [⟨.synced, .true, "s", "s", "synced"⟩, activated false (Moment.format ⟨0, 0⟩),
          ⟨.gitOutOfSync, .false, Moment.format ⟨0, 0⟩, "b", "apart"⟩,
          ⟨.gitInSync, .false, "c", "c", ""⟩] := by
  have h : mixedConditions.countP Condition.isCurrent ≤ 1 := by decide
  obtain ⟨hone, _, _, hagain⟩ := (report_keeps_one_current mixedConditions false ⟨0, 0⟩).1 h
  exact ⟨h, hone, hagain, rfl⟩

end Drift
end GitDrift
