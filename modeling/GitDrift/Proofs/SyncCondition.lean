import GitDrift.Drift.SyncCondition
import Mathlib.Data.List.Induction

/-!
What the sync conditions say after many reports. Of the last reports in a row that have a result,
the first is what matters: the condition of the latest result dates its transition from there, and
the other condition was last updated then.
-/
namespace GitDrift.Drift

/-- A result with the time at which it is reported. -/
abbrev Report := Bool × Moment

variable {others l : List Condition} {p : Condition → Bool} {reports : List Report} {r : Report}
  {d x first : Bool} {t t' tm ta now : Moment} {a i m : ℕ}

/-- The conditions after reports, one after another. -/
def reported (conditions : List Condition) (reports : List Report) : List Condition :=
  reports.foldl (fun l r => (setSyncCondition l r.1 r.2).1) conditions

theorem reported_append_singleton :
    reported l (reports ++ [r]) = (setSyncCondition (reported l reports) r.1 r.2).1 := by
  simp [reported]

theorem findIdx?_behind (h : ∀ c ∈ others, p c = false) :
    (others ++ l).findIdx? p = (l.findIdx? p).map (· + others.length) := by
  rw [List.findIdx?_append, List.findIdx?_eq_none_iff.mpr h, Option.none_or]

theorem findCondition_behind (h : ∀ c ∈ others, p c = false) :
    findCondition p (others ++ l) =
      (findCondition p l).map fun x => (x.1 + others.length, x.2) := by
  rw [findCondition, findCondition, findIdx?_behind h]
  cases l.findIdx? p with
  | none => rfl
  | some i =>
    simp only [Option.map_some, Option.bind_some]
    rw [List.getElem?_append_right (Nat.le_add_left _ _), Nat.add_sub_cancel]
    cases l[i]? <;> rfl

theorem set_behind (others l : List Condition) (i : ℕ) (c : Condition) :
    (others ++ l).set (i + others.length) c = others ++ l.set i c := by
  rw [List.set_append_right _ _ (Nat.le_add_left _ _), Nat.add_sub_cancel]

theorem activate_behind (h : ∀ c ∈ others, c.type.isGitSync = false) (d : Bool) (time : String) :
    activate (others ++ l) d time = others ++ activate l d time := by
  have hnone : ∀ c ∈ others, decide (c.type = syncType d) = false := by
    intro c hc
    refine decide_eq_false fun ht => ?_
    have hsync := h c hc
    rw [ht] at hsync
    cases d <;> cases hsync
  rw [activate, findIdx?_behind hnone, activate]
  cases l.findIdx? (fun c => c.type = syncType d) with
  | none => simp
  | some i => exact set_behind others l i _

/-- Reports leave other conditions alone. -/
theorem setSyncCondition_behind (h : ∀ c ∈ others, c.type.isGitSync = false) (d : Bool)
    (now : Moment) :
    (setSyncCondition (others ++ l) d now).1 = others ++ (setSyncCondition l d now).1 := by
  have hnone : ∀ c ∈ others, (c.type.isGitSync && decide (c.status = .true)) = false := by
    intro c hc
    rw [h c hc, Bool.false_and]
  simp only [setSyncCondition, syncConditionOfStatus, findCondition_behind hnone]
  cases findCondition (fun c => c.type.isGitSync && decide (c.status = .true)) l with
  | none => exact activate_behind h d _
  | some x =>
    simp only [Option.map_some]
    split
    · exact set_behind others l x.1 _
    · rw [set_behind]
      exact activate_behind h d _

theorem reported_behind (h : ∀ c ∈ others, c.type.isGitSync = false) (l : List Condition)
    (reports : List Report) : reported (others ++ l) reports = others ++ reported l reports := by
  induction reports using List.reverseRecOn with
  | nil => rfl
  | append_singleton reports r ih =>
    rw [reported_append_singleton, ih, setSyncCondition_behind h, reported_append_singleton]

/-- The result of a report. -/
def resultAt (reports : List Report) (i : ℕ) : Option Bool := reports[i]?.map (·.1)

/-- Of the last reports in a row that have a result, report `m` is the first. -/
def StartsLastStreak (reports : List Report) (d : Bool) (m : ℕ) : Prop :=
  ∃ b, m ≤ b ∧ (∀ i, m ≤ i → i ≤ b → resultAt reports i = some d) ∧
    (∀ i, b < i → resultAt reports i ≠ some d) ∧ ∀ i, i + 1 = m → resultAt reports i ≠ some d

theorem resultAt_append_singleton : resultAt (reports ++ [r]) i =
    if i = reports.length then some r.1 else resultAt reports i := by
  rw [resultAt, List.getElem?_append]
  split_ifs with hlt heq heq
  · omega
  · rfl
  · simp [heq]
  · rw [resultAt, List.getElem?_eq_none (Nat.not_lt.mp hlt), List.getElem?_eq_none (by simp; omega)]

theorem lt_of_resultAt (h : resultAt reports i = some x) : i < reports.length := by
  obtain ⟨r, hr, _⟩ := Option.map_eq_some_iff.mp h
  exact (List.getElem?_eq_some_iff.mp hr).1

theorem StartsLastStreak.lt (h : StartsLastStreak reports x m) : m < reports.length := by
  obtain ⟨b, hmb, hin, _⟩ := h
  exact lt_of_resultAt (hin m (Nat.le_refl _) hmb)

/-- Reports of the other result leave the streak as it is. -/
theorem StartsLastStreak.append_other (h : StartsLastStreak reports x m) (hr : r.1 ≠ x) :
    StartsLastStreak (reports ++ [r]) x m := by
  obtain ⟨b, hmb, hin, hafter, hbefore⟩ := h
  have hb := lt_of_resultAt (hin b hmb (Nat.le_refl _))
  refine ⟨b, hmb, fun i hmi hib => ?_, fun i hbi => ?_, fun i hi => ?_⟩
  · rw [resultAt_append_singleton, if_neg (by omega)]
    exact hin i hmi hib
  · rw [resultAt_append_singleton]
    split_ifs
    · simpa using hr
    · exact hafter i hbi
  · rw [resultAt_append_singleton, if_neg (by omega)]
    exact hbefore i hi

/-- A report of the latest result goes on with the streak. -/
theorem StartsLastStreak.append_same (h : StartsLastStreak reports x m)
    (hlast : resultAt reports (reports.length - 1) = some x) (hr : r.1 = x) :
    StartsLastStreak (reports ++ [r]) x m := by
  have hm := h.lt
  obtain ⟨b, hmb, hin, hafter, hbefore⟩ := h
  have hb : reports.length - 1 ≤ b := by
    by_contra hlt
    exact hafter _ (Nat.not_le.mp hlt) hlast
  refine ⟨reports.length, by omega, fun i hmi hi => ?_, fun i hi => ?_, fun i hi => ?_⟩
  · rw [resultAt_append_singleton]
    split_ifs
    · rw [hr]
    · exact hin i hmi (by omega)
  · rw [resultAt_append_singleton, if_neg (by omega)]
    intro hx
    exact absurd (lt_of_resultAt hx) (by omega)
  · rw [resultAt_append_singleton, if_neg (by omega)]
    exact hbefore i hi

/-- A result that is not the latest starts a streak. -/
theorem startsLastStreak_length
    (hlast : ∀ i, i + 1 = reports.length → resultAt reports i ≠ some r.1) :
    StartsLastStreak (reports ++ [r]) r.1 reports.length := by
  refine ⟨reports.length, (Nat.le_refl _), fun i hi hi' => ?_, fun i hi => ?_, fun i hi => ?_⟩
  · rw [resultAt_append_singleton, if_pos (Nat.le_antisymm hi' hi)]
  · rw [resultAt_append_singleton, if_neg (by omega)]
    intro hx
    exact absurd (lt_of_resultAt hx) (by omega)
  · rw [resultAt_append_singleton, if_neg (by omega)]
    exact hlast i hi

/-- The condition of a result, with the times of its last update and of its last transition. -/
def syncCondition (d : Bool) (status : ConditionStatus) (updated since : Moment) : Condition :=
  ⟨syncType d, status, updated.format, since.format, syncMessage d⟩

/-- Two conditions, the one whose result came up first ahead. -/
def inOrder (first d : Bool) (active former : Condition) : List Condition :=
  if first = d then [active, former] else [former, active]

/-- What is recorded of reports. The condition of the latest result is true, was updated last, and
has held since the first of the last reports in a row. If there was another result, its condition
was updated when it became false, and had held since the first report of its own last streak. -/
def Recorded (reports : List Report) (l : List Condition) : Prop :=
  ∃ d t m tm, reports.getLast? = some (d, t) ∧ StartsLastStreak reports d m ∧
    reports[m]? = some (d, tm) ∧
    ((∀ r ∈ reports, r.1 = d) ∧ l = [syncCondition d .true t tm] ∨
      ∃ a ta first, StartsLastStreak reports (!d) a ∧ reports[a]? = some (!d, ta) ∧
        resultAt reports 0 = some first ∧
        l = inOrder first d (syncCondition d .true t tm) (syncCondition (!d) .false tm ta))

theorem recorded_singleton (r : Report) : Recorded [r] (setSyncCondition [] r.1 r.2).1 := by
  obtain ⟨d, t⟩ := r
  have hstart : StartsLastStreak ([] ++ [(d, t)]) d 0 :=
    startsLastStreak_length fun i hi => by cases hi
  refine ⟨d, t, 0, t, rfl, hstart, rfl, Or.inl ⟨by simp, ?_⟩⟩
  cases d <;> rfl

/-- A result that stays only moves the time of the last update. -/
theorem setSyncCondition_same (first d : Bool) (t tm ta now : Moment) :
    (setSyncCondition [syncCondition d .true t tm] d now).1 = [syncCondition d .true now tm] ∧
      (setSyncCondition (inOrder first d (syncCondition d .true t tm)
        (syncCondition (!d) .false tm ta)) d now).1 =
        inOrder first d (syncCondition d .true now tm) (syncCondition (!d) .false tm ta) := by
  cases first <;> cases d <;> exact ⟨rfl, rfl⟩

/-- A result that changes makes its condition true from now on, and the other one false. -/
theorem setSyncCondition_changed (first d : Bool) (t tm ta now : Moment) :
    (setSyncCondition [syncCondition d .true t tm] (!d) now).1 =
        inOrder d (!d) (syncCondition (!d) .true now now) (syncCondition d .false now tm) ∧
      (setSyncCondition (inOrder first d (syncCondition d .true t tm)
        (syncCondition (!d) .false tm ta)) (!d) now).1 =
        inOrder first (!d) (syncCondition (!d) .true now now) (syncCondition d .false now tm) := by
  cases first <;> cases d <;> exact ⟨rfl, rfl⟩

theorem recorded_append_singleton (h : Recorded reports l) (r : Report) :
    Recorded (reports ++ [r]) (setSyncCondition l r.1 r.2).1 := by
  obtain ⟨d, t, m, tm, hlast, hm, htm, hl⟩ := h
  obtain ⟨x, now⟩ := r
  have hresult : resultAt reports (reports.length - 1) = some d := by
    rw [resultAt, ← List.getLast?_eq_getElem?, hlast]
    rfl
  have hfirst {first : Bool} (hf : resultAt reports 0 = some first) :
      resultAt (reports ++ [(x, now)]) 0 = some first := by
    have hlt := hm.lt
    rw [resultAt_append_singleton, if_neg (by omega), hf]
  have hkept {i : ℕ} {r : Report} (hi : reports[i]? = some r) :
      (reports ++ [(x, now)])[i]? = some r := by
    rw [List.getElem?_append_left (List.getElem?_eq_some_iff.mp hi).1, hi]
  by_cases hx : x = d
  · subst hx
    refine ⟨x, now, m, tm, List.getLast?_concat, hm.append_same hresult rfl, hkept htm, ?_⟩
    rcases hl with ⟨hall, rfl⟩ | ⟨a, ta, first, ha, hta, hf, rfl⟩
    · left
      refine ⟨fun r hr => ?_, (setSyncCondition_same true x t tm tm now).1⟩
      rcases List.mem_append.mp hr with hr | hr
      · exact hall r hr
      · rw [List.mem_singleton.mp hr]
    · right
      exact ⟨a, ta, first, ha.append_other (by simp), hkept hta, hfirst hf,
        (setSyncCondition_same first x t tm ta now).2⟩
  · -- the streak that was the latest becomes the last one of the other result
    obtain rfl : x = !d := by cases x <;> cases d <;> simp_all
    refine ⟨!d, now, reports.length, now, List.getLast?_concat, ?_, by simp, Or.inr ?_⟩
    · refine startsLastStreak_length fun i hi hi' => ?_
      obtain rfl : i = reports.length - 1 := by omega
      simp [hresult] at hi'
    · rw [Bool.not_not]
      have hother := hm.append_other (r := (!d, now)) hx
      rcases hl with ⟨hall, rfl⟩ | ⟨a, ta, first, ha, hta, hf, rfl⟩
      · have hf : resultAt reports 0 = some d := by
          obtain ⟨r, hr⟩ : ∃ r, reports[0]? = some r :=
            ⟨_, List.getElem?_eq_getElem (by have := hm.lt; omega)⟩
          rw [resultAt, hr, Option.map_some, hall r (List.mem_of_getElem? hr)]
        exact ⟨m, tm, d, hother, hkept htm, hfirst hf,
          (setSyncCondition_changed true d t tm tm now).1⟩
      · exact ⟨m, tm, first, hother, hkept htm, hfirst hf,
          (setSyncCondition_changed first d t tm ta now).2⟩

theorem nodup_types_of_recorded (h : Recorded reports l) :
    (l.map (·.type)).Nodup ∧ ∀ c ∈ l, c.type.isGitSync = true := by
  obtain ⟨d, t, m, tm, _, _, _, ⟨_, rfl⟩ | ⟨a, ta, first, _, _, _, rfl⟩⟩ := h
  · cases d <;> simp [syncCondition, syncType, ConditionType.isGitSync]
  · cases first <;> cases d <;> simp [inOrder, syncCondition, syncType, ConditionType.isGitSync]

/-- After any reports, the conditions of other types are as they were, and behind them there is one
condition for each result that was reported, as it is recorded. -/
theorem conditions_after_reports (h : ∀ c ∈ others, c.type.isGitSync = false)
    (hne : reports ≠ []) :
    ∃ l, reported others reports = others ++ l ∧ Recorded reports l ∧
      (l.map (·.type)).Nodup ∧ ∀ c ∈ l, c.type.isGitSync = true := by
  have hrec : Recorded reports (reported [] reports) := by
    induction reports using List.reverseRecOn with
    | nil => exact absurd rfl hne
    | append_singleton reports r ih =>
      rw [reported_append_singleton]
      by_cases hnil : reports = []
      · subst hnil
        exact recorded_singleton r
      · exact recorded_append_singleton (ih hnil) r
  refine ⟨reported [] reports, ?_, hrec, nodup_types_of_recorded hrec⟩
  simpa using reported_behind h [] reports

/-- The repositories are out of sync for a while. -/
def sampleReports : List Report :=
  [(false, ⟨0, 0⟩), (true, ⟨1, 0⟩), (true, ⟨2, 0⟩), (false, ⟨3, 0⟩), (false, ⟨4, 0⟩)]

theorem sampleReports_conditions :
    ∃ l, reported [⟨.synced, .true, "", "", ""⟩] sampleReports =
        [⟨.synced, .true, "", "", ""⟩] ++ l ∧
      Recorded sampleReports l ∧ (l.map (·.type)).Nodup ∧
      l = [syncCondition false .true ⟨4, 0⟩ ⟨3, 0⟩, syncCondition true .false ⟨3, 0⟩ ⟨1, 0⟩] := by
  have h : ∀ c ∈ [(⟨.synced, .true, "", "", ""⟩ : Condition)], c.type.isGitSync = false := by
    decide
  obtain ⟨l, hl, hrec, hnodup, _⟩ :=
    conditions_after_reports h (show sampleReports ≠ [] by decide)
  exact ⟨l, hl, hrec, hnodup, List.append_cancel_left (hl.symm.trans rfl)⟩

end GitDrift.Drift
