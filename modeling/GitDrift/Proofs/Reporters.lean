import GitDrift.Proofs.StoreAgreement
import GitDrift.Proofs.SyncCondition
import Mathlib.Data.Set.Insert

/-!
Reports about one Pattern that are made at the same time. Each of them reads the conditions and, if
its result changes them, writes them back; what others do falls between the two. A report can be
lost that way, but no list that is stored or on its way to the store has two sync conditions that
are true, and conditions of other types are in all of them as they were.
-/
namespace GitDrift.Drift

open Cluster Patterns

variable {τ : Type} {l l' l₀ : List Condition} {d : Bool} {now : Moment} {key : PatternKey} {i : ℕ}

/-- A store of the conditions of one Pattern: how it reads and writes, and what it holds. A write
that fails may have been made. -/
structure ConditionStore (τ : Type) where
  read : τ → Except StoreError (List Condition) × τ
  write : List Condition → τ → Except StoreError Unit × τ
  Holds : τ → List Condition → Prop
  holds_read : ∀ {t l}, Holds t l → Holds (read t).2 l
  read_eq : ∀ {t l l'}, Holds t l → (read t).1 = .ok l' → l' = l
  holds_write : ∀ {t l} l', Holds t l →
    Holds (write l' t).2 l' ∨ ((write l' t).1 ≠ .ok () ∧ Holds (write l' t).2 l)

namespace ConditionStore

variable (store : ConditionStore τ)

/-- Records a result among the conditions, if that changes them. -/
def report (drifted : Bool) (now : Moment) (t : τ) : Except StoreError Unit × τ :=
  match store.read t with
  | (.error e, t) => (.error e, t)
  | (.ok l, t) =>
    let (new, changed) := setSyncCondition l drifted now
    if changed then store.write new t else (.ok (), t)

end ConditionStore

/-- The conditions of a Pattern that is kept in memory. -/
def MemoryStore.conditionStore (key : PatternKey) : ConditionStore MemoryStore where
  read m := (MemoryStore.conditions m key, m)
  write l m := MemoryStore.writeConditions m key l
  Holds m l := MemoryStore.conditions m key = .ok l
  holds_read h := h
  read_eq h h' := Except.ok.inj (h'.symm.trans h)
  holds_write {m l} l' h := by
    left
    unfold MemoryStore.conditions MemoryStore.find at h
    cases hknown : m.get? key with
    | none => simp [hknown, Except.map] at h
    | some p =>
      simp [MemoryStore.writeConditions, MemoryStore.conditions, MemoryStore.find, hknown,
        Table.get?_insert, Except.map]

theorem MemoryStore.report_eq (m : MemoryStore) (key : PatternKey) (d : Bool) (now : Moment) :
    (MemoryStore.conditionStore key).report d now m = MemoryStore.report m key d now := by
  cases h : MemoryStore.conditions m key <;>
    simp only [ConditionStore.report, MemoryStore.report, MemoryStore.conditionStore, h]

/-- What an activity comes to at a server that writes down its requests. -/
def ApiServer.ask {keys : Set PatternKey} {α : Type} (server : ApiServer keys τ)
    (m : Activity Unit (Except StoreError α)) (x : τ × List Request) :
    Except StoreError α × (τ × List Request) :=
  let (result, _, x) := m.run (ApiServer.logged server.answer) () x
  (result.getD (.error .poisoned), x)

theorem ApiServer.Does.ask {keys : Set PatternKey} {α : Type} {server : ApiServer keys τ}
    {m : Activity Unit (Except StoreError α)} {a : Except StoreError α} {t t' : τ}
    {sent : List Request} (h : server.Does m t a sent t') (log : List Request) :
    server.ask m (t, log) = (a, (t', log ++ sent)) := by
  simp [ApiServer.ask, h () log]

/-- Memory that knows one Pattern. -/
def MemoryStore.single (key : PatternKey) (config : GitConfig) (l : List Condition) : MemoryStore :=
  ⟨[(key, ⟨config, l⟩)]⟩

theorem MemoryStore.conditions_single {config : GitConfig} :
    MemoryStore.conditions (MemoryStore.single key config l) key = .ok l := by
  simp [MemoryStore.conditions, MemoryStore.find, MemoryStore.single, Table.get?, Table.lookup,
    Except.map]

theorem MemoryStore.writeConditions_single {config : GitConfig} :
    MemoryStore.writeConditions (MemoryStore.single key config l) key l' =
      (.ok (), MemoryStore.single key config l') := by
  simp [MemoryStore.writeConditions, MemoryStore.single, Table.get?, Table.lookup, Table.insert,
    Table.erase]

/-- The conditions of a Pattern that a server keeps. -/
def ApiServer.conditionStore (server : ApiServer {key} τ) :
    ConditionStore (τ × List Request) where
  read := server.ask (ClusterStore.conditions key)
  write l := server.ask (ClusterStore.writeConditions key l)
  Holds x l := ∃ config, server.Mirrors (MemoryStore.single key config l) x.1
  holds_read := by
    rintro ⟨t, log⟩ l ⟨config, h⟩
    obtain ⟨x, t', hdoes, hleaves, _⟩ := does_conditions (σ := Unit) (Set.mem_singleton key) h
    rw [hdoes.ask log]
    exact ⟨config, h.leave hleaves⟩
  read_eq := by
    rintro ⟨t, log⟩ l l' ⟨config, h⟩ hread
    obtain ⟨x, t', hdoes, _, hagree⟩ := does_conditions (σ := Unit) (Set.mem_singleton key) h
    rw [hdoes.ask log] at hread
    subst hread
    rw [MemoryStore.conditions_single] at hagree
    cases hagree
    rfl
  holds_write := by
    rintro ⟨t, log⟩ l l' ⟨config, h⟩
    cases hwriting : writing key l' with
    | none =>
      have hrun : (ClusterStore.writeConditions key l').run (ApiServer.logged server.answer) ()
          (t, log) = _ := ClusterStore.run_writeConditions_of_none hwriting
      simp only [ApiServer.ask, hrun]
      exact .inr ⟨by simp, config, h⟩
    | some r =>
      obtain ⟨x, t', hdoes, _, hmirrors, _⟩ :=
        does_writeConditions (σ := Unit) (Set.mem_singleton key) h fun _ => by rw [hwriting]; rfl
      rw [MemoryStore.writeConditions_single] at hmirrors
      rw [hdoes.ask log]
      exact .inl ⟨config, hmirrors⟩

theorem ApiServer.report_eq (server : ApiServer {key} τ) (d : Bool) (now : Moment)
    (x : τ × List Request) :
    server.conditionStore.report d now x = server.ask (ClusterStore.report key d now) x := by
  obtain ⟨a, x', hread⟩ :=
    (ClusterStore.asksOnce_conditions key).asks.run (ApiServer.logged server.answer) () x
  have hcond : server.conditionStore.read x = (a, x') := by
    simp [ApiServer.conditionStore, ApiServer.ask, hread]
  unfold ConditionStore.report
  rw [hcond, ApiServer.ask, ClusterStore.report_eq, Activity.run_bind, hread]
  cases a with
  | error e => rfl
  | ok l =>
    cases hchanged : (setSyncCondition l d now).2 with
    | false => simp [ClusterStore.afterRead, hchanged]
    | true => simp [ClusterStore.afterRead, hchanged, ApiServer.conditionStore, ApiServer.ask]

/-- How far a report has come. -/
inductive Reporter where
  | asked (drifted : Bool) (now : Moment)
  /-- The conditions have been read, and are to be replaced by these. -/
  | holding (conditions : List Condition)
  /-- The report is over, and it came to a write. -/
  | wrote (result : Except StoreError Unit)
  /-- The report is over without a write. -/
  | returned (result : Except StoreError Unit)

namespace Reporter

/-- The result of a report that is over. -/
def result? : Reporter → Option (Except StoreError Unit)
  | .wrote r | .returned r => some r
  | _ => none

/-- The next step of a report: it reads, or it writes. -/
def advance (store : ConditionStore τ) : Reporter → τ → Reporter × τ
  | .asked drifted now, t =>
    match store.read t with
    | (.error e, t) => (.returned (.error e), t)
    | (.ok l, t) =>
      let (new, changed) := setSyncCondition l drifted now
      (if changed then .holding new else .returned (.ok ()), t)
  | .holding l, t => ((.wrote (store.write l t).1), (store.write l t).2)
  | r, t => (r, t)

/-- A report that nobody interrupts does what reports do. -/
theorem advance_advance (store : ConditionStore τ) (d : Bool) (now : Moment) (t : τ) :
    let first := advance store (.asked d now) t
    let second := advance store first.1 first.2
    second.1.result? = some (store.report d now t).1 ∧ second.2 = (store.report d now t).2 := by
  simp only [advance, ConditionStore.report]
  rcases store.read t with ⟨e | l, t'⟩
  · exact ⟨rfl, rfl⟩
  · cases hchanged : (setSyncCondition l d now).2 <;> simp [hchanged, result?]

end Reporter

/-- Reports that are made of one store. -/
structure Reporters (τ : Type) where
  reporters : List Reporter
  store : τ

namespace Reporters

variable (store : ConditionStore τ)

/-- All reports are yet to be made. -/
def start (reports : List Report) (t : τ) : Reporters τ :=
  ⟨reports.map fun r => .asked r.1 r.2, t⟩

/-- One of the reports makes its next step. -/
def step (s : Reporters τ) (i : ℕ) : Reporters τ :=
  match s.reporters[i]? with
  | none => s
  | some r => ⟨s.reporters.set i (r.advance store s.store).1, (r.advance store s.store).2⟩

/-- Steps in the order in which the reports make them. -/
def run (s : Reporters τ) (schedule : List ℕ) : Reporters τ := schedule.foldl (step store) s

end Reporters

/-- What is left of the conditions that there were when reports began. -/
structure Kept (l₀ : List Condition) (reporters : List Reporter) (l : List Condition) : Prop where
  /-- No two sync conditions are true. -/
  single : l.countP Condition.isCurrent ≤ 1
  /-- One is true as soon as a report has been written. -/
  written : .wrote (.ok ()) ∈ reporters → l.countP Condition.isCurrent = 1
  /-- Conditions of other types are as they were, in their order. -/
  others : unrelated l = unrelated l₀

/-- A list that a report made of the conditions. -/
def Fresh (l₀ l : List Condition) : Prop :=
  l.countP Condition.isCurrent = 1 ∧ unrelated l = unrelated l₀

/-- What holds of the store and of the lists on their way to it. -/
structure Intact (store : ConditionStore τ) (l₀ : List Condition) (s : Reporters τ) : Prop where
  stored : ∃ l, store.Holds s.store l ∧ Kept l₀ s.reporters l
  held : ∀ l, .holding l ∈ s.reporters → Fresh l₀ l

section Intact

variable {store : ConditionStore τ} {s : Reporters τ} {t : τ} {r r' : Reporter}
  {reporters : List Reporter}

theorem intact_start (h : store.Holds t l₀) (hl : l₀.countP Condition.isCurrent ≤ 1)
    (reports : List Report) : Intact store l₀ (.start reports t) := by
  refine ⟨⟨l₀, h, hl, fun hmem => ?_, rfl⟩, fun l hmem => ?_⟩ <;>
    simp [Reporters.start] at hmem

theorem Kept.set (h : Kept l₀ reporters l) (hr : r ≠ .wrote (.ok ())) :
    Kept l₀ (reporters.set i r) l := by
  refine ⟨h.single, fun hmem => h.written ?_, h.others⟩
  exact (List.mem_or_eq_of_mem_set hmem).resolve_right (Ne.symm hr)

theorem Fresh.kept (h : Fresh l₀ l) : Kept l₀ reporters l :=
  ⟨h.1.le, fun _ => h.1, h.2⟩

/-- What a report makes of the conditions that are stored. -/
theorem Kept.fresh (h : Kept l₀ reporters l) (d : Bool) (now : Moment) :
    Fresh l₀ (setSyncCondition l d now).1 :=
  ⟨countP_setSyncCondition h.single d now, (unrelated_setSyncCondition l d now).trans h.others⟩

/-- Lists on their way to the store when one report has made a step. -/
theorem held_set (h : ∀ l, .holding l ∈ reporters → Fresh l₀ l)
    (hr : ∀ l, r = .holding l → Fresh l₀ l) :
    ∀ l, .holding l ∈ reporters.set i r → Fresh l₀ l := by
  intro l hmem
  rcases List.mem_or_eq_of_mem_set hmem with hmem | heq
  · exact h l hmem
  · exact hr l heq.symm

/-- A report reads: what it takes to the store is made of what is stored now. -/
theorem intact_read (h : Intact store l₀ s) (d : Bool) (now : Moment) :
    Intact store l₀ ⟨s.reporters.set i (Reporter.advance store (.asked d now) s.store).1,
      (Reporter.advance store (.asked d now) s.store).2⟩ := by
  obtain ⟨⟨l, hl, hkept⟩, hheld⟩ := h
  have hholds := store.holds_read hl
  cases hread : store.read s.store with
  | mk result t =>
    rw [hread] at hholds
    cases result with
    | error e =>
      simp only [Reporter.advance, hread]
      exact ⟨⟨l, hholds, hkept.set (by simp)⟩, held_set hheld (by simp)⟩
    | ok l' =>
      obtain rfl : l' = l := store.read_eq hl (by rw [hread])
      simp only [Reporter.advance, hread]
      cases (setSyncCondition l' d now).2 with
      | false => exact ⟨⟨l', hholds, hkept.set (by simp)⟩, held_set hheld (by simp)⟩
      | true =>
        refine ⟨⟨l', hholds, hkept.set (by simp)⟩, held_set hheld fun new hnew => ?_⟩
        cases hnew
        exact hkept.fresh d now

/-- A report writes: what it has made takes the place of what is stored. -/
theorem intact_write (h : Intact store l₀ s) (hl' : Fresh l₀ l') :
    Intact store l₀ ⟨s.reporters.set i (Reporter.advance store (.holding l') s.store).1,
      (Reporter.advance store (.holding l') s.store).2⟩ := by
  obtain ⟨⟨l, hl, hkept⟩, hheld⟩ := h
  refine ⟨?_, held_set hheld (by simp [Reporter.advance])⟩
  rcases store.holds_write l' hl with hholds | ⟨hfailed, hholds⟩
  · exact ⟨l', hholds, hl'.kept⟩
  · exact ⟨l, hholds, hkept.set (by simpa [Reporter.advance] using hfailed)⟩

theorem intact_step (h : Intact store l₀ s) (i : ℕ) : Intact store l₀ (s.step store i) := by
  unfold Reporters.step
  cases hi : s.reporters[i]? with
  | none => exact h
  | some r =>
    obtain ⟨hlt, hr⟩ := List.getElem?_eq_some_iff.mp hi
    cases r with
    | asked d now => exact intact_read h d now
    | holding l => exact intact_write h (h.held l (List.mem_of_getElem? hi))
    -- a report that is over stays as it is
    | wrote result =>
      simp only [Reporter.advance]
      rwa [← hr, List.set_getElem_self hlt]
    | returned result =>
      simp only [Reporter.advance]
      rwa [← hr, List.set_getElem_self hlt]

theorem intact_run (h : Intact store l₀ s) (schedule : List ℕ) :
    Intact store l₀ (s.run store schedule) := by
  induction schedule generalizing s with
  | nil => exact h
  | cons i schedule ih => exact ih (intact_step h i)

end Intact

/-- However the reads and writes of reports fall among each other, in memory and in a cluster: from
conditions of which at most one sync condition is true, the store comes to conditions of which at
most one is, and exactly one once a report has been written, with all conditions of other types. -/
theorem concurrent_reports_keep_conditions (hl : l₀.countP Condition.isCurrent ≤ 1)
    (reports : List Report) (schedule : List ℕ) (key : PatternKey) :
    (∀ m, MemoryStore.conditions m key = .ok l₀ →
      let s := Reporters.run (MemoryStore.conditionStore key) (.start reports m) schedule
      ∃ l, MemoryStore.conditions s.store key = .ok l ∧ Kept l₀ s.reporters l) ∧
    ∀ {τ : Type} (server : ApiServer {key} τ) (config : GitConfig) (t : τ) (log : List Request),
      server.Mirrors (MemoryStore.single key config l₀) t →
      let s := Reporters.run server.conditionStore (.start reports (t, log)) schedule
      ∃ config l, server.Mirrors (MemoryStore.single key config l) s.store.1 ∧
        Kept l₀ s.reporters l := by
  refine ⟨fun m hm => ?_, fun server config t log ht => ?_⟩
  · have hholds : (MemoryStore.conditionStore key).Holds m l₀ := hm
    exact (intact_run (intact_start hholds hl reports) schedule).stored
  · have hholds : server.conditionStore.Holds (t, log) l₀ := ⟨config, ht⟩
    obtain ⟨l, ⟨config, hl⟩, hkept⟩ := (intact_run (intact_start hholds hl reports) schedule).stored
    exact ⟨config, l, hl, hkept⟩

/-- Two reports of which both read before one writes: the one that writes last undoes the other. -/
theorem overtaken_report_keeps_conditions :
    let before : List Condition := [⟨.synced, .true, "", "", ""⟩]
    let s := Reporters.run (MemoryStore.conditionStore ⟨"mcg", "patterns"⟩)
      (.start [(true, ⟨1, 0⟩), (false, ⟨2, 0⟩)]
        (MemoryStore.single ⟨"mcg", "patterns"⟩ {} before)) [0, 1, 0, 1]
    before.countP Condition.isCurrent ≤ 1 ∧
      s.reporters = [.wrote (.ok ()), .wrote (.ok ())] ∧
      ∃ l, MemoryStore.conditions s.store ⟨"mcg", "patterns"⟩ = .ok l ∧ Kept before s.reporters l ∧
        l = before ++ [activated false (Moment.format ⟨2, 0⟩)] := by
  intro before s
  have hbefore : before.countP Condition.isCurrent ≤ 1 := by decide
  obtain ⟨l, hl, hkept⟩ :=
    (concurrent_reports_keep_conditions hbefore [(true, ⟨1, 0⟩), (false, ⟨2, 0⟩)] [0, 1, 0, 1]
      ⟨"mcg", "patterns"⟩).1 _ MemoryStore.conditions_single
  exact ⟨hbefore, rfl, l, hl, hkept, Except.ok.inj (hl.symm.trans rfl)⟩

end GitDrift.Drift
