import GitDrift.Proofs.Delays
import GitDrift.Proofs.Release
import GitDrift.Reconcile.Policy

/-!
How often a Pattern has failed since it was last put into effect: what a reconciliation makes of its
failures and of those of others, and what is decided after a reconciliation that failed.
-/
namespace GitDrift

open Cluster Reconcile

variable {p q : Pattern} {key k l : PatternKey} {r r' r'' : Reconciler} {n : ℕ}

/-- Slashes in neither part of a key, so that its text tells the parts. -/
def PatternKey.Plain (k : PatternKey) : Prop := '/' ∉ k.name.toList ∧ '/' ∉ k.namespace_.toList

theorem PatternKey.Plain.text_inj (hk : k.Plain) : l.text = k.text ↔ l = k := by
  constructor
  · intro h
    have htext : k.namespace_.toList ++ '/' :: k.name.toList =
        l.namespace_.toList ++ '/' :: l.name.toList := by
      simpa [PatternKey.text] using congrArg String.toList h.symm
    obtain ⟨hns, _, hname⟩ := (List.append_cons_inj_of_notMem hk.2 hk.1).mp htext
    obtain ⟨name, ns⟩ := k
    obtain ⟨name', ns'⟩ := l
    rw [String.toList_inj] at hns hname
    exact congrArg₂ _ hname.symm hns.symm
  · rintro rfl
    rfl

theorem PatternKey.Plain.text_ne (hk : k.Plain) (h : l ≠ k) : l.text ≠ k.text :=
  mt hk.text_inj.mp h

namespace Retry.Failures

/-- What is known of a Pattern after some failures in a row. -/
def after (n : ℕ) : Failures := ⟨n, ⟨1, 10, min 10 (Nat.fib n), min 10 (Nat.fib (n + 1))⟩⟩

theorem next_increment_after (n : ℕ) :
    (after n).increment.next = (some (60 * min 10 (Nat.fib (n + 1))), after (n + 1)) := by
  have hleast : 1 ≤ (wordLimit - 1) / 60 := by decide
  have hgreatest : 10 ≤ (wordLimit - 1) / 60 := by decide
  have hnext := Fibonacci.next_delay hleast hgreatest n
  simp only [Fibonacci.delay_one (show 1 ≤ 10 by decide)] at hnext
  simp only [after, increment, next, hnext]

theorem reset_after (n : ℕ) : (after n).reset = after 0 := rfl

end Retry.Failures

namespace Reconcile

open Retry

/-- A Pattern has failed so many times since its failures were last forgotten. -/
def Failed (r : Reconciler) (key : PatternKey) (n : ℕ) : Prop :=
  ∃ t, r.failures = some t ∧ (t.get? key.text).getD {} = Failures.after n

theorem Failed.congr (hr : r'.failures = r.failures) (h : Failed r key n) : Failed r' key n := by
  obtain ⟨t, ht, hf⟩ := h
  exact ⟨t, hr.trans ht, hf⟩

theorem failed_recordFailure (h : Failed r key n) :
    (r.recordFailure key.text).1 = some (60 * min 10 (Nat.fib (n + 1))) ∧
      Failed (r.recordFailure key.text).2 key (n + 1) := by
  obtain ⟨t, ht, hf⟩ := h
  simp only [Reconciler.recordFailure, ht, hf, Failures.next_increment_after]
  exact ⟨rfl, _, rfl, by simp [Table.get?_insert]⟩

theorem failed_recordFailure_of_ne (hl : l.text ≠ key.text) (h : Failed r key n) :
    Failed (r.recordFailure l.text).2 key n := by
  obtain ⟨t, ht, hf⟩ := h
  simp only [Reconciler.recordFailure, ht]
  exact ⟨_, rfl, by rw [Table.get?_insert, if_neg (Ne.symm hl), hf]⟩

theorem failed_resetFailures (h : Failed r key n) :
    ((r.resetFailures key.text).1 = true ↔ 0 < n) ∧
      Failed (r.resetFailures key.text).2 key 0 := by
  obtain ⟨t, ht, hf⟩ := h
  cases hg : t.get? key.text with
  | none =>
    obtain rfl : n = 0 := by
      have := congrArg Failures.count hf
      simpa [hg, Failures.after, eq_comm] using this
    simp only [Reconciler.resetFailures, ht, hg]
    exact ⟨by simp, t, ht, hf⟩
  | some f =>
    obtain rfl : f = Failures.after n := by simpa [hg] using hf
    simp only [Reconciler.resetFailures, ht, hg]
    exact ⟨decide_eq_true_iff, _, rfl, by simp [Table.get?_insert, Failures.reset_after]⟩

theorem failed_resetFailures_of_ne (hl : l.text ≠ key.text) (h : Failed r key n) :
    Failed (r.resetFailures l.text).2 key n := by
  obtain ⟨t, ht, hf⟩ := h
  simp only [Reconciler.resetFailures, ht]
  split
  · exact ⟨t, ht, hf⟩
  · exact ⟨_, rfl, by rw [Table.get?_insert, if_neg (Ne.symm hl), hf]⟩

instance (p : Pattern) : Decidable (Held p) := inferInstanceAs (Decidable (_ ∈ _))

instance (p : Pattern) : Decidable (Deleting p) := inferInstanceAs (Decidable (_ ≠ _))

/-- A Pattern was put into effect: it is held, not being deleted, and was reconciled without an
error. -/
def Applied (p : Pattern) (x : Except ReconcileError Action) : Prop :=
  Held p ∧ ¬ Deleting p ∧ x.isOk = true

instance (p : Pattern) (x : Except ReconcileError Action) : Decidable (Applied p x) :=
  inferInstanceAs (Decidable (_ ∧ _))

/-- What holds after a Pattern was put into effect, or was not. -/
def settled (A B : Reconciler → Prop) (applied : Bool) : Reconciler → Prop :=
  if applied then B else A

section Parts

variable {others : Reconciler → Reconciler → Prop} {allowed : Deed Reconciler → Prop}
  {A B : Reconciler → Prop}

/-- What is known before and after the failures of a key are forgotten, if nothing else a
reconciliation does is of consequence. -/
structure Bears (others : Reconciler → Reconciler → Prop) (allowed : Deed Reconciler → Prop)
    (key : PatternKey) (A B : Reconciler → Prop) : Prop where
  before : Stable others A
  after : Stable others B
  asks : ∀ r request, allowed (.asks r request)
  crashes : ∀ r, A r → allowed (.crashes r)
  quiet : ∀ r r', r'.failures = r.failures →
    allowed (.acts r r') ∧ (A r → A r') ∧ (B r → B r')
  forgets : ∀ r r', r'.failures = (r.resetFailures key.text).2.failures → A r →
    allowed (.acts r r') ∧ B r'

namespace Bears

variable (hb : Bears others allowed key A B)
include hb

theorem stable : ∀ applied, Stable others (settled A B applied)
  | true => hb.after
  | false => hb.before

theorem look (f : Reconciler → α) : Keeps others allowed (fun _ => A) A (Activity.look f) :=
  Keeps.look _ hb.before fun r _ => (hb.quiet r r rfl).1

theorem change (applied : Bool) {f : Reconciler → Reconciler}
    (hf : ∀ r, (f r).failures = r.failures) :
    Keeps others allowed (fun _ => settled A B applied) (settled A B applied)
      (Activity.change f) := by
  refine Keeps.change (hb.stable applied) fun r hr => ⟨(hb.quiet r _ (hf r)).1, ?_⟩
  cases applied with
  | false => exact (hb.quiet r _ (hf r)).2.1 hr
  | true => exact (hb.quiet r _ (hf r)).2.2 hr

theorem changeGet {f : Reconciler → α × Reconciler} (hf : ∀ r, (f r).2.failures = r.failures) :
    Keeps others allowed (fun _ => A) A (Activity.changeGet f) :=
  Keeps.changeGet (fun _ => hb.before) fun r hr =>
    ⟨(hb.quiet r _ (hf r)).1, (hb.quiet r _ (hf r)).2.1 hr⟩

theorem recordStep (l : PatternKey) (step : String) (error : Option String) :
    Keeps others allowed (fun _ => A) A (recordStep l step error) :=
  keeps_recordStep (fun r _ _ _ => hb.asks r _) l step error

theorem ask (l : PatternKey) (path : String) (method : Method)
    (body : Option (PatchFormat × Json)) :
    Keeps others allowed (fun _ => A) A (Patterns.ask l path method body) :=
  Patterns.keeps_ask (fun r _ _ => hb.asks r _) l path

theorem apply (spec : PatternSpec) :
    Keeps others allowed (fun y => settled A B y.isOk) A (apply key spec) := by
  have hreport (step : String) (e : ApplyError) :
      Keeps others allowed (fun y => settled A B y.isOk) A (reportFailure key step e) :=
    (hb.recordStep key step _).bind fun _ => .done fun _ h => h
  refine (hb.look _).bind fun config => ?_
  dsimp only
  split
  · exact hreport _ _
  · refine (hb.changeGet fun _ => rfl).bind fun x => ?_
    split
    · exact .crash hb.crashes
    · exact hreport _ _
    · refine (hb.recordStep key _ _).bind fun y => ?_
      split
      · exact .done fun _ h => h
      · have hforget : Keeps others allowed (fun _ => B) A
            (Activity.change fun r : Reconciler =>
              (r.resetFailures key.text).2.measure (·.requeue "timer-based")) :=
          Keeps.change hb.after fun r hr => hb.forgets r _ rfl hr
        exact hforget.bind fun _ => .done fun _ h => h

theorem cleanup : Keeps others allowed (fun _ => A) A (cleanup key) := by
  have hdrop (r : Reconciler) : (r.dropWatch key).2.failures = r.failures := by
    rcases dropWatch_cases r key with ⟨_, h⟩ | ⟨_, w, _, _, h⟩ | ⟨_, _, h⟩ <;> rw [h]
  refine (hb.changeGet hdrop).bind fun x => ?_
  cases x with
  | ok => exact .done fun _ h => h
  | refused e => exact .done fun _ h => h
  | overflow => exact .crash hb.crashes

theorem finalize (p : Pattern) (ns : String) :
    Keeps others allowed (fun y => settled A B (Held p ∧ ¬ Deleting p ∧ y.isOk = true)) A
      (finalize p ns (Reconcile.apply key p.spec) (Reconcile.cleanup key)) := by
  rcases stageOf_cases p with ⟨hs, hp, hd⟩ | ⟨⟨i, hs⟩, _, hd⟩ | ⟨hs, hp⟩
  · simp only [Reconcile.finalize, hs]
    refine (hb.apply p.spec).bind fun y => .done fun r h => ?_
    cases y <;> simpa [hp, hd, Except.mapError, Except.isOk, Except.toBool] using h
  · -- what is being deleted was not put into effect, whatever became of it
    have hA (y : Except FinalizerError Action) :
        settled A B (Held p ∧ ¬ Deleting p ∧ y.isOk = true) = A := by simp [hd, settled]
    simp only [hA]
    cases hname : p.metadata.name with
    | none =>
      simp only [Reconcile.finalize, hs, hname]
      exact .done fun _ h => h
    | some name =>
      simp only [Reconcile.finalize, hs, hname]
      refine hb.cleanup.bind fun y => ?_
      cases y with
      | error e => exact .done fun _ h => h
      | ok action =>
        refine (hb.ask _ _ _ _).bind fun x => ?_
        split <;> exact .done fun _ h => h
  · have hA (y : Except FinalizerError Action) :
        settled A B (Held p ∧ ¬ Deleting p ∧ y.isOk = true) = A := by simp [hp, settled]
    simp only [hA]
    rcases hs with hs | hs
    · cases hname : p.metadata.name with
      | none =>
        simp only [Reconcile.finalize, hs, hname]
        exact .done fun _ h => h
      | some name =>
        simp only [Reconcile.finalize, hs, hname]
        refine (hb.ask _ _ _ _).bind fun x => ?_
        split <;> exact .done fun _ h => h
    · simp only [Reconcile.finalize, hs]
      exact .done fun _ h => h

end Bears

/-- The failures of a Pattern are forgotten when it was put into effect, and only then. -/
theorem Bears.reconcile (hb : Bears others allowed (watchKey p) A B) :
    Keeps others allowed (fun x => settled A B (Applied p x)) A (reconcile p) := by
  refine (hb.look _).bind fun start => ?_
  have hcount : Keeps others allowed (fun _ => A) A
      (Activity.change fun r : Reconciler => r.measure (·.reconciliation)) :=
    hb.change false fun _ => rfl
  refine hcount.bind fun _ => ?_
  cases hn : p.metadata.namespace_ with
  | none =>
    exact .done fun _ h => by simpa [Applied, settled, Except.isOk, Except.toBool] using h
  | some ns =>
    have hkey : keyOf p ns = watchKey p := by rw [watchKey, hn, Option.getD_some]
    dsimp only
    rw [hkey]
    refine (hb.finalize p ns).bind fun y => ?_
    have htime (applied : Bool) : Keeps others allowed (fun _ => settled A B applied)
        (settled A B applied) (Activity.change fun r : Reconciler =>
          r.measure (·.reconciliationTook (secondsBetween start r.now))) :=
      hb.change applied fun _ => rfl
    refine (htime _).bind fun _ => .done fun r h => ?_
    cases y <;> exact h

end Parts

theorem errorPolicy_of_deleting (hd : Deleting p) (config : Option ControllerConfig) :
    (errorPolicy p config r).1 = .requeue (config.getD {}).deletionRequeue ∧
      (errorPolicy p config r).2.failures = r.failures := by
  have hsome : p.metadata.deletionTimestamp.isSome = true := Option.isSome_iff_ne_none.mpr hd
  simp only [errorPolicy, if_pos hsome]
  exact ⟨trivial, rfl⟩

/-- A failure of what is not being deleted is counted under its key. -/
theorem errorPolicy_of_not_deleting (hd : ¬ Deleting p) (config : Option ControllerConfig) :
    (errorPolicy p config r).1 = .requeue (((r.recordFailure (watchKey p).text).1).getD
      (config.getD {}).reconciliationErrorRequeue) ∧
    (errorPolicy p config r).2.failures = (r.recordFailure (watchKey p).text).2.failures := by
  have hnone : ¬ p.metadata.deletionTimestamp.isSome = true := by simpa [Deleting] using hd
  simp only [errorPolicy, if_neg hnone]
  cases hf : r.failures <;>
    simp [Reconciler.recordFailure, Reconciler.measure, hf, keyOf, watchKey]

theorem failed_errorPolicy (hd : ¬ Deleting p) (h : Failed r (watchKey p) n)
    (config : Option ControllerConfig) :
    (errorPolicy p config r).1 = .requeue (60 * min 10 (Nat.fib (n + 1))) ∧
      Failed (errorPolicy p config r).2 (watchKey p) (n + 1) := by
  obtain ⟨haction, hfailures⟩ := errorPolicy_of_not_deleting (r := r) hd config
  obtain ⟨hseconds, hcount⟩ := failed_recordFailure h
  exact ⟨by rw [haction, hseconds, Option.getD_some], hcount.congr hfailures⟩

theorem failed_errorPolicy_of_ne (hp : (watchKey p).text ≠ key.text) (h : Failed r key n)
    (config : Option ControllerConfig) : Failed (errorPolicy p config r).2 key n := by
  by_cases hd : Deleting p
  · exact h.congr (errorPolicy_of_deleting hd config).2
  · exact (failed_recordFailure_of_ne hp h).congr (errorPolicy_of_not_deleting hd config).2

end Reconcile
end GitDrift
