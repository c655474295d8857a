import GitDrift.Proofs.Failures

/-!
When a Pattern that failed is tried again, while many Patterns are reconciled side by side. Its own
failures since it was last put into effect decide on the delay, and nothing else does.
-/
namespace GitDrift.Reconcile

open Cluster Retry

variable {p : Pattern} {key : PatternKey} {r r' : Reconciler} {n : ℕ}

/-- Reconciliations that are under way, of each Pattern at most one. -/
structure Workload where
  reconciler : Reconciler
  active : PatternKey → Option (Pattern × Activity Reconciler (Except ReconcileError Action))

/-- What the failures of a Pattern depend on. -/
inductive Turn where
  | ended (p : Pattern) (x : Except ReconcileError Action)
  | reset (key : PatternKey)

namespace Turn

def subject : Turn → PatternKey
  | ended p _ => watchKey p
  | reset l => l

/-- The Pattern was put into effect, or its failures were forgotten otherwise. -/
def resets (key : PatternKey) : Turn → Bool
  | ended p x => Applied p x ∧ watchKey p = key
  | reset l => l = key

def fails (key : PatternKey) : Turn → Bool
  | ended p x => x.isOk = false ∧ ¬ Deleting p ∧ watchKey p = key
  | reset _ => false

end Turn

/-- How often a Pattern has failed since it was last put into effect. The latest turn is the
first. -/
def failuresSince (key : PatternKey) (turns : List Turn) : ℕ :=
  (turns.takeWhile (! ·.resets key)).countP (·.fails key)

/-- The failures of a key after a turn. -/
def recounted (key : PatternKey) (n : ℕ) (turn : Turn) : ℕ :=
  if turn.resets key then 0 else n + if turn.fails key then 1 else 0

theorem failuresSince_cons (key : PatternKey) (turn : Turn) (turns : List Turn) :
    failuresSince key (turn :: turns) = recounted key (failuresSince key turns) turn := by
  cases hr : turn.resets key <;> simp [failuresSince, recounted, hr, List.countP_cons]

theorem recounted_of_ne {turn : Turn} (h : turn.subject ≠ key) (n : ℕ) :
    recounted key n turn = n := by
  cases turn with
  | ended p x => simp [recounted, Turn.resets, Turn.fails, show watchKey p ≠ key from h]
  | reset l => simp [recounted, Turn.resets, Turn.fails, show l ≠ key from h]

/-- The turns of other keys do not matter. -/
theorem failuresSince_filter (key : PatternKey) (turns : List Turn) :
    failuresSince key (turns.filter (·.subject = key)) = failuresSince key turns := by
  induction turns with
  | nil => rfl
  | cons turn turns ih =>
    by_cases h : turn.subject = key
    · rw [List.filter_cons_of_pos (by simpa using h), failuresSince_cons, failuresSince_cons, ih]
    · rw [List.filter_cons_of_neg (by simpa using h), failuresSince_cons, recounted_of_ne h, ih]

/-- After a reconciliation that failed, it is decided when the Pattern is tried again. -/
def concluded (p : Pattern) (config : Option ControllerConfig) (r : Reconciler) :
    Except ReconcileError Action → Reconciler
  | .ok _ => r
  | .error _ => (errorPolicy p config r).2

/-- What reconciliations, one deed at a time and in any order, have come to. -/
inductive History : Workload → List Turn → Prop
  | new {r : Reconciler} (h : r.failures = some {}) : History ⟨r, fun _ => none⟩ []
  | begin {w : Workload} {turns : List Turn} (h : History w turns) {p : Pattern}
      (hidle : w.active (watchKey p) = none) :
      History { w with active := Function.update w.active (watchKey p) (some (p, reconcile p)) }
        turns
  | take {w : Workload} {turns : List Turn} (h : History w turns) {l : PatternKey} {p : Pattern}
      {m m' : Activity Reconciler (Except ReconcileError Action)} {d : Deed Reconciler}
      {r : Reconciler} (hm : w.active l = some (p, m)) (ht : m.Takes w.reconciler d m' r) :
      History ⟨r, Function.update w.active l (some (p, m'))⟩ turns
  | ended {w : Workload} {turns : List Turn} (h : History w turns) {l : PatternKey} {p : Pattern}
      {x : Except ReconcileError Action} (hm : w.active l = some (p, .done x))
      (config : Option ControllerConfig) :
      History ⟨concluded p config w.reconciler x, Function.update w.active l none⟩
        (.ended p x :: turns)
  /-- A failure is passed over, as those are that come up while the operator starts. -/
  | ignored {w : Workload} {turns : List Turn} (h : History w turns) {l : PatternKey} {p : Pattern}
      {e : ReconcileError} (hm : w.active l = some (p, .done (.error e))) :
      History { w with active := Function.update w.active l none } turns
  | crash {w : Workload} {turns : List Turn} (h : History w turns) {l : PatternKey} {p : Pattern}
      (hm : w.active l = some (p, .crash)) :
      History { w with active := Function.update w.active l none } turns
  | reset {w : Workload} {turns : List Turn} (h : History w turns) {l : PatternKey}
      (hidle : w.active l = none) :
      History { w with reconciler := (w.reconciler.resetFailures l.text).2 } (.reset l :: turns)
  /-- Something else changes. -/
  | others {w : Workload} {turns : List Turn} (h : History w turns) {r : Reconciler}
      (hr : r.failures = w.reconciler.failures) : History { w with reconciler := r } turns

/-- Others leave what is known of a key's failures. -/
def Aside (key : PatternKey) (r r' : Reconciler) : Prop := ∀ n, Failed r key n → Failed r' key n

theorem aside_of_failures (h : r'.failures = r.failures) : Aside key r r' := fun _ hn => hn.congr h

/-- A reconciliation that breaks off has not forgotten anything. -/
def Remembers (key : PatternKey) (n : ℕ) : Deed Reconciler → Prop
  | .crashes r => Failed r key n
  | _ => True

def Spares (key : PatternKey) : Deed Reconciler → Prop
  | .acts r r' => Aside key r r'
  | _ => True

/-- A reconciliation of a key that has failed so many times. -/
def Own (key : PatternKey) (n : ℕ) (p : Pattern) (r : Reconciler)
    (m : Activity Reconciler (Except ReconcileError Action)) : Prop :=
  ∃ known, Stable (Aside key) known ∧ known r ∧ Keeps (Aside key) (Remembers key n)
    (fun x => settled (Failed · key n) (Failed · key 0) (Applied p x)) known m

/-- A reconciliation that leaves a key's failures, whatever others do. -/
def Apart (key : PatternKey) (r : Reconciler)
    (m : Activity Reconciler (Except ReconcileError Action)) : Prop :=
  ∃ known result, Stable (fun _ _ => True) known ∧ known r ∧
    Keeps (fun _ _ => True) (Spares key) result known m

theorem own_reconcile (h : Failed r (watchKey p) n) : Own (watchKey p) n p r (reconcile p) := by
  have hb : Bears (Aside (watchKey p)) (Remembers (watchKey p) n) (watchKey p)
      (Failed · (watchKey p) n) (Failed · (watchKey p) 0) :=
    { before := fun _ _ hs => hs n
      after := fun _ _ hs => hs 0
      asks := fun _ _ => trivial
      crashes := fun _ hr => hr
      quiet := fun _ _ he => ⟨trivial, fun h => h.congr he, fun h => h.congr he⟩
      forgets := fun _ _ he h => ⟨trivial, (failed_resetFailures h).2.congr he⟩ }
  exact ⟨_, hb.before, h, hb.reconcile⟩

theorem apart_reconcile (hp : (watchKey p).text ≠ key.text) : Apart key r (reconcile p) := by
  have hb : Bears (fun _ _ => True) (Spares key) (watchKey p) (fun _ => True) fun _ => True :=
    { before := fun _ _ _ h => h
      after := fun _ _ _ h => h
      asks := fun _ _ => trivial
      crashes := fun _ _ => trivial
      quiet := fun _ _ he => ⟨aside_of_failures he, id, id⟩
      forgets := fun _ _ he _ =>
        ⟨fun _ hn => (failed_resetFailures_of_ne hp hn).congr he, trivial⟩ }
  exact ⟨_, _, hb.before, trivial, hb.reconcile⟩

/-- What is known of a key while it and others are reconciled. -/
structure Counted (key : PatternKey) (n : ℕ) (w : Workload) : Prop where
  same : ∀ l p m, w.active l = some (p, m) → watchKey p = l
  idle : w.active key = none → Failed w.reconciler key n
  own : ∀ p m, w.active key = some (p, m) → Own key n p w.reconciler m
  rest : ∀ l p m, l ≠ key → w.active l = some (p, m) → Apart key w.reconciler m

section History

variable {w : Workload} {turns : List Turn} {d : Deed Reconciler}
  {m m' : Activity Reconciler (Except ReconcileError Action)}

theorem Own.aside (h : Own key n p r m) (hr : Aside key r r') : Own key n p r' m := by
  obtain ⟨known, hs, hk, hm⟩ := h
  exact ⟨known, hs, hs r r' hr hk, hm⟩

theorem Own.takes (h : Own key n p r m) (ht : m.Takes r d m' r') : Own key n p r' m' := by
  obtain ⟨known, hs, hk, hm⟩ := h
  exact (hm.takes hs hk ht).2

theorem Own.done {x : Except ReconcileError Action} (h : Own key n p r (.done x)) :
    settled (Failed · key n) (Failed · key 0) (Applied p x) r := by
  obtain ⟨known, _, hk, hm⟩ := h
  cases hm with
  | done h => exact h r hk

theorem Own.failed {e : ReconcileError} (h : Own key n p r (.done (.error e))) :
    Failed r key n := by
  simpa [settled, Applied, Except.isOk, Except.toBool] using h.done

theorem Own.crash (h : Own key n p r .crash) : Failed r key n := by
  obtain ⟨known, _, hk, hm⟩ := h
  cases hm with
  | crash h => exact h r hk

theorem Apart.others (h : Apart key r m) (r' : Reconciler) : Apart key r' m := by
  obtain ⟨known, result, hs, hk, hm⟩ := h
  exact ⟨known, result, hs, hs r r' trivial hk, hm⟩

theorem Apart.takes (h : Apart key r m) (ht : m.Takes r d m' r') :
    Aside key r r' ∧ Apart key r' m' := by
  obtain ⟨known, result, hs, hk, hm⟩ := h
  obtain ⟨hd, known', hs', hk', hm'⟩ := hm.takes hs hk ht
  refine ⟨?_, known', result, hs', hk', hm'⟩
  cases ht with
  | act => exact hd
  | ask => exact fun _ hn => hn

namespace Counted

theorem aside (h : Counted key n w) (hr : Aside key w.reconciler r) :
    Counted key n { w with reconciler := r } where
  same := h.same
  idle hi := hr n (h.idle hi)
  own p m hm := (h.own p m hm).aside hr
  rest l p m hl hm := (h.rest l p m hl hm).others r

/-- Another key's reconciliation goes on or is over. -/
theorem elsewhere (h : Counted key n w) (hl : l ≠ key)
    {slot : Option (Pattern × Activity Reconciler (Except ReconcileError Action))}
    (hslot : ∀ p m, slot = some (p, m) → watchKey p = l ∧ Apart key w.reconciler m) :
    Counted key n { w with active := Function.update w.active l slot } where
  same k p m hm := by
    rcases eq_or_ne k l with rfl | hk
    · exact (hslot p m (by simpa using hm)).1
    · exact h.same k p m (by simpa [hk] using hm)
  idle hi := h.idle (by simpa [hl.symm] using hi)
  own p m hm := h.own p m (by simpa [hl.symm] using hm)
  rest k p m hk hm := by
    rcases eq_or_ne k l with rfl | hkl
    · exact (hslot p m (by simpa using hm)).2
    · exact h.rest k p m hk (by simpa [hkl] using hm)

/-- The key's own reconciliation goes on or is over. -/
theorem here (h : Counted key n w) {k : ℕ}
    {slot : Option (Pattern × Activity Reconciler (Except ReconcileError Action))}
    (hidle : slot = none → Failed r key k)
    (hslot : ∀ p m, slot = some (p, m) → watchKey p = key ∧ Own key k p r m) :
    Counted key k ⟨r, Function.update w.active key slot⟩ where
  same l p m hm := by
    rcases eq_or_ne l key with rfl | hl
    · exact (hslot p m (by simpa using hm)).1
    · exact h.same l p m (by simpa [hl] using hm)
  idle hi := hidle (by simpa using hi)
  own p m hm := (hslot p m (by simpa using hm)).2
  rest l p m hl hm := (h.rest l p m hl (by simpa [hl] using hm)).others r

end Counted

/-- A reconciliation that is over is counted as what it was. -/
theorem failed_concluded {x : Except ReconcileError Action} (hp : watchKey p = key)
    (h : settled (Failed · key n) (Failed · key 0) (Applied p x) r)
    (config : Option ControllerConfig) :
    Failed (concluded p config r x) key (recounted key n (.ended p x)) := by
  subst hp
  cases x with
  | ok action =>
    have hcount : recounted (watchKey p) n (.ended p (.ok action)) =
        if Applied p (.ok action) then 0 else n := by
      simp [recounted, Turn.resets, Turn.fails, Except.isOk, Except.toBool]
    rw [hcount]
    by_cases ha : Applied p (.ok action) <;> simpa [ha, settled, concluded] using h
  | error e =>
    have hn : Failed r (watchKey p) n := by
      simpa [settled, Applied, Except.isOk, Except.toBool] using h
    have hcount : recounted (watchKey p) n (.ended p (.error e)) =
        if Deleting p then n else n + 1 := by
      by_cases hd : Deleting p <;>
        simp [recounted, Turn.resets, Turn.fails, Applied, hd, Except.isOk, Except.toBool]
    rw [hcount]
    split_ifs with hd
    · exact hn.congr (errorPolicy_of_deleting hd config).2
    · exact (failed_errorPolicy hd hn config).2

theorem aside_concluded (hp : (watchKey p).text ≠ key.text) (config : Option ControllerConfig)
    (x : Except ReconcileError Action) : Aside key r (concluded p config r x) := by
  cases x with
  | ok => exact fun _ hn => hn
  | error e => exact fun _ hn => failed_errorPolicy_of_ne hp hn config

namespace Counted

variable {l : PatternKey}

theorem begin (h : Counted key n w) (hk : key.Plain) (hidle : w.active (watchKey p) = none) :
    Counted key n
      { w with active := Function.update w.active (watchKey p) (some (p, reconcile p)) } := by
  by_cases hp : watchKey p = key
  · subst hp
    refine h.here (by simp) fun q m hm => ?_
    obtain ⟨rfl, rfl⟩ : p = q ∧ reconcile p = m := by simpa using hm
    exact ⟨rfl, own_reconcile (h.idle hidle)⟩
  · refine h.elsewhere hp fun q m hm => ?_
    obtain ⟨rfl, rfl⟩ : p = q ∧ reconcile p = m := by simpa using hm
    exact ⟨rfl, apart_reconcile (hk.text_ne hp)⟩

theorem take (h : Counted key n w) (hm : w.active l = some (p, m))
    (ht : m.Takes w.reconciler d m' r) :
    Counted key n ⟨r, Function.update w.active l (some (p, m'))⟩ := by
  have hp := h.same l p m hm
  by_cases hl : l = key
  · subst hl
    refine h.here (by simp) fun q k hq => ?_
    obtain ⟨rfl, rfl⟩ : p = q ∧ m' = k := by simpa using hq
    exact ⟨hp, (h.own p m hm).takes ht⟩
  · obtain ⟨hr, hm'⟩ := (h.rest l p m hl hm).takes ht
    refine (h.aside hr).elsewhere hl fun q k hq => ?_
    obtain ⟨rfl, rfl⟩ : p = q ∧ m' = k := by simpa using hq
    exact ⟨hp, hm'⟩

theorem ended {x : Except ReconcileError Action} (h : Counted key n w) (hk : key.Plain)
    (hm : w.active l = some (p, .done x)) (config : Option ControllerConfig) :
    Counted key (recounted key n (.ended p x))
      ⟨concluded p config w.reconciler x, Function.update w.active l none⟩ := by
  have hp := h.same l p _ hm
  by_cases hl : l = key
  · subst hl
    exact h.here (fun _ => failed_concluded hp (h.own p _ hm).done config) (by simp)
  · have hother : (Turn.ended p x).subject ≠ key := by rwa [Turn.subject, hp]
    rw [recounted_of_ne hother]
    exact (h.aside (aside_concluded (hk.text_ne hother) config x)).elsewhere hl (by simp)

/-- A reconciliation is over of which nothing is to be counted. -/
theorem dropped (h : Counted key n w) (hm : w.active l = some (p, m))
    (hf : Own key n p w.reconciler m → Failed w.reconciler key n) :
    Counted key n { w with active := Function.update w.active l none } := by
  by_cases hl : l = key
  · subst hl
    exact h.here (fun _ => hf (h.own p m hm)) (by simp)
  · exact h.elsewhere hl (by simp)

theorem reset (h : Counted key n w) (hk : key.Plain) (hidle : w.active l = none) :
    Counted key (recounted key n (.reset l))
      { w with reconciler := (w.reconciler.resetFailures l.text).2 } := by
  by_cases hl : l = key
  · subst hl
    have hzero : recounted l n (.reset l) = 0 := by simp [recounted, Turn.resets]
    rw [hzero]
    exact ⟨h.same, fun _ => (failed_resetFailures (h.idle hidle)).2,
      fun p m hm => by simp [hidle] at hm, fun k p m hk hm => (h.rest k p m hk hm).others _⟩
  · rw [recounted_of_ne (show (Turn.reset l).subject ≠ key from hl)]
    exact h.aside fun _ hn => failed_resetFailures_of_ne (hk.text_ne hl) hn

end Counted

theorem counted_of_history (hk : key.Plain) (h : History w turns) :
    Counted key (failuresSince key turns) w := by
  induction h with
  | new h => exact ⟨by simp, fun _ => ⟨_, h, rfl⟩, by simp, by simp⟩
  | begin _ hidle ih => exact ih.begin hk hidle
  | take _ hm ht ih => exact ih.take hm ht
  | ended _ hm config ih => exact failuresSince_cons .. ▸ ih.ended hk hm config
  | ignored _ hm ih => exact ih.dropped hm Own.failed
  | crash _ hm ih => exact ih.dropped hm Own.crash
  | reset _ hidle ih => exact failuresSince_cons .. ▸ ih.reset hk hidle
  | others _ hr ih => exact ih.aside (aside_of_failures hr)

end History

/-- After each failure a Pattern is tried again, after a delay that only its own failures since it
was last put into effect decide on, unless it is being deleted. -/
theorem backoff_follows_history {w : Workload} {turns : List Turn} (h : History w turns)
    (hk : key.Plain) :
    (∀ p e config, w.active key = some (p, .done (.error e)) → ¬ Deleting p →
      (errorPolicy p config w.reconciler).1 =
        .requeue (60 * min 10 (Nat.fib (failuresSince key turns + 1)))) ∧
    failuresSince key turns = failuresSince key (turns.filter (·.subject = key)) ∧
    (∀ p config, Deleting p →
      (errorPolicy p config w.reconciler).1 = .requeue (config.getD {}).deletionRequeue ∧
        (errorPolicy p config w.reconciler).2.failures = w.reconciler.failures) ∧
    (w.active key = none →
      ((w.reconciler.resetFailures key.text).1 = true ↔ 0 < failuresSince key turns)) := by
  have hc := counted_of_history hk h
  refine ⟨fun p e config hm hd => ?_, (failuresSince_filter key turns).symm,
    fun p config hd => errorPolicy_of_deleting hd config,
    fun hidle => (failed_resetFailures (hc.idle hidle)).1⟩
  obtain rfl : watchKey p = key := hc.same key p _ hm
  exact (failed_errorPolicy hd (hc.own p _ hm).failed config).1

variable {τ : Type} {answer : Request → τ → Answer × τ} {t t' : τ} {turns : List Turn}

/-- What is left of a reconciliation is done without a pause. -/
theorem History.run {active : PatternKey → Option (Pattern × Activity Reconciler _)}
    {m : Activity Reconciler (Except ReconcileError Action)}
    {x : Except ReconcileError Action} (h : History ⟨r, active⟩ turns)
    (hm : active key = some (p, m)) (hx : m.run answer r t = (some x, r', t')) :
    History ⟨r', Function.update active key (some (p, .done x))⟩ turns := by
  induction m generalizing r active t with
  | done a =>
    cases hx
    rwa [← hm, Function.update_eq_self]
  | crash => cases hx
  | act update next ih =>
    simpa using ih r (h.take hm (.act update next r)) (Function.update_self ..) hx
  | ask request next ih =>
    simpa using ih _ (h.take hm (.ask request next r _)) (Function.update_self ..) hx

/-- A reconciliation that nobody disturbs has failed. -/
theorem History.failed {e : ReconcileError} (h : History ⟨r, fun _ => none⟩ turns)
    (hx : (reconcile p).run answer r t = (some (.error e), r', t')) :
    History ⟨r', Function.update (fun _ => none) (watchKey p) (some (p, .done (.error e)))⟩
      turns := by
  have hbegin := h.begin (p := p) rfl
  simpa using hbegin.run (Function.update_self ..) hx

/-- It was decided when it is tried again. -/
theorem History.retried {e : ReconcileError} (h : History ⟨r, fun _ => none⟩ turns)
    (hx : (reconcile p).run answer r t = (some (.error e), r', t')) :
    History ⟨(errorPolicy p none r').2, fun _ => none⟩ (.ended p (.error e) :: turns) := by
  have hended := (h.failed hx).ended (l := watchKey p) (p := p) (x := .error e) (by simp) none
  simpa [concluded] using hended

/-- Another Pattern without a target. -/
def hubPattern : Pattern :=
  { heldPattern "" with metadata := { (heldPattern "").metadata with name := some "hub" } }

def emptyTarget : ReconcileError :=
  .finalizer (.applyFailed (.invalidRepository (.unsupportedScheme "")))

theorem run_heldPattern (r : Reconciler) :
    ∃ r', (reconcile (heldPattern "")).run unreachable r () = (some (.error emptyTarget), r', ()) :=
  ⟨_, rfl⟩

theorem run_hubPattern (r : Reconciler) :
    ∃ r', (reconcile hubPattern).run unreachable r () = (some (.error emptyTarget), r', ()) :=
  ⟨_, rfl⟩

/-- Another Pattern fails between two failures of this one, whose third failure is still its
third. -/
theorem heldPattern_backoff :
    ∃ w turns, History w turns ∧ (watchKey (heldPattern "")).Plain ∧
      failuresSince (watchKey (heldPattern "")) turns = 2 ∧
      (errorPolicy (heldPattern "") none w.reconciler).1 = .requeue 120 := by
  have hplain : (watchKey (heldPattern "")).Plain := by
    unfold PatternKey.Plain
    decide
  have h : History ⟨{ now := 0 }, fun _ => none⟩ [] := .new rfl
  obtain ⟨r₁, h₁⟩ := run_heldPattern { now := 0 }
  obtain ⟨r₂, h₂⟩ := run_hubPattern (errorPolicy (heldPattern "") none r₁).2
  obtain ⟨r₃, h₃⟩ := run_heldPattern (errorPolicy hubPattern none r₂).2
  obtain ⟨r₄, h₄⟩ := run_heldPattern (errorPolicy (heldPattern "") none r₃).2
  have hrun := (((h.retried h₁).retried h₂).retried h₃).failed h₄
  refine ⟨_, _, hrun, hplain, by decide, ?_⟩
  exact (backoff_follows_history hrun hplain).1 (heldPattern "") emptyTarget none (by simp)
    (by decide)

end GitDrift.Reconcile
