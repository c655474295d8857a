import GitDrift.Proofs.ApiServer
import GitDrift.Proofs.SingleReport
import GitDrift.Proofs.SyncCondition
import GitDrift.Reconcile.Reconciler

/-!
Two writers of one status: drift checks report results among the conditions, and reconciliations
record their steps. Their requests reach the server in any order, and neither undoes what the other
wrote.
-/
namespace GitDrift

open Json Json.Fields Cluster Drift Reconcile

variable {σ : Type} {key : PatternKey} {stored stored' : Fields} {s s₀ : PatternStatus}
  {reports : List Report} {i : ℕ}

/-- A step with the error that it met. -/
abbrev StepRecord := String × Option String

variable {steps : List StepRecord} {request : Request} {answer : Answer}

/-- Reports results one after another, up to a report that fails. -/
def reportAll (key : PatternKey) : List Report → Activity σ (Except StoreError Unit)
  | [] => return .ok ()
  | (drifted, now) :: reports => do
    match ← ClusterStore.report key drifted now with
    | .ok () => reportAll key reports
    | .error e => return .error e

/-- Records steps one after another, up to one that cannot be recorded. -/
def recordAll (key : PatternKey) : List StepRecord → Activity Reconciler (Except Failure Unit)
  | [] => return .ok ()
  | (step, error) :: steps => do
    match ← recordStep key step error with
    | .ok () => recordAll key steps
    | .error f => return .error f

/-- Replaces the conditions, after which reports go on. -/
def writeThen (key : PatternKey) (conditions : List Condition) (reports : List Report) :
    Activity σ (Except StoreError Unit) := do
  match ← ClusterStore.writeConditions key conditions with
  | .ok () => reportAll key reports
  | .error e => return .error e

/-- A server that does what it is asked for: a Pattern is answered as it is stored, and a patch is
merged into the status. Other parts of the Pattern may change with it. -/
inductive Serves (key : PatternKey) (stored : Fields) : Request → Answer → Fields → Prop
  | get {target : Target} {answer : Answer} {p : Pattern}
      (ht : Patterns.target? key "" .get = some target)
      (hp : Pattern.decode (.obj stored) = .ok p) (ha : answer.read Pattern.decode = .ok p) :
      Serves key stored ⟨.get, target, none⟩ answer stored
  | patch {target : Target} {patch : Json} {stored' : Fields} {answer : Answer} {p : Pattern}
      (ht : Patterns.target? key "/status" .patch = some target)
      (hm : get? stored' "status" = field? "status" ((Json.obj stored).merge patch))
      (ha : answer.read Pattern.decode = .ok p) :
      Serves key stored ⟨.patch, target, some (.merge, patch)⟩ answer stored'

/-- An activity begins with a request for a Pattern and goes on when it is read, or fails at
once. -/
def Begins {ε : Type} (ask : Target → Request) (go : Pattern → Activity σ (Except ε Unit))
    (m : Activity σ (Except ε Unit)) : Prop :=
  (∃ e, m = .done (.error e)) ∨
    ∃ target next, m = .ask (ask target) next ∧
      ∀ answer p, answer.read Pattern.decode = .ok p → next answer = go p

namespace Begins

variable {ε : Type} {ask : Target → Request} {go : Pattern → Activity σ (Except ε Unit)}
  {m : Activity σ (Except ε Unit)}

theorem ne_done (h : Begins ask go m) : m ≠ .done (.ok ()) := by
  rcases h with ⟨e, rfl⟩ | ⟨target, next, rfl, _⟩ <;> simp

theorem of_ask {next : Answer → Activity σ (Except ε Unit)} (h : Begins ask go m)
    (hm : m = .ask request next) : (∃ target, request = ask target) ∧
      ∀ answer p, answer.read Pattern.decode = .ok p → next answer = go p := by
  rcases h with ⟨e, rfl⟩ | ⟨target, next', rfl, hgo⟩
  · cases hm
  · obtain ⟨rfl, rfl⟩ := Activity.ask.inj hm
    exact ⟨⟨target, rfl⟩, hgo⟩

end Begins

theorem begins_reportAll (key : PatternKey) (d : Bool) (now : Moment) (reports : List Report) :
    Begins (fun target => ⟨.get, target, none⟩)
      (fun p =>
        let old := (p.status.map (·.conditions)).getD []
        if (setSyncCondition old d now).2 then writeThen key (setSyncCondition old d now).1 reports
        else reportAll key reports)
      (reportAll (σ := σ) key ((d, now) :: reports)) := by
  simp only [reportAll, ClusterStore.report, ClusterStore.conditions, ClusterStore.fetch,
    Patterns.get?, Patterns.ask]
  split
  · exact .inl ⟨_, rfl⟩
  · refine .inr ⟨_, _, rfl, fun answer p hp => ?_⟩
    simp only [Activity.bind, hp, Except.map, pure]
    split <;> rfl

theorem begins_writeThen (key : PatternKey) (conditions : List Condition)
    (reports : List Report) :
    Begins
      (fun target => ⟨.patch, target, some (.merge, ClusterStore.conditionsPatch conditions)⟩)
      (fun _ => reportAll key reports) (writeThen (σ := σ) key conditions reports) := by
  simp only [writeThen, ClusterStore.writeConditions, Patterns.patchStatus, Patterns.ask]
  split
  · exact .inl ⟨_, rfl⟩
  · refine .inr ⟨_, _, rfl, fun answer p hp => ?_⟩
    simp only [Activity.bind, hp, pure]

theorem begins_recordAll (key : PatternKey) (step : String) (error : Option String)
    (steps : List StepRecord) :
    Begins (fun target => ⟨.patch, target, some (.merge, stepPatch step error)⟩)
      (fun _ => recordAll key steps) (recordAll key ((step, error) :: steps)) := by
  simp only [recordAll, recordStep, Patterns.patchStatus, Patterns.ask]
  split
  · exact .inl ⟨_, rfl⟩
  · refine .inr ⟨_, _, rfl, fun answer p hp => ?_⟩
    simp only [Activity.bind, hp, pure]

/-- Without a failure a stream is over only at its end. -/
theorem reportAll_done (h : reportAll (σ := σ) key reports = .done (.ok ())) : reports = [] := by
  cases reports with
  | nil => rfl
  | cons r reports => exact absurd h (begins_reportAll key r.1 r.2 reports).ne_done

theorem recordAll_done (h : recordAll key steps = .done (.ok ())) : steps = [] := by
  cases steps with
  | nil => rfl
  | cons x steps => exact absurd h (begins_recordAll key x.1 x.2 steps).ne_done

/-- What is left of a stream of reports of which `i` are in the conditions. -/
inductive Reporting (key : PatternKey) (initial : List Condition) (reports : List Report) :
    ℕ → Activity σ (Except StoreError Unit) → Prop
  | between (i : ℕ) : Reporting key initial reports i (reportAll key (reports.drop i))
  /-- A report has been made of the conditions that were read, and is to be written. -/
  | writing {i : ℕ} (h : i < reports.length) :
      Reporting key initial reports i
        (writeThen key (reported initial (reports.take (i + 1))) (reports.drop (i + 1)))

theorem Reporting.done {initial : List Condition} {m : Activity σ (Except StoreError Unit)}
    (h : Reporting key initial reports i m) (hm : m = .done (.ok ())) :
    reports.take i = reports := by
  cases h with
  | between => exact List.take_of_length_le (List.drop_eq_nil_iff.mp (reportAll_done hm))
  | writing => exact absurd hm (begins_writeThen ..).ne_done

/-- What is taken of a list and what is left, when the next one is taken as well. -/
theorem take_of_drop_eq_cons {α : Type} {l rest : List α} {x : α} (h : l.drop i = x :: rest) :
    i < l.length ∧ l.take (i + 1) = l.take i ++ [x] ∧ l.drop (i + 1) = rest := by
  have hi : i < l.length := by
    by_contra hle
    rw [List.drop_eq_nil_of_le (not_lt.mp hle)] at h
    cases h
  rw [List.drop_eq_getElem_cons hi] at h
  obtain ⟨rfl, rfl⟩ := List.cons.inj h
  exact ⟨hi, List.take_succ_eq_append_getElem hi, rfl⟩

/-- A request of a stream of reports takes it on by one report at most. -/
theorem Reporting.serves {initial : List Condition} {m : Activity σ (Except StoreError Unit)}
    {next : Answer → Activity σ (Except StoreError Unit)}
    (h : Reporting key initial reports i m) (hm : m = .ask request next)
    (hs : Serves key stored request answer stored') (hstatus : HasStatus stored s)
    (hc : s.conditions = reported initial (reports.take i)) :
    ∃ i', Reporting key initial reports i' (next answer) ∧
      HasStatus stored' { s with conditions := reported initial (reports.take i') } ∧
      written stored' "lastError" = written stored "lastError" := by
  cases h with
  | between =>
    cases hdrop : reports.drop i with
    | nil =>
      rw [hdrop] at hm
      cases hm
    | cons r rest =>
      rw [hdrop] at hm
      obtain ⟨⟨target, rfl⟩, hnext⟩ := (begins_reportAll key r.1 r.2 rest).of_ask hm
      obtain ⟨hi, htake, rfl⟩ := take_of_drop_eq_cons hdrop
      cases hs with
      | @get _ _ p ht hp ha =>
        have hold : (p.status.map (·.conditions)).getD [] = reported initial (reports.take i) := by
          rw [← hc, ← hstatus.decode hp]
          cases p.status <;> rfl
        have hnew : reported initial (reports.take (i + 1)) =
            (setSyncCondition (reported initial (reports.take i)) r.1 r.2).1 := by
          rw [htake, reported_append_singleton]
        rw [hnext _ p ha, hold]
        dsimp only
        split_ifs with hchanged
        · rw [← hnew]
          exact ⟨i, .writing hi, by rwa [← hc], rfl⟩
        · have hsame := not_not.mp (mt setSyncCondition_changed_iff.mpr hchanged)
          refine ⟨i + 1, .between _, ?_, rfl⟩
          rwa [hnew, hsame, ← hc]
  | writing hi =>
    obtain ⟨⟨target, rfl⟩, hnext⟩ := (begins_writeThen ..).of_ask hm
    cases hs with
    | patch ht hmerge ha =>
      rw [hnext _ _ ha]
      exact ⟨_, .between _, hstatus.conditions hmerge⟩

/-- The writers of the status of a stored Pattern. -/
structure Writers (σ : Type) where
  reporter : Activity σ (Except StoreError Unit)
  recorder : Activity Reconciler (Except Failure Unit)
  stored : Fields

inductive Writer where
  | reporter
  | recorder
deriving DecidableEq

/-- Requests of the writers reach a server one after another. What was read may be out of date when
it is used. -/
inductive Writes (key : PatternKey) (start : Writers σ) : List Writer → Writers σ → Prop
  | start : Writes key start [] start
  | report {moves : List Writer} {w : Writers σ} (h : Writes key start moves w) {request : Request}
      {next : Answer → Activity σ (Except StoreError Unit)} {answer : Answer} {stored : Fields}
      (hm : w.reporter = .ask request next) (hs : Serves key w.stored request answer stored) :
      Writes key start (moves ++ [.reporter]) { w with reporter := next answer, stored }
  | record {moves : List Writer} {w : Writers σ} (h : Writes key start moves w) {request : Request}
      {next : Answer → Activity Reconciler (Except Failure Unit)} {answer : Answer}
      {stored : Fields} (hm : w.recorder = .ask request next)
      (hs : Serves key w.stored request answer stored) :
      Writes key start (moves ++ [.recorder]) { w with recorder := next answer, stored }
  /-- The Pattern changes, but for its status. -/
  | others {moves : List Writer} {w : Writers σ} (h : Writes key start moves w) {stored : Fields}
      (hs : get? stored "status" = get? w.stored "status") :
      Writes key start moves { w with stored }

/-- The status after steps, one after another. -/
def stepped (s : PatternStatus) (steps : List StepRecord) : PatternStatus :=
  steps.foldl (fun s x => { s with lastStep := some x.1, lastError := x.2 }) s

/-- The status after reports and steps. -/
def outcome (s : PatternStatus) (reports : List Report) (steps : List StepRecord) :
    PatternStatus :=
  { stepped s steps with conditions := reported s.conditions reports }

/-- What the writers have come to when so many steps have been recorded. -/
structure Undisturbed (key : PatternKey) (s₀ : PatternStatus) (reports : List Report)
    (steps : List StepRecord) (j : ℕ) (w : Writers σ) : Prop where
  recorder : w.recorder = recordAll key (steps.drop j)
  status : ∃ i, Reporting key s₀.conditions reports i w.reporter ∧
    HasStatus w.stored (outcome s₀ (reports.take i) (steps.take j))
  error : ∀ x, (steps.take j).getLast? = some x → written w.stored "lastError" = x.2.map .str

section Writes

variable {w start : Writers σ} {moves : List Writer} {j : ℕ}

theorem Undisturbed.report {next : Answer → Activity σ (Except StoreError Unit)}
    (h : Undisturbed key s₀ reports steps j w) (hm : w.reporter = .ask request next)
    (hs : Serves key w.stored request answer stored) :
    Undisturbed key s₀ reports steps j { w with reporter := next answer, stored } := by
  obtain ⟨i, hi, hstatus⟩ := h.status
  obtain ⟨i', hi', hstatus', herror⟩ := hi.serves hm hs hstatus rfl
  exact ⟨h.recorder, ⟨i', hi', hstatus'⟩, fun x hx => herror.trans (h.error x hx)⟩

theorem Undisturbed.record {next : Answer → Activity Reconciler (Except Failure Unit)}
    (h : Undisturbed key s₀ reports steps j w) (hm : w.recorder = .ask request next)
    (hs : Serves key w.stored request answer stored) :
    Undisturbed key s₀ reports steps (j + 1) { w with recorder := next answer, stored } := by
  rw [h.recorder] at hm
  obtain ⟨i, hi, hstatus⟩ := h.status
  cases hdrop : steps.drop j with
  | nil =>
    rw [hdrop] at hm
    cases hm
  | cons x rest =>
    rw [hdrop] at hm
    obtain ⟨⟨target, rfl⟩, hnext⟩ := (begins_recordAll key x.1 x.2 rest).of_ask hm
    obtain ⟨_, htake, rfl⟩ := take_of_drop_eq_cons hdrop
    cases hs with
    | patch ht hmerge ha =>
      obtain ⟨hstatus', herror⟩ := hstatus.step hmerge
      refine ⟨hnext _ _ ha, ⟨i, hi, ?_⟩, fun y hy => ?_⟩
      · rw [htake, outcome, stepped, List.foldl_append]
        exact hstatus'
      · obtain rfl : x = y := by simpa [htake] using hy
        exact herror

theorem undisturbed_of_writes {stored₀ : Fields}
    (h : Writes key ⟨reportAll key reports, recordAll key steps, stored₀⟩ moves w)
    (h₀ : HasStatus stored₀ s₀) : Undisturbed key s₀ reports steps (moves.count .recorder) w := by
  induction h with
  | start => exact ⟨rfl, ⟨0, .between 0, h₀⟩, by simp⟩
  | report _ hm hs ih => simpa using ih.report hm hs
  | record _ hm hs ih => simpa using ih.record hm hs
  | others _ hs ih =>
    obtain ⟨i, hi, hstatus⟩ := ih.status
    refine ⟨ih.recorder, ⟨i, hi, ?_⟩, fun x hx => ?_⟩
    · rwa [HasStatus, hs]
    · rw [written, hs]
      exact ih.error x hx

theorem stepped_version (steps : List StepRecord) (s : PatternStatus) :
    (stepped s steps).version = s.version := by
  induction steps generalizing s with
  | nil => rfl
  | cons x steps ih => exact ih _

theorem stepped_getLast {x : StepRecord} (h : steps.getLast? = some x) (s : PatternStatus) :
    (stepped s steps).lastStep = some x.1 ∧ (stepped s steps).lastError = x.2 := by
  obtain ⟨l, rfl⟩ := List.getLast?_eq_some_iff.mp h
  simp [stepped]

/-- When both streams are over, all reports and all steps have been made. -/
theorem Undisturbed.done (h : Undisturbed key s₀ reports steps j w)
    (hr : w.reporter = .done (.ok ())) (hs : w.recorder = .done (.ok ())) :
    HasStatus w.stored (outcome s₀ reports steps) ∧
      ∀ x, steps.getLast? = some x → written w.stored "lastError" = x.2.map .str := by
  obtain ⟨i, hi, hstatus⟩ := h.status
  have htake : steps.take j = steps :=
    List.take_of_length_le (List.drop_eq_nil_iff.mp (recordAll_done (h.recorder.symm.trans hs)))
  have herror := h.error
  rw [hi.done hr, htake] at hstatus
  rw [htake] at herror
  exact ⟨hstatus, herror⟩

end Writes

/-- Whatever the order of their requests, reports and steps do not disturb each other: at any time
the status is what some of the reports and the steps so far have made of it, and when both streams
are over, each part is what its own stream would have made of it alone. -/
theorem status_writers_independent {stored₀ : Fields} {w : Writers σ} {moves : List Writer}
    (h : Writes key ⟨reportAll key reports, recordAll key steps, stored₀⟩ moves w)
    (h₀ : HasStatus stored₀ s₀) :
    (∃ i, HasStatus w.stored
      (outcome s₀ (reports.take i) (steps.take (moves.count .recorder)))) ∧
    (w.reporter = .done (.ok ()) → w.recorder = .done (.ok ()) →
      ∃ s, HasStatus w.stored s ∧ s.version = s₀.version ∧
        s.conditions = reported s₀.conditions reports ∧
        (∀ x, steps.getLast? = some x → s.lastStep = some x.1 ∧ s.lastError = x.2 ∧
          (written w.stored "lastError" = none ↔ x.2 = none)) ∧
        (∀ moves' w' s',
          Writes key ⟨reportAll (σ := σ) key reports, recordAll key [], stored₀⟩ moves' w' →
          w'.reporter = .done (.ok ()) → HasStatus w'.stored s' → s.conditions = s'.conditions) ∧
        ∀ moves' w' s',
          Writes key ⟨reportAll (σ := σ) key [], recordAll key steps, stored₀⟩ moves' w' →
          w'.recorder = .done (.ok ()) → HasStatus w'.stored s' →
          s.lastStep = s'.lastStep ∧ s.lastError = s'.lastError) := by
  have hw := undisturbed_of_writes h h₀
  obtain ⟨i, _, hstatus⟩ := hw.status
  refine ⟨⟨i, hstatus⟩, fun hr hs => ?_⟩
  obtain ⟨hdone, herror⟩ := hw.done hr hs
  refine ⟨_, hdone, stepped_version steps s₀, rfl, fun x hx => ?_, ?_, ?_⟩
  · obtain ⟨hstep, hlast⟩ := stepped_getLast hx s₀
    exact ⟨hstep, hlast, by rw [herror x hx, Option.map_eq_none_iff]⟩
  · intro moves' w' s' h' hr' hs'
    have hw' := undisturbed_of_writes h' h₀
    obtain ⟨i', hi', hstatus'⟩ := hw'.status
    rw [hi'.done hr'] at hstatus'
    rw [hs'.unique hstatus']
    rfl
  · intro moves' w' s' h' hr' hs'
    have hw' := undisturbed_of_writes h' h₀
    obtain ⟨i', hi', hstatus'⟩ := hw'.status
    rw [List.take_of_length_le
      (List.drop_eq_nil_iff.mp (recordAll_done (hw'.recorder.symm.trans hr')))] at hstatus'
    rw [hs'.unique hstatus']
    exact ⟨rfl, rfl⟩

def failedKey : PatternKey := ⟨"mcg", "patterns"⟩

def failedStatus : PatternStatus :=
  { lastStep := some validationStep, lastError := some "invalid address" }

/-- A Pattern whose last step has failed. -/
def failedPattern : Pattern where
  metadata := { name := some failedKey.name, namespace_ := some failedKey.namespace_ }
  spec := {}
  status := some failedStatus

/-- The Pattern as it is stored. -/
def failedFields : Fields :=
  [("metadata", .obj [("name", .str "mcg"), ("namespace", .str "patterns")]), ("spec", .obj []),
    ("status", .obj [("lastError", .str "invalid address"), ("lastStep", .str validationStep)])]

def failedAnswer : Answer := .response 200 (Json.obj failedFields).render

theorem read_failedAnswer : failedAnswer.read Pattern.decode = .ok failedPattern := by
  have hfits : Fits 2 (.obj failedFields) := by
    refine .obj ?_
    simp only [failedFields, List.forall_mem_cons]
    exact ⟨.obj (by simp [Fits.str]), .obj (by simp), .obj (by simp [Fits.str]), by simp⟩
  have hgrants : Grants failedAnswer (.obj failedFields) :=
    ⟨200, _, rfl, rfl, readText_render (hfits.mono (by decide))⟩
  exact hgrants.read Pattern.faithful rfl

theorem hasStatus_failedFields : HasStatus failedFields failedStatus :=
  hasStatus_of_obj rfl (by unfold Ordered; decide) rfl

/-- Where a Pattern is read, and with a suffix where its status is patched. -/
def failedTarget (suffix : String) : Target :=
  ⟨Patterns.pathOf failedKey ++ suffix, ""⟩

/-- What a patch makes of a stored Pattern. -/
def patched (stored : Fields) (patch : Json) : Fields := ((Json.obj stored).merge patch).fields

theorem serves_patch (stored patch : Fields) :
    Serves failedKey stored ⟨.patch, failedTarget "/status", some (.merge, .obj patch)⟩
      failedAnswer (patched stored (.obj patch)) :=
  .patch (by decide) (by rw [patched, merge_obj]; rfl) read_failedAnswer

def lateReport : Report := (true, ⟨0, 0⟩)

/-- The conditions after a report. -/
def lateConditions : List Condition := (setSyncCondition [] true ⟨0, 0⟩).1

/-- A report and a step of a Pattern whose last step has failed. -/
def lateWriters : Writers Unit where
  reporter := reportAll failedKey [lateReport]
  recorder := recordAll failedKey [("step", none)]
  stored := failedFields

/-- The step is recorded between the read and the write of the report, and its error, which was
there when the Pattern was read, stays removed. -/
theorem lateWriters_independent :
    HasStatus failedFields failedStatus ∧
    ∃ moves w, Writes failedKey lateWriters moves w ∧
      w.reporter = .done (.ok ()) ∧ w.recorder = .done (.ok ()) ∧
      moves = [.reporter, .recorder, .reporter] ∧ written w.stored "lastError" = none := by
  refine ⟨hasStatus_failedFields, ?_⟩
  obtain ⟨read, hread⟩ : ∃ next, reportAll (σ := Unit) failedKey [lateReport] =
      .ask ⟨.get, failedTarget "", none⟩ next := ⟨_, rfl⟩
  obtain ⟨record, hrecord⟩ : ∃ next, recordAll failedKey [("step", none)] =
      .ask ⟨.patch, failedTarget "/status", some (.merge, stepPatch "step" none)⟩ next := ⟨_, rfl⟩
  obtain ⟨write, hwrite⟩ : ∃ next, writeThen (σ := Unit) failedKey lateConditions [] =
      .ask ⟨.patch, failedTarget "/status",
        some (.merge, ClusterStore.conditionsPatch lateConditions)⟩ next := ⟨_, rfl⟩
  have hget : Serves failedKey failedFields ⟨.get, failedTarget "", none⟩ failedAnswer
      failedFields := .get (by decide) rfl read_failedAnswer
  have hbegun := ((begins_reportAll ..).of_ask hread).2 _ _ read_failedAnswer
  have hrecorded := ((begins_recordAll ..).of_ask hrecord).2 _ _ read_failedAnswer
  have hreported := ((begins_writeThen ..).of_ask hwrite).2 _ _ read_failedAnswer
  have h₀ : Writes failedKey lateWriters [] lateWriters := .start
  have h₁ := h₀.report hread hget
  have h₂ := h₁.record hrecord (serves_patch _ _)
  have h₃ := h₂.report (hbegun.trans hwrite) (serves_patch _ _)
  refine ⟨_, _, h₃, hreported, hrecorded, rfl, ?_⟩
  have hdone := (status_writers_independent h₃ hasStatus_failedFields).2 hreported hrecorded
  obtain ⟨s, _, _, _, hlast, _⟩ := hdone
  exact (hlast _ rfl).2.2.mpr rfl

end GitDrift
