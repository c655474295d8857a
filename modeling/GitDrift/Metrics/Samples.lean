import GitDrift.Metrics

/-!
The numbers that metrics consist of, each with a name and a label, and what was added to them
between two readings.
-/
namespace GitDrift.Metrics

structure Sample where
  name : String
  label : String
  value : Nat
deriving DecidableEq, Inhabited

/-- The samples of a counter with labels. -/
def labelled (name : String) (t : Table String Nat) : List Sample :=
  t.entries.map fun (label, n) => ⟨name, label, n⟩

/-- The samples of a histogram: the number of values, and how many of them are within each
bound. -/
def histogramSamples (name label : String) (h : Histogram) : List Sample :=
  ⟨name ++ "/count", label, h.count⟩ ::
    h.buckets.map fun (b, n) => ⟨name ++ "/le=" ++ b.text, label, n⟩

variable (m : Metrics)

/-- All samples that only ever grow. -/
def samples : List Sample :=
  [⟨"reconciliations_total", "", m.reconciliations⟩,
    ⟨"reconciliation_errors_total", "", m.reconciliationErrors⟩,
    ⟨"condition_write_failures_total", "", m.conditionWriteFailures⟩] ++
  labelled "requeues_total" m.requeues ++ labelled "drift_checks_total" m.driftChecks ++
  histogramSamples "reconciliation_duration_seconds" "" m.reconciliationDuration ++
  m.driftCheckDuration.entries.flatMap fun (label, h) =>
    histogramSamples "drift_check_duration_seconds" label h

/-- The value of a sample; one that is not there is zero. -/
def value (name label : String) : Nat :=
  ((m.samples.find? fun s => s.name = name && s.label = label).map (·.value)).getD 0

/-- Samples are listed by their names, and under one name by their labels. -/
def Sample.before (a b : Sample) : Bool := a.name < b.name || (a.name = b.name && a.label ≤ b.label)

/-- What later metrics have more than these, sample by sample. -/
def increase (later : Metrics) : List Sample :=
  let grown := later.samples.map fun s => { s with value := s.value - m.value s.name s.label }
  (grown.filter fun s => 0 < s.value).mergeSort Sample.before

end GitDrift.Metrics
