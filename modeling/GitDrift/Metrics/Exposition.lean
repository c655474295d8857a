import GitDrift.Metrics

/-!
The text in which metrics are read: for each family two comments, with its help and its type, and
its samples. Families come in the order of their names, and the samples of a family in the order
of their labels. A family without samples is left out.
-/
namespace GitDrift.Metrics

/-- What every family's name starts with. -/
def familyStart : String := "patterns_operator_"

structure Family where
  name : String
  help : String
  type : String
  /-- Lines, each the rest of a name, with labels, and a value. -/
  samples : List (String × String)

/-- A label's value between quotes. -/
def labelValue (s : String) : String :=
  String.ofList <| s.toList.flatMap fun c =>
    match c with
    | '\\' => ['\\', '\\']
    | '"' => ['\\', '"']
    | '\n' => ['\\', 'n']
    | c => [c]

/-- Labels in braces. -/
def labels (pairs : List (String × String)) : String :=
  if pairs.isEmpty then ""
  else
    "\x7b" ++ ",".intercalate (pairs.map fun (n, v) => n ++ "=\"" ++ labelValue v ++ "\"") ++ "\x7d"

/-- Entries of a table in the order of their labels. -/
def byLabel (t : Table String α) : List (String × α) := t.entries.mergeSort fun a b => a.1 ≤ b.1

def counter (name help : String) (n : Nat) : Family :=
  ⟨name, help, "counter", [("", Text.ofNat n)]⟩

def labelledCounter (name help label : String) (t : Table String Nat) : Family :=
  ⟨name, help, "counter", (byLabel t).map fun (v, n) => (labels [(label, v)], Text.ofNat n)⟩

/-- The samples of a histogram: its buckets, the last of which is without bound, and its count. -/
def histogramLines (pairs : List (String × String)) (h : Histogram) : List (String × String) :=
  let bucket (bound : String) (n : Nat) :=
    ("_bucket" ++ labels (pairs ++ [("le", bound)]), Text.ofNat n)
  h.buckets.map (fun (b, n) => bucket b.text n) ++
    [bucket "+Inf" h.count, ("_count" ++ labels pairs, Text.ofNat h.count)]

variable (m : Metrics)

def families : List Family :=
  [counter "condition_write_failures_total" "Total number of failed git drift condition writes"
      m.conditionWriteFailures,
    ⟨"drift_check_duration_seconds", "Duration of git drift checks in seconds", "histogram",
      (byLabel m.driftCheckDuration).flatMap fun (v, h) => histogramLines [("result", v)] h⟩,
    labelledCounter "drift_checks_total" "Total number of git drift checks by result" "result"
      m.driftChecks,
    ⟨"drift_watched_patterns", "Current number of patterns watched for git drift", "gauge",
      [("", m.watchedText)]⟩,
    ⟨"reconciliation_duration_seconds", "Duration of reconciliation in seconds", "histogram",
      histogramLines [] m.reconciliationDuration⟩,
    counter "reconciliation_errors_total" "Total number of reconciliation errors"
      m.reconciliationErrors,
    counter "reconciliations_total" "Total number of reconciliations" m.reconciliations,
    labelledCounter "requeues_total" "Total number of requeues by reason" "reason" m.requeues]

def Family.lines (f : Family) : List String :=
  let name := familyStart ++ f.name
  ("# HELP " ++ name ++ " " ++ f.help) :: ("# TYPE " ++ name ++ " " ++ f.type) ::
    f.samples.map fun (rest, v) => name ++ rest ++ " " ++ v

/-- The lines of the text; there are none before the metrics are registered. -/
def exposition : List String :=
  if m.registered then (m.families.filter (!·.samples.isEmpty)).flatMap Family.lines else []

end GitDrift.Metrics
