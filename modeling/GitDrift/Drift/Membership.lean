import GitDrift.Drift.Watcher
import GitDrift.Pattern.Spec

/-!
Keeping the watched keys in line with what Patterns ask for.
-/
namespace GitDrift.Drift

/-- What was done about a Pattern's watch. -/
inductive MembershipStep where
  | added
  | updated
  | removed
  | notWatched
deriving DecidableEq

def MembershipStep.text : MembershipStep → String
  | .added => "add pattern to git drift watcher"
  | .updated => "update the watch interval to git drift watcher"
  | .removed => "remove pattern from git drift watcher"
  | .notWatched => "git drift watch not configured"

/-- The step that a configuration asks for. -/
def membershipStep (c : GitConfig) (watching : Bool) : MembershipStep :=
  if c.qualifies then (if watching then .updated else .added)
  else if watching then .removed
  else .notWatched

/-- Takes a step for a key. -/
def Watcher.perform (w : Watcher) (step : MembershipStep) (key : PatternKey) (seconds : Int)
    (now : Instant) : ChangeResult × Watcher :=
  match step with
  | .added => w.add key seconds now
  | .updated => w.updateInterval key seconds now
  | .removed => w.remove key
  | .notWatched => (.ok, w)

/-- Adds, updates or removes a Pattern's watch. The answer names the step that was tried. -/
def Watcher.sync (w : Watcher) (key : PatternKey) (c : GitConfig) (now : Instant) :
    MembershipStep × ChangeResult × Watcher :=
  let step := membershipStep c (w.isWatching key)
  (step, w.perform step key c.pollInterval now)

end GitDrift.Drift
