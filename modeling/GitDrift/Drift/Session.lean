import GitDrift.Drift.Detection
import GitDrift.Drift.Membership
import GitDrift.Metrics

/-!
A watcher at work: its clock, the remotes that it lists, and the store that it reports to. The
remotes answer after a time of their own, or never. The clock stands still while anything can be
done, and then moves to the next moment at which something can.
-/
namespace GitDrift.Drift

open Git

/-- How a remote behaves. -/
structure RemoteScript where
  listing : Except GitError (List Reference)
  /-- How long a listing takes; none that never ends. -/
  latency : Option Span := some 0

/-- A check on its way: what it waits for, when that comes, and when the check was started. -/
structure Check where
  resume : Except GitError (List Reference) → Detection
  answer : Except GitError (List Reference)
  readyAt : Option Instant
  startedAt : Instant

/-- What a watcher did that can be seen from outside. -/
inductive LogEntry where
  | listed (side : Side) (url : String) (time : Instant)
  | reported (key : PatternKey) (drifted : Bool) (time : Instant)

/-- A watcher with all that it meets. Its store is the one in memory, which does at once what it is
asked for: no report is ever on its way, and a check is counted, reported and over in one step. -/
structure Session where
  watcher : Watcher := {}
  store : MemoryStore := {}
  /-- Whether the store refuses to record results. -/
  refusesReports : Bool := false
  remotes : Table String RemoteScript := {}
  /-- How long a check may take. -/
  limit : Option Span := none
  now : Instant
  /-- Where the clock stood when the session began. -/
  origin : Instant
  check : Option Check := none
  /-- How checks ended, and how many results could not be recorded. -/
  metrics : Metrics := {}
  /-- What happened, latest first. -/
  log : List LogEntry := []

namespace Session

/-- The time of day at the start of every session. -/
def startOfDay : Int := 1700000000

variable (s : Session)

/-- How long the session has been going on. -/
def elapsed : Span := s.now - s.origin

/-- The time of day. -/
def wallTime : Moment :=
  ⟨startOfDay + (s.elapsed / 1000 : Nat), s.elapsed % 1000 * 1000000⟩

/-- The behaviour of the remote at an address; at an unknown address there is no repository. -/
def remote (url : String) : RemoteScript :=
  (s.remotes.get? url).getD ⟨.error (.commandFailed url "repository not found"), some 0⟩

/-- Records a result in the store. -/
def report (key : PatternKey) (drifted : Bool) : Session :=
  let s := { s with log := .reported key drifted s.elapsed :: s.log }
  let (result, store) :=
    if s.refusesReports then (.error .poisoned, s.store)
    else s.store.report key drifted s.wallTime
  match result with
  | .ok () => { s with store }
  | .error _ => { s with store, metrics := s.metrics.writeFailure }

/-- How a result is counted. -/
def resultLabel : Except DriftError Bool → String
  | .ok false => "in_sync"
  | .ok true => "drifted"
  | .error _ => "error"

/-- Ends a check: it is counted, a result is reported, and the next check is scheduled. -/
def conclude (id : TaskId) (key : PatternKey) (startedAt : Instant)
    (result : Except DriftError Bool) : Session :=
  let seconds := secondsBetween startedAt s.now
  let s := { s with metrics := s.metrics.driftCheck (resultLabel result) seconds, check := none }
  let s := match result with
    | .ok drifted => s.report key drifted
    | .error _ => s
  { s with watcher := (s.watcher.finishCheck id key s.now).2 }

/-- Goes on with a detection: it ends, or it asks a remote and waits. -/
def proceed (id : TaskId) (key : PatternKey) (startedAt : Instant) : Detection → Session
  | .done result => s.conclude id key startedAt result
  | .listing side url resume =>
    let remote := s.remote url
    { s with
      log := .listed side url s.elapsed :: s.log
      check := some
        { resume, startedAt, answer := remote.listing, readyAt := remote.latency.map (s.now + ·) } }

/-- When a check is given up. -/
def deadline? (c : Check) : Option Instant := s.limit.map (c.startedAt + ·)

/-- The next step of a check at the current time: an answer that is there comes before the end of
the time that the check may take. -/
def checkStep? (id : TaskId) (key : PatternKey) : Option Session :=
  s.check.bind fun c =>
    if c.readyAt.any (· ≤ s.now) then some (s.proceed id key c.startedAt (c.resume c.answer))
    else if (s.deadline? c).any (· ≤ s.now) then
      some (s.conclude id key c.startedAt (.error (.timeout (s.limit.getD 0))))
    else none

/-- Takes a step of the running task. -/
def taskStep (id : TaskId) (step : Watcher.TaskStep) : Session :=
  let s := { s with watcher := s.watcher.takeStep id step }
  match step with
  | .fire (some key) =>
    s.proceed id key s.now (Detection.start key (s.store.config key))
  | .exit => { s with check := none }
  | _ => s

/-- The session after one step at the current time, if there is one to take. -/
def step? : Option Session := do
  let id ← s.watcher.running
  match s.watcher.nextStep? id s.now with
  | some step => some (s.taskStep id step)
  | none =>
    let (_, key) ← s.watcher.checking?
    s.checkStep? id key

/-- The deadline of the running task's timer. -/
def timer? : Option Instant := do
  let id ← s.watcher.running
  let t ← s.watcher.tasks[id]?
  match t.phase with
  | .waiting deadline _ => deadline
  | _ => none

/-- When something can be done next. -/
def nextTime? : Option Instant :=
  let times := [s.timer?, s.check.bind (·.readyAt), s.check.bind s.deadline?].filterMap id
  times.min?

/-- Lets the clock run to a given time. The fuel bounds the number of steps and of moments. -/
def runUntil : Nat → Instant → Session → Session
  | 0, _, s => s
  | fuel + 1, time, s =>
    match s.step? with
    | some s => runUntil fuel time s
    | none =>
      match s.nextTime? with
      | some t =>
        if t ≤ time then runUntil fuel time { s with now := max t s.now }
        else { s with now := time }
      | none => { s with now := time }

end Session
end GitDrift.Drift
