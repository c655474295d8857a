import GitDrift.Drift.Schedule
import GitDrift.Text.Diagnostic

/-!
The drift watcher: a schedule of checks, and a background task that runs them one at a time.

Clients add, change and remove keys at any moment. A change of the schedule starts a new generation
and leaves a note for the task, which then looks at the schedule anew; a timer that was set in an
older generation does nothing when it goes off. Each start of the watcher begins a task with a
number of its own, which is also the handle that stops it. The task takes steps of its own, and
between any two of them clients may act.
-/
namespace GitDrift.Drift

/-- Why a change of the watched keys was refused. -/
inductive WatchError where
  | notStarted
  | notFound (key : PatternKey)
  | disabled (seconds : Int)
deriving DecidableEq

def WatchError.message : WatchError → String
  | .notStarted => "the git drift watcher has not been started"
  | .notFound key =>
    "unable to find git remote pair for pattern " ++ key.name ++ " in namespace " ++ key.namespace_
  | .disabled seconds => "poll interval " ++ Text.ofInt seconds ++ "s disables drift watching"

/-- How a change of the watched keys ended. -/
inductive ChangeResult where
  | ok
  | refused (e : WatchError)
  /-- The clock overflowed on the way, and nothing further was done. -/
  | overflow
deriving DecidableEq

/-- Where a task stands. -/
inductive TaskPhase where
  /-- It is about to look at the schedule. -/
  | looking
  /-- It waits for a note, for its timer, or to be stopped. -/
  | waiting (deadline : Option Instant) (generation : UInt64)
  | checking (key : PatternKey)
  | ended
deriving DecidableEq

structure Task where
  phase : TaskPhase := .looking
  /-- How many notes it has not read. -/
  notes : Nat := 0
  stopped : Bool := false
deriving DecidableEq

abbrev TaskId := Nat

structure Watcher where
  schedule : Schedule := []
  generation : UInt64 := 0
  /-- The task that counts as running. -/
  running : Option TaskId := none
  /-- All tasks that were ever started; the number of a task is its place. -/
  tasks : List Task := []
  /-- How many keys were watched after the last change. -/
  gauge : Nat := 0
deriving DecidableEq

namespace Watcher

variable (w : Watcher)

def isRunning : Bool := w.running.isSome

/-- Changes a task. -/
def onTask (id : TaskId) (f : Task → Task) : Watcher := { w with tasks := w.tasks.modify id f }

/-- Starts a task, unless one is running already, and answers with the handle of the running one. -/
def start : TaskId × Watcher :=
  match w.running with
  | some id => (id, w)
  | none => (w.tasks.length, { w with running := some w.tasks.length, tasks := w.tasks ++ [{}] })

/-- Tells a task to stop. -/
def stop (id : TaskId) : Watcher := w.onTask id fun t => { t with stopped := true }

def isStopped (id : TaskId) : Bool := (w.tasks[id]?.map (·.stopped)).getD false

/-- Begins a new generation after a change of the schedule, and leaves a note for the task. -/
def touch : Watcher :=
  let w := { w with generation := w.generation + 1, gauge := w.schedule.length }
  match w.running with
  | some id => w.onTask id fun t => { t with notes := t.notes + 1 }
  | none => w

/-- Schedules a key anew. -/
def reschedule (key : PatternKey) (interval : Span) (now : Instant) : ChangeResult × Watcher :=
  match w.schedule.upsert key interval now with
  | (.ok _, schedule) => (.ok, touch { w with schedule })
  | (.error _, schedule) => (.overflow, { w with schedule })

/-- Watches a key, with a check every so many seconds. -/
def add (key : PatternKey) (seconds : Int) (now : Instant) : ChangeResult × Watcher :=
  if seconds < 0 then (.refused (.disabled seconds), w)
  else if !w.isRunning then (.refused .notStarted, w)
  else w.reschedule key (Span.ofSeconds seconds.toNat) now

/-- Stops watching a key. -/
def remove (key : PatternKey) : ChangeResult × Watcher :=
  if !w.isRunning then (.refused .notStarted, w)
  else
    match w.schedule.remove key with
    | (some _, schedule) => (.ok, touch { w with schedule })
    | (none, _) => (.refused (.notFound key), w)

/-- Changes the interval of a watched key, whose next check is then one interval away. The interval
that it has already changes nothing, and a negative one ends the watch. -/
def updateInterval (key : PatternKey) (seconds : Int) (now : Instant) : ChangeResult × Watcher :=
  if seconds < 0 then w.remove key
  else if !w.isRunning then (.refused .notStarted, w)
  else
    match w.schedule.entryOf key with
    | none => (.refused (.notFound key), w)
    | some e =>
      if e.interval = Span.ofSeconds seconds.toNat then (.ok, w)
      else w.reschedule key (Span.ofSeconds seconds.toNat) now

def isWatching (key : PatternKey) : Bool := w.schedule.contains key

def watched : List PatternKey := w.schedule.keys

/-- The watcher in diagnostic notation, with the time that a check may take. -/
def diagnostic (limit : Option Span) : Text.Diagnostic :=
  .record "DriftWatcher" [("pairs", .word (Text.ofNat w.schedule.length)),
    ("running", .word (if w.isRunning then "true" else "false")),
    ("check_timeout", .ofOption (fun d => .word d.text) limit)] true

/-- The key that a timer of some generation makes due. -/
def dueKey? (generation : UInt64) (now : Instant) : Option PatternKey :=
  if w.generation ≠ generation then none
  else (w.schedule.head?.filter fun e => e.nextCheck ≤ now).map (·.key)

/-- A step of a task by itself. The end of a check is a step that depends on the check. -/
inductive TaskStep where
  /-- Sets the timer to the first check that is due. -/
  | arm
  | readNote
  /-- The timer goes off, and starts a check of the given key if there is one. -/
  | fire (key : Option PatternKey)
  /-- Ends the task, and a check that is on its way. -/
  | exit
deriving DecidableEq

/-- The step that a task takes next. To be stopped comes before a note, and a note before the
timer. -/
def nextStep? (id : TaskId) (now : Instant) : Option TaskStep := do
  let t ← w.tasks[id]?
  match t.phase with
  | .ended => none
  | .looking => some (if t.stopped then .exit else .arm)
  | .checking _ => if t.stopped then some .exit else none
  | .waiting deadline generation =>
    if t.stopped then some .exit
    else if 0 < t.notes then some .readNote
    else
      match deadline with
      | some d => if d ≤ now then some (.fire (w.dueKey? generation now)) else none
      | none => none

/-- The watcher after a step of a task. -/
def takeStep (id : TaskId) : TaskStep → Watcher
  | .arm =>
    let deadline := w.schedule.head?.map (·.nextCheck)
    w.onTask id fun t => { t with phase := .waiting deadline w.generation }
  | .readNote => w.onTask id fun t => { t with phase := .looking, notes := t.notes - 1 }
  | .fire (some key) => w.onTask id fun t => { t with phase := .checking key }
  | .fire none => w.onTask id fun t => { t with phase := .looking }
  | .exit => { w.onTask id fun t => { t with phase := .ended } with running := none }

/-- Stops the running task, which then ends. -/
def shutdown : Watcher :=
  match w.running with
  | some id => (w.stop id).takeStep id .exit
  | none => w

/-- The watcher after a check has run to its end. If the clock overflows, the task dies of it and
still counts as running. -/
def finishCheck (id : TaskId) (key : PatternKey) (now : Instant) :
    Except ClockOverflow Bool × Watcher :=
  let (result, schedule) := w.schedule.complete key now
  let phase := match result with
    | .ok _ => TaskPhase.looking
    | .error _ => .ended
  (result, Watcher.onTask { w with schedule } id fun t => { t with phase })

/-- The key that the running task is checking. -/
def checking? : Option (TaskId × PatternKey) := do
  let id ← w.running
  let t ← w.tasks[id]?
  match t.phase with
  | .checking key => some (id, key)
  | _ => none

end Watcher
end GitDrift.Drift
