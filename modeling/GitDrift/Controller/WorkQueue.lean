import GitDrift.Controller.Event
import GitDrift.Time.Clock

/-!
The Patterns that are to be reconciled, and when. A Pattern is in the queue at most once: of two
times the earlier counts. A Pattern whose time has come waits while it is being reconciled.
-/
namespace GitDrift.Controller

structure WorkQueue where
  /-- Keys in the order of their times. -/
  scheduled : List (ObjectKey × Instant) := []
  /-- Keys whose time has come. -/
  due : List ObjectKey := []

namespace WorkQueue

/-- Puts a key behind those that are due no later. -/
def place (key : ObjectKey) (time : Instant) :
    List (ObjectKey × Instant) → List (ObjectKey × Instant)
  | [] => [(key, time)]
  | (k, t) :: rest =>
    if t ≤ time then (k, t) :: place key time rest else (key, time) :: (k, t) :: rest

variable (q : WorkQueue)

/-- Schedules a key, unless it is in the queue with a time that is no later. -/
def add (key : ObjectKey) (time : Instant) : WorkQueue :=
  if q.due.contains key then q
  else
    match q.scheduled.lookup key with
    | some t =>
      if t < time then q
      else { q with scheduled := place key time (q.scheduled.filter (·.1 ≠ key)) }
    | none => { q with scheduled := place key time q.scheduled }

/-- Notes whose time has come. -/
def expire (now : Instant) : WorkQueue where
  scheduled := q.scheduled.filter fun e => now < e.2
  due := q.due ++ (q.scheduled.filter fun e => e.2 ≤ now).map Prod.fst

/-- Takes the first key that is due and not kept back. -/
def take? (keptBack : ObjectKey → Bool) : Option (ObjectKey × WorkQueue) :=
  (q.due.find? fun k => !keptBack k).map fun k => (k, { q with due := q.due.erase k })

/-- When keys become due. -/
def times : List Instant := q.scheduled.map Prod.snd

end WorkQueue
end GitDrift.Controller
