import GitDrift.Retry.Fibonacci
import GitDrift.Text.Search
import GitDrift.Time.Clock

/-!
Faults of the stream of events that the controller lives on. A fault is known by its diagnostic
text alone, and its kind decides whether the event is kept and how long the stream rests.
-/
namespace GitDrift.Cluster

open Text

inductive FaultKind where
  | unauthorized
  | expired
  | throttled
  | notFound
  | other
deriving DecidableEq

/-- The kind of a fault. A text that says that something was not found is of that kind, whatever
else it says. -/
def FaultKind.ofText (text : List Char) : FaultKind :=
  if occursAny ["ObjectNotFound", "404", "not found"] text then .notFound
  else if occursAny ["401", "Unauthorized"] text then .unauthorized
  else if occursAny ["410", "too old resource version", "Expired", "Gone"] text then .expired
  else if occursAny ["429", "storage is (re)initializing", "TooManyRequests"] text then .throttled
  else .other

/-- What is done about a fault. -/
structure FaultResponse where
  /-- Whether the event is passed on. -/
  kept : Bool
  /-- How long the stream rests. -/
  wait : Span
  /-- How long it will rest when it is throttled next. -/
  backoff : Span
deriving DecidableEq

/-- Twice the rest, as a word of 64 bits, up to the longest rest. -/
def doubled (longest backoff : Span) : Span := min (min (2 * backoff) (Retry.wordLimit - 1)) longest

/-- The response to a fault: a throttled stream rests for the current backoff, which doubles, and
after a fault of an unknown kind it rests for a time of its own. -/
def FaultKind.respond (kind : FaultKind) (backoff longest restart : Span) : FaultResponse :=
  match kind with
  | .notFound => ⟨true, 0, backoff⟩
  | .expired => ⟨false, 0, backoff⟩
  | .throttled => ⟨false, backoff.slept, doubled longest backoff⟩
  | .unauthorized | .other => ⟨false, restart.slept, backoff⟩

end GitDrift.Cluster
