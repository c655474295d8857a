import GitDrift.Cluster.Scenario
import GitDrift.Controller.Informer
import GitDrift.Reconcile.Reconciler

/-!
The source of a controller's notices: it lists and watches over one connection at a time, and rests
after a failure, twice as long after each until a Pattern is told of.
-/
namespace GitDrift.Controller

open Cluster Reconcile

/-- What controllers work on. -/
structure Site where
  /-- What all reconciliations share, the clock among it. -/
  reconciler : Reconciler
  cluster : Scenario := {}
  /-- How long the stream will rest when it is throttled next. -/
  backoff : Span
  /-- The requests that were sent, and when, latest first. -/
  requests : List (Instant × Request) := []

namespace Site

variable {α : Type} (s : Site)

def now : Instant := s.reconciler.now

/-- Sends a request, which the cluster answers in a given way. -/
def send (request : Request) (answer : Scenario → α × Scenario) : α × Site :=
  let (a, cluster) := answer s.cluster
  (a, { s with cluster, requests := (s.now, request) :: s.requests })

/-- The requests by their paths, earlier ones first. -/
def requestsByPath : List (Instant × Request) :=
  s.requests.reverse.mergeSort fun a b => a.2.target.path ≤ b.2.target.path

end Site

/-- The connection to the cluster. -/
inductive Link where
  | idle
  /-- A page that comes at some time. -/
  | page (time : Instant) (answer : Answer)
  /-- A watch that opens at some time, the lines that have not been read, and whether it ends behind
  them. -/
  | watch (time : Instant) (lines : List String) (ends : Bool)

namespace Link

/-- A watch gets another line, unless it has ended. -/
def append (line : String) : Link → Link
  | .watch time lines false => .watch time (lines ++ [line]) false
  | link => link

/-- A watch ends. -/
def close : Link → Link
  | .watch time lines _ => .watch time lines true
  | link => link

/-- When the connection has something to tell. -/
def time? : Link → Option Instant
  | .idle => none
  | .page time _ | .watch time _ _ => some time

end Link

structure Source where
  stage : Stage := .starting
  link : Link := .idle
  restsUntil : Instant := 0
  /-- Failures in a row. -/
  failures : Nat := 0
  lastFailure : Option Instant := none

namespace Source

/-- The rest after the first failure. -/
def firstRest : Span := 800

def longestRest : Span := 30000

/-- Failures that are further apart are not in a row. -/
def calmTime : Span := Span.ofSeconds 120

variable (c : Source)

/-- Rests after a failure. -/
def rest (now : Instant) : Source :=
  let failures := if c.lastFailure.any (· + calmTime < now) then 0 else c.failures
  { c with
    restsUntil := now + min (firstRest * Nat.pow 2 failures) longestRest
    failures := failures + 1
    lastFailure := some now }

/-- Goes on to a stage with a connection, and rests if a failure was told. Failures are not in a row
when a Pattern to reconcile was told of between them. -/
def proceed (told : Told) (link : Link) (now : Instant) : List Notice × Source :=
  let calmed := told.1.any fun n => n.trigger?.isSome
  let c := { c with stage := told.2, link, failures := if calmed then 0 else c.failures }
  (told.1, if told.1.any fun n => n matches .failed _ then c.rest now else c)

/-- Whether it goes on only with an answer. -/
def awaitsAnswer : Bool :=
  match c.stage, c.link with
  | .paging _, .page .. | .listed _, .watch .. => true
  | _, _ => false

/-- The next step, if one can be taken now, and what it tells. -/
def step? (s : Site) : Option (List Notice × Source × Site) :=
  if s.now < c.restsUntil then none
  else
    match c.stage, c.link with
    | .starting, _ =>
      let (notices, c) := c.proceed ([.restarted], .paging none) .idle s.now
      some (notices, c, s)
    | .paging token, .idle =>
      let ((latency, answer), s) := s.send (listRequest token) (·.answerList)
      some ([], { c with link := .page (s.now + latency) answer }, s)
    | .paging _, .page time answer =>
      if s.now < time then none
      else
        let (notices, c) := c.proceed (tellPage answer) .idle s.now
        some (notices, c, s)
    | .listed version, .idle =>
      let ((latency, lines, ends), s) := s.send (watchRequest version) (·.answerWatch)
      some ([], { c with link := .watch (s.now + latency) lines ends }, s)
    | .listed version, .watch time _ _ =>
      if s.now < time then none else some ([], { c with stage := .watching version }, s)
    | .watching version, .watch time (line :: lines) ends =>
      let (notices, c) := c.proceed (tellLine version line) (.watch time lines ends) s.now
      some (notices, c, s)
    | .watching version, .watch _ [] true =>
      some ([], { c with stage := .listed version, link := .idle }, s)
    | _, _ => none

end Source
end GitDrift.Controller
