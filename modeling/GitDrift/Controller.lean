import GitDrift.Cluster.Fault
import GitDrift.Controller.Cache
import GitDrift.Controller.Source
import GitDrift.Controller.WorkQueue
import GitDrift.Reconcile.Policy

/-!
A controller: every Pattern that it learns about is reconciled, and again when it changes or when
its last reconciliation asked for that. Different Patterns are reconciled side by side, and one
Pattern never twice at a time. What goes wrong is a fault, and may hold up everything but the
reconciliations that are under way.
-/
namespace GitDrift

open Cluster Reconcile Text

namespace Controller

/-- A reconciliation that is under way, or over but not accounted for. -/
structure Running where
  key : ObjectKey
  pattern : Pattern
  /-- When it goes on. -/
  resumesAt : Instant
  /-- What is left of it. -/
  rest : Activity Reconciler (Except ReconcileError Action)
  /-- Whether it waits for an answer. -/
  asked : Bool := false

namespace Running

variable (r : Running)

def isOver : Bool :=
  match r.rest with
  | .done _ | .crash => true
  | _ => false

/-- Goes on up to the next request. -/
def resume (s : Site) : Running × Site :=
  let (rest, reconciler) := r.rest.advance s.reconciler
  let s := { s with reconciler }
  match rest with
  | .ask request next =>
    let ((latency, answer), s) := s.send request (·.answer request)
    ({ r with resumesAt := s.now + latency, rest := next answer, asked := true }, s)
  | rest => ({ r with rest }, s)

/-- Goes on with the first reconciliation that can, of those that wait for an answer or of those
that do not. -/
def resumeFirst? (asked : Bool) (s : Site) : List Running → Option (List Running × Site)
  | [] => none
  | r :: rs =>
    if r.asked ≠ asked || r.isOver || s.now < r.resumesAt then
      (resumeFirst? asked s rs).map fun (rs, s) => (r :: rs, s)
    else
      let (r, s) := r.resume s
      some (r :: rs, s)

/-- How a fault tells of the object that was reconciled. -/
def objectDiagnostic : Diagnostic :=
  let m := r.pattern.metadata
  let type : Diagnostic := .record "ApiResource" [("group", .text Pattern.group),
    ("version", .text Pattern.version), ("api_version", .text Pattern.apiVersion),
    ("kind", .text Pattern.kind), ("plural", .text Pattern.plural)] false
  let extra : Diagnostic := .record "Extra"
    [("resource_version", .ofOption .text m.resourceVersion), ("uid", .ofOption .text m.uid)] false
  .record "ObjectRef" [("dyntype", type), ("name", .text (m.name.getD "")),
    ("namespace", .ofOption .text m.namespace_), ("extra", extra)] false

end Running

/-- How a controller has been told to stop. -/
inductive Halt where
  | none
  /-- Once the reconciliations are over that are under way. -/
  | graceful
  | forced
deriving DecidableEq

/-- What becomes of a controller. -/
inductive Fate (α : Type) where
  | goesOn (a : α)
  | ended
  /-- A reconciliation broke off, and the controller with it, or there was a Pattern without a
  name. -/
  | crashed

end Controller

structure Controller where
  source : Controller.Source := {}
  cache : Controller.Cache := {}
  queue : Controller.WorkQueue := {}
  running : List Controller.Running := []
  /-- Until when a fault holds it up. -/
  heldUntil : Instant := 0
  halt : Controller.Halt := .none

namespace Controller

/-- What a step leads to. -/
abbrev Outcome := Fate Controller × Site

variable (c : Controller)

/-- Responds to a fault. -/
def respond (fault : Diagnostic) (s : Site) : Controller × Site :=
  let config := s.reconciler.config
  let r := (FaultKind.ofText fault.render.toList).respond s.backoff config.backoffMax
    config.restartDelay
  ({ c with heldUntil := s.now + r.wait }, { s with backoff := r.backoff })

/-- Takes note of what the source tells. -/
def learn (s : Site) (n : Notice) : Controller × Site :=
  let c := { c with cache := c.cache.learn n }
  let c := match n.trigger? with
    | some key => { c with queue := c.queue.add key s.now }
    | none => c
  match n with
  | .failed e => c.respond (.applied "QueueError" [e.diagnostic]) s
  | _ => (c, s)

def isRunning (key : ObjectKey) : Bool := c.running.any (·.key = key)

/-- The longest time that a reconciliation is put off: half a year of months of thirty days. -/
def longestDelay : Span := Span.ofSeconds 15552000

/-- Schedules the next reconciliation of a Pattern, if an action asks for it. -/
def reschedule (key : ObjectKey) (action : Action) (now : Instant) : Controller :=
  match action with
  | .requeue seconds =>
    { c with queue := c.queue.add key (now + min (Span.ofSeconds seconds) longestDelay) }
  | .awaitChange => c

/-- Accounts for a reconciliation that is over. A success lets a throttled stream start afresh. -/
def account (r : Running) (result : Except ReconcileError Action) (s : Site) :
    Controller × Site :=
  let config := s.reconciler.config
  match result with
  | .ok action => (c.reschedule r.key action s.now, { s with backoff := config.backoffStart })
  | .error e =>
    let (action, reconciler) := errorPolicy r.pattern (some config) s.reconciler
    (c.reschedule r.key action s.now).respond
      (.applied "ReconcilerFailed" [e.diagnostic, r.objectDiagnostic]) { s with reconciler }

def resume? (asked : Bool) (s : Site) : Option Outcome :=
  (Running.resumeFirst? asked s c.running).map fun (running, s) => (.goesOn { c with running }, s)

def abort? (s : Site) : Option Outcome := if c.halt = .forced then some (.ended, s) else none

/-- Lets the source tell something. -/
def listen? (s : Site) : Option Outcome :=
  if c.halt ≠ .none then none
  else
    (c.source.step? s).map fun (notices, source, s) =>
      if notices.any Notice.isNameless then (.crashed, s)
      else
        let (c, s) := notices.foldl (fun (c, s) n => learn c s n) ({ c with source }, s)
        (.goesOn c, s)

/-- Starts the first reconciliation that is due. A Pattern that is not known is passed over. -/
def start? (s : Site) : Option Outcome :=
  if c.halt ≠ .none || !c.cache.ready then none
  else
    ((c.queue.expire s.now).take? c.isRunning).map fun (key, queue) =>
      let c := { c with queue }
      match c.cache.get? key with
      | some p =>
        let r : Running := { key, pattern := p, resumesAt := s.now, rest := reconcile p }
        (.goesOn { c with running := c.running ++ [r] }, s)
      | none => (.goesOn c, s)

/-- Accounts for the first reconciliation that is over. -/
def finish? (s : Site) : Option Outcome := do
  let r ← c.running.find? fun r => r.isOver && r.resumesAt ≤ s.now
  let c := { c with running := c.running.filter (·.key ≠ r.key) }
  match r.rest with
  | .done result =>
    let (c, s) := c.account r result s
    return (.goesOn c, s)
  | _ => return (.crashed, s)

/-- A controller that was told to stop ends when nothing is under way. Until there has been a list
it waits for one. -/
def retire? (s : Site) : Option Outcome :=
  if c.halt = .graceful && c.running.isEmpty && c.cache.ready then some (.ended, s) else none

/-- The next step that waits for no answer, if the controller is not held up. What is over is
accounted for before anything begins. -/
def work? (s : Site) : Option Outcome :=
  if s.now < c.heldUntil then none
  else
    c.abort? s <|> c.finish? s <|> (if c.source.awaitsAnswer then none else c.listen? s) <|>
      c.start? s

/-- The next step that waits for nothing but the source, if the controller is not held up. -/
def idle? (s : Site) : Option Outcome :=
  if s.now < c.heldUntil then none else c.listen? s <|> c.retire? s

/-- The next step, if one can be taken now. Answers take at least a moment to come, so that all else
is done before one is read. -/
def step? (s : Site) : Option Outcome :=
  c.work? s <|> c.resume? false s <|> c.resume? true s <|> c.idle? s

/-- When something may be done. -/
def times : List Instant :=
  let sources := if c.halt = .none then
      c.source.restsUntil :: (c.source.link.time?.toList ++ c.queue.times)
    else []
  c.heldUntil :: (c.running.map (·.resumesAt) ++ sources)

/-- Tells the controller to stop: at first when it has done what is under way, then at once. -/
def signal : Controller :=
  { c with halt := if c.halt = .none then .graceful else .forced }

end Controller
end GitDrift
