import GitDrift.Controller

/-!
The loop that controllers run in. While the operator is ready there is a controller; when one has
ended and the operator is still ready, another follows after a rest. The first signal makes the
operator not ready, and every signal reaches the controller that is running.
-/
namespace GitDrift.Controller

open Cluster Reconcile

inductive Phase where
  /-- The loop looks whether the operator is ready. -/
  | looking
  | controlling (c : Controller)
  | resting (until_ : Instant)
  | returned
  | crashed

structure Loop where
  site : Site
  /-- Whether the operator is ready. -/
  ready : Bool := true
  /-- Whether a signal still makes the operator not ready. -/
  hooked : Bool := true
  phase : Phase := .looking

namespace Loop

variable (l : Loop)

def now : Instant := l.site.now

/-- A loop that starts with what a server knows. -/
def start (reconciler : Reconciler) (cluster : Scenario) (ready : Bool) : Loop where
  site := { reconciler, cluster, backoff := reconciler.config.backoffStart }
  ready

/-- Looks whether another controller is to follow one that has ended. -/
def afterEnd (s : Site) : Phase :=
  if l.ready then .resting (s.now + s.reconciler.config.restartDelayAfterEnd.slept) else .returned

/-- The loop after one step at the current time, if there is one to take. -/
def step? : Option Loop :=
  match l.phase with
  | .looking => some { l with phase := if l.ready then .controlling {} else .returned }
  | .controlling c =>
    (c.step? l.site).map fun (fate, site) =>
      let phase := match fate with
        | .goesOn c => Phase.controlling c
        | .ended => l.afterEnd site
        | .crashed => .crashed
      { l with site, phase }
  | .resting until_ => if until_ ≤ l.now then some { l with phase := .looking } else none
  | .returned | .crashed => none

/-- When something may be done. -/
def times : List Instant :=
  match l.phase with
  | .controlling c => c.times
  | .resting until_ => [until_]
  | _ => []

/-- When something can be done next. -/
def nextTime? : Option Instant := (l.times.filter (l.now < ·)).min?

def withNow (now : Instant) : Loop :=
  { l with site := { l.site with reconciler := { l.site.reconciler with now } } }

/-- Lets the clock run to a given time. The fuel bounds the number of steps and of moments. -/
def runUntil : Nat → Instant → Loop → Loop
  | 0, _, l => l
  | fuel + 1, time, l =>
    match l.step? with
    | some l => runUntil fuel time l
    | none =>
      match l.nextTime? with
      | some t => if t ≤ time then runUntil fuel time (l.withNow t) else l.withNow time
      | none => l.withNow time

def onController (f : Controller → Controller) : Loop :=
  match l.phase with
  | .controlling c => { l with phase := .controlling (f c) }
  | _ => l

/-- Sends a line over the watch that is open. -/
def sendLine (line : String) : Loop :=
  l.onController fun c => { c with source := { c.source with link := c.source.link.append line } }

/-- Ends the watch that is open. -/
def endWatch : Loop :=
  l.onController fun c => { c with source := { c.source with link := c.source.link.close } }

def signal : Loop :=
  onController { l with ready := l.ready && !l.hooked, hooked := false } (·.signal)

def isOver : Bool :=
  match l.phase with
  | .returned | .crashed => true
  | _ => false

end Loop
end GitDrift.Controller
