import GitDrift.Time.Clock

/-!
Readiness over time: a server that was made ready stays so until a signal arrives.
-/
namespace GitDrift.Probe

structure Readiness where
  ready : Bool := false
  now : Instant := 0
  /-- When signals arrive that are under way. -/
  signals : List Instant := []

namespace Readiness

variable (r : Readiness)

/-- A signal will arrive after a span of time. -/
def expectSignal (delay : Span) : Readiness := { r with signals := (r.now + delay) :: r.signals }

/-- Lets time go by. -/
def wait (d : Span) : Readiness where
  ready := r.ready && r.signals.all (r.now + d < ·)
  now := r.now + d
  signals := r.signals.filter (r.now + d < ·)

end Readiness
end GitDrift.Probe
