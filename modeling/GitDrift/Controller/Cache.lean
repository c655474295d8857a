import GitDrift.Controller.Informer

/-!
The Patterns that are known. A new list is gathered beside the old one and takes its place when it
is complete.
-/
namespace GitDrift.Controller

/-- Patterns by key. -/
abbrev Objects := List (ObjectKey × Pattern)

def Objects.put (p : Pattern) (os : Objects) : Objects :=
  (keyOf p, p) :: os.filter (·.1 ≠ keyOf p)

structure Cache where
  objects : Objects := []
  /-- The list that is being gathered. -/
  incoming : Objects := []
  /-- Whether there has been a complete list. -/
  ready : Bool := false

namespace Cache

variable (c : Cache)

def get? (key : ObjectKey) : Option Pattern := (c.objects.find? (·.1 = key)).map Prod.snd

/-- The cache after a notice. -/
def learn : Notice → Cache
  | .restarted => { c with incoming := [] }
  | .listed p => { c with incoming := c.incoming.put p }
  | .complete => { objects := c.incoming, incoming := [], ready := true }
  | .applied p => { c with objects := c.objects.put p }
  | .deleted p => { c with objects := c.objects.filter (·.1 ≠ keyOf p) }
  | .failed _ => c

end Cache

end GitDrift.Controller
