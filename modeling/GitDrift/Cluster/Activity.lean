import GitDrift.Cluster.Answer
import GitDrift.Cluster.Request

/-!
Work that is done while other work goes on: an activity acts on a state that it shares, one action
at a time, and asks the API server. What others do falls between its actions, and between a request
and its answer.
-/
namespace GitDrift.Cluster

inductive Activity (σ α : Type) where
  | done (result : α)
  /-- The activity breaks off and has no result. -/
  | crash
  /-- Changes the state, and goes on with what it saw. -/
  | act (update : σ → σ) (next : σ → Activity σ α)
  /-- Sends a request, and goes on with the answer. -/
  | ask (request : Request) (next : Answer → Activity σ α)

namespace Activity

variable {σ τ α β : Type}

def bind : Activity σ α → (α → Activity σ β) → Activity σ β
  | .done a, f => f a
  | .crash, _ => .crash
  | .act update next, f => .act update fun s => bind (next s) f
  | .ask request next, f => .ask request fun a => bind (next a) f

instance : Monad (Activity σ) where
  pure := .done
  bind := bind

/-- Looks at the state. -/
def look (f : σ → α) : Activity σ α := .act id fun s => .done (f s)

def change (f : σ → σ) : Activity σ Unit := .act f fun _ => .done ()

/-- Changes the state and takes a result from the change. -/
def changeGet (f : σ → α × σ) : Activity σ α := .act (fun s => (f s).2) fun s => .done (f s).1

/-- Sends a request. -/
def request (r : Request) : Activity σ Answer := .ask r .done

/-- The actions up to the next request, or to the end. -/
def advance : Activity σ α → σ → Activity σ α × σ
  | .done a, s => (.done a, s)
  | .crash, s => (.crash, s)
  | .act update next, s => advance (next s) (update s)
  | .ask request next, s => (.ask request next, s)

/-- Does all the work at once, with a server that has a state of its own. -/
def run (answer : Request → τ → Answer × τ) : Activity σ α → σ → τ → Option α × σ × τ
  | .done a, s, t => (some a, s, t)
  | .crash, s, t => (none, s, t)
  | .act update next, s, t => run answer (next s) (update s) t
  | .ask request next, s, t =>
    let (a, t) := answer request t
    run answer (next a) s t

end Activity
end GitDrift.Cluster
