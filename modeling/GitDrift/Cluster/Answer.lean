import GitDrift.Cluster.Failure

/-!
Answers of an API server, and what is read from them.
-/
namespace GitDrift.Cluster

open Json

inductive Answer where
  /-- The connection failed. -/
  | failed
  | response (status : Nat) (body : String)
deriving DecidableEq, Inhabited

/-- Statuses that say that a request was refused. -/
def isRefusal (status : Nat) : Bool := 400 ≤ status && status < 600

/-- What a refusal says; a body that says nothing leaves the number of the status, here without the
phrase that goes with it. -/
def Refusal.ofBody (status : Nat) (body : String) : Refusal :=
  match readText Refusal.decode.reader body with
  | .ok r => r
  | .error _ => ⟨Text.ofNat status, Text.quote body, "Failed to parse error data", status⟩

/-- The value that an answer holds. -/
def Answer.read (d : Decoder α) : Answer → Except Failure α
  | .failed => .error .connection
  | .response status body =>
    if isRefusal status then .error (.refused (.ofBody status body))
    else (readText d.reader body).mapError .undecodable

end GitDrift.Cluster
