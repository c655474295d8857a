import GitDrift.Cluster.Patterns
import GitDrift.Json.Printer

/-!
A server that answers from a script, and keeps a list of the requests that it was sent.
-/
namespace GitDrift.Cluster

structure Script where
  answers : List Answer := []
  /-- The requests, latest first. -/
  requests : List Request := []

namespace Script

/-- The answer when the script has come to its end: a Pattern without content. -/
def defaultAnswer : Answer :=
  let p : Pattern :=
    { metadata := { name := some "default", namespace_ := some "default" }, spec := {} }
  .response 200 p.encode.render

/-- The next answer of the script. -/
def answer (request : Request) (s : Script) : Answer × Script :=
  let requests := request :: s.requests
  match s.answers with
  | a :: answers => (a, ⟨answers, requests⟩)
  | [] => (defaultAnswer, ⟨[], requests⟩)

end Script
end GitDrift.Cluster
