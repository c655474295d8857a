import GitDrift.Cluster.Patterns
import GitDrift.Json.Printer
import GitDrift.Text.Lines
import GitDrift.Time.Clock

/-!
A cluster that follows a scenario: what it answers to the next lists, watches and patches, and
after what time. When the scenario has come to its end, a list holds the Patterns that are there, a
watch stays open without events, and a patch is answered with a Pattern without content.
-/
namespace GitDrift.Cluster

open Json

/-- What a request is answered with. -/
inductive Content where
  | body (status : Nat) (text : String)
  /-- Events, one on a line, after which the answer may end. -/
  | events (lines : List String) (ends : Bool)

structure Reply where
  latency : Span := 0
  /-- None for what is answered without a scenario. -/
  content : Option Content := none

structure Scenario where
  items : List Json := []
  lists : List Reply := []
  watches : List Reply := []
  patches : List Reply := []

namespace Scenario

variable (s : Scenario)

/-- The scenario goes on with the replies of another one, and with the given Patterns if any are
given. -/
def extend (items : Option (List Json)) (more : Scenario) : Scenario where
  items := items.getD s.items
  lists := s.lists ++ more.lists
  watches := s.watches ++ more.watches
  patches := s.patches ++ more.patches

/-- The list of the Patterns that are there. -/
def itemList : String :=
  render (.obj [("apiVersion", .str Pattern.apiVersion), ("items", .arr s.items),
    ("kind", .str "PatternList"), ("metadata", .obj [("resourceVersion", .str "1")])])

/-- A Pattern without content. -/
def blankPattern : String :=
  let p : Pattern :=
    { metadata := { name := some "default", namespace_ := some "default" }, spec := {} }
  p.encode.render

/-- The lines of an answer. -/
def linesOf (text : String) : List String := (Text.lines text.toList).map String.ofList

/-- The next reply of a list of replies, and the others. -/
def takeReply : List Reply → Reply × List Reply
  | [] => ({}, [])
  | r :: rs => (r, rs)

/-- The answer that a reply stands for. -/
def answerOf (content : Option Content) (standard : String) : Answer :=
  match content with
  | some (.body status text) => .response status text
  | _ => .response 200 standard

/-- The answer to a list, and when it comes. -/
def answerList : (Span × Answer) × Scenario :=
  let (r, lists) := takeReply s.lists
  ((r.latency, answerOf r.content s.itemList), { s with lists })

/-- The answer to a patch, and when it comes. -/
def answerPatch : (Span × Answer) × Scenario :=
  let (r, patches) := takeReply s.patches
  ((r.latency, answerOf r.content blankPattern), { s with patches })

/-- The answer to a request about a Pattern, and when it comes. -/
def answer (r : Request) : (Span × Answer) × Scenario :=
  match r.method with
  | .get => s.answerList
  | .patch => s.answerPatch

/-- The lines of a watch, whether it ends behind them, and when it opens. -/
def answerWatch : (Span × List String × Bool) × Scenario :=
  let (r, watches) := takeReply s.watches
  let (lines, ends) := match r.content with
    | some (.body _ text) => (linesOf text, true)
    | some (.events lines ends) => (lines, ends)
    | none => ([], false)
  ((r.latency, lines, ends), { s with watches })

end Scenario
end GitDrift.Cluster
