import GitDrift.Metrics.Exposition

/-!
The server that answers probes. It is live whenever it answers, and ready from the moment that it
is bound to its address until the operator is told to stop. Metrics are read from it too.
-/
namespace GitDrift.Probe

structure Response where
  status : Nat
  contentType : Option String := none
  /-- The methods that a path allows, when the request's method is none of them. -/
  allow : Option String := none
  body : List String := []

/-- What follows the authority of an absolute target; nothing for a target that has no path. -/
def afterAuthority (target : List Char) : List Char :=
  match target.dropWhile (· ≠ ':') with
  | ':' :: '/' :: '/' :: rest =>
    match rest.dropWhile (· ≠ '/') with
    | [] => ['/']
    | path => path
  | _ => []

/-- The path of a request's target: what comes before a query or a fragment. -/
def pathOf (target : String) : String :=
  let cs := target.toList.takeWhile fun c => c ≠ '?' && c ≠ '#'
  String.ofList (if cs.head? = some '/' then cs else afterAuthority cs)

/-- What is found at a path. -/
def page (ready : Bool) (m : Metrics) (path : String) : Option Response :=
  match path with
  | "/healthz" => some ⟨200, none, none, []⟩
  | "/readyz" => some ⟨if ready then 200 else 503, none, none, []⟩
  | "/metrics" => some ⟨200, some "text/plain; version=0.0.4; charset=utf-8", none, m.exposition⟩
  | _ => none

/-- The answer to a request. A `HEAD` request is answered like a `GET` request, without the
body. -/
def respond (ready : Bool) (m : Metrics) (method target : String) : Response :=
  match page ready m (pathOf target) with
  | none => ⟨404, none, none, []⟩
  | some r =>
    if method = "GET" then r
    else if method = "HEAD" then { r with body := [] }
    else ⟨405, none, some "GET,HEAD", []⟩

/-- Why a server did not start. -/
inductive BindError where
  | addressInUse
deriving DecidableEq

def BindError.message : BindError → String
  | .addressInUse => "Address already in use (os error 98)"

/-- Binds the server to its address; it is ready from then on. -/
def bind (addressFree : Bool) : Except BindError Bool :=
  if addressFree then .ok true else .error .addressInUse

end GitDrift.Probe
