import GitDrift.Cluster.Answer
import GitDrift.Cluster.Patterns
import GitDrift.Controller.Event
import GitDrift.Text.Utf8

/-!
Learning about all Patterns: they are listed page by page, and then watched from the version of the
list. A watch that ends goes on from the last version that was told of. What went wrong is told
like any event, and it is tried again; only when the server has forgotten the version, or told
none, does it start over with a list.
-/
namespace GitDrift.Controller

open Cluster Text

/-- What is done next. -/
inductive Stage where
  | starting
  /-- A page is asked for, by a token unless it is the first. -/
  | paging (token : Option String)
  /-- A watch from a version is to be opened. -/
  | listed (version : String)
  | watching (version : String)
deriving DecidableEq

/-- What goes wrong while Patterns are listed and watched. -/
inductive InformerError where
  | listFailed (f : Failure)
  | watchNotStarted (f : Failure)
  /-- The server told of an error. -/
  | watchError (r : Refusal)
  | watchFailed (f : Failure)
  | noResourceVersion
deriving DecidableEq

def InformerError.diagnostic : InformerError → Diagnostic
  | .listFailed f => .applied "InitialListFailed" [f.diagnostic]
  | .watchNotStarted f => .applied "WatchStartFailed" [f.diagnostic]
  | .watchError r => .applied "WatchError" [r.diagnostic]
  | .watchFailed f => .applied "WatchFailed" [f.diagnostic]
  | .noResourceVersion => .word "NoResourceVersion"

/-- What is told. -/
inductive Notice where
  /-- A new list begins. -/
  | restarted
  | listed (p : Pattern)
  /-- The new list is complete. -/
  | complete
  | applied (p : Pattern)
  | deleted (p : Pattern)
  | failed (e : InformerError)

/-- The Pattern that a notice asks to be reconciled. -/
def Notice.trigger? : Notice → Option ObjectKey
  | .listed p | .applied p => some (keyOf p)
  | _ => none

/-- Whether a notice tells of a Pattern that cannot be known by its name. -/
def Notice.isNameless : Notice → Bool
  | .listed p | .applied p | .deleted p => p.metadata.name.isNone
  | _ => false

/-- Notices, in their order, and the stage behind them. -/
abbrev Told := List Notice × Stage

/-- A parameter of a query. -/
def parameter (name value : String) : String :=
  name ++ "=" ++ String.ofList ((encode value.toList).flatMap Target.parameterByte)

/-- The request for a page. -/
def listRequest (token : Option String) : Request :=
  let parameters := parameter "limit" "500" :: (token.map (parameter "continue")).toList
  ⟨.get, ⟨Patterns.collectionPath, "&".intercalate parameters⟩, none⟩

/-- The request for a watch from a version. -/
def watchRequest (version : String) : Request :=
  let parameters := [parameter "watch" "true", parameter "timeoutSeconds" "290",
    parameter "allowWatchBookmarks" "true", parameter "resourceVersion" version]
  ⟨.get, ⟨Patterns.collectionPath, "&".intercalate parameters⟩, none⟩

/-- What the answer to the request for a page tells. -/
def tellPage (answer : Answer) : Told :=
  match answer.read Page.decode with
  | .error f => ([.failed (.listFailed f)], .starting)
  | .ok page =>
    let items := page.items.map Notice.listed
    match page.token, page.version with
    | some token, _ => (items, .paging (some token))
    | none, some version => (items ++ [.complete], .listed version)
    | none, none => ([.failed .noResourceVersion], .starting)

/-- What an event of a watch tells. -/
def tellEvent (version : String) : Event → Told
  | .applied p =>
    match someVersion p.metadata.resourceVersion with
    | some version => ([.applied p], .watching version)
    | none => ([.failed .noResourceVersion], .starting)
  | .deleted p =>
    match someVersion p.metadata.resourceVersion with
    | some version => ([.deleted p], .watching version)
    | none => ([.failed .noResourceVersion], .starting)
  | .bookmark version => ([], .watching version)
  | .error r => ([.failed (.watchError r)], if r.code = 410 then .starting else .watching version)

/-- What a line of a watch tells. A line that is cut off tells nothing, and one that is no event
may be a refusal. -/
def tellLine (version : String) (line : String) : Told :=
  let failed (f : Failure) : Told := ([.failed (.watchFailed f)], .watching version)
  match Json.readText Event.reader line with
  | .ok e => tellEvent version e
  | .error e =>
    if e.fault.isCutOff then ([], .watching version)
    else
      match Json.readText Refusal.decode.reader line with
      | .ok r => failed (.refused r)
      | .error _ => failed (.undecodable e)

end GitDrift.Controller
