import GitDrift.Git.Listing
import GitDrift.Text.Utf8

/-!
Lists a remote's references through the git program: the command that is run, and what its outcome
means.
-/
namespace GitDrift.Git

/-- A remote and the addresses that it can be reached at. -/
structure Remote where
  name : String
  urls : List String
deriving DecidableEq

/-- A program run: arguments, and variables set beside the inherited environment. -/
structure Command where
  arguments : List String
  environment : List (String × String)
deriving DecidableEq

/-- How a run ended. -/
inductive Outcome where
  /-- The program could not be started; `cause` is the system's reason. -/
  | notStarted (cause : String)
  | ended (success : Bool) (stdout stderr : List Nat)

/-- Runs a command. A text that holds a NUL cannot be handed over, and then nothing is started. -/
def Command.run (c : Command) (run : Command → Outcome) : Outcome :=
  if c.arguments.any (·.toList.contains '\x00') then .notStarted "nul byte found in provided data"
  else run c

/-- The command that lists a remote at an address. It never asks for credentials. -/
def listCommand (url : String) : Command where
  arguments := ["ls-remote", "--symref", url]
  environment := [("GIT_TERMINAL_PROMPT", "0")]

/-- The references that a run of `listCommand url` found. -/
def listed (url : String) : Outcome → Except GitError (List Reference)
  | .notStarted cause => .error (.spawn url cause)
  | .ended false _ stderr =>
    .error (.commandFailed url (String.ofList (Text.trim (Text.decodeLossy stderr))))
  | .ended true stdout _ => Listing.parse (Text.decodeLossy stdout)

/-- Lists a remote at its first address; `run` runs a command for that address. -/
def Remote.list (remote : Remote) (run : Command → Outcome) : Except GitError (List Reference) :=
  match remote.urls with
  | [] => .error (.noUrls remote.name)
  | url :: _ => listed url ((listCommand url).run run)

end GitDrift.Git
