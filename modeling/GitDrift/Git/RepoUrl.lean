import GitDrift.Url

/-!
Addresses of git repositories. Two shapes are known: absolute `http` and `https` URLs, and the form
`git@host:org/repo.git` that ssh uses.
-/
namespace GitDrift.Git

open Text

/-- What is wrong with a repository's address. -/
inductive RepoUrlError where
  | unsupportedScheme (url : String)
  | invalidSsh (url : String)
  | parse (url : String) (reason : Url.ParseError)
  | emptyHostname (url : String)
deriving DecidableEq

def RepoUrlError.message : RepoUrlError → String
  | .unsupportedScheme url =>
    "repository URL must be either http/https or start with git@ when using ssh authentication: "
      ++ url
  | .invalidSsh url => "invalid ssh git URL: " ++ url
  | .parse url reason => "error parsing URL " ++ url ++ ": " ++ reason.message
  | .emptyHostname url => "error parsing URL (empty hostname): " ++ url

namespace RepoUrl

/-- What every address of the ssh form starts with. -/
def sshMark : List Char := ['g', 'i', 't', '@']

/-- The end of a path that is no part of the repository's name. -/
def gitSuffix : List Char := ['.', 'g', 'i', 't']

/-- Only addresses of the two known shapes are accepted, by their first characters. -/
def validate (url : String) : Except RepoUrlError Unit :=
  let s := url.toList
  if sshMark.isPrefixOf s || "https://".toList.isPrefixOf s || "http://".toList.isPrefixOf s then
    .ok ()
  else .error (.unsupportedScheme url)

def parseAbsolute (url : String) : Except RepoUrlError Url :=
  (Url.parse url.toList).mapError (.parse url)

def dropSlashes (path : List Char) : List Char := dropEndWhile (· = '/') path

/-- The name in the ssh form: the suffix is dropped from the path, then the last segment counts. -/
def nameOfSshPath (path : List Char) : List Char :=
  let path := dropSlashes path
  afterLast '/' ((beforeEnd? gitSuffix path).getD path)

/-- The name in a URL's path: the last segment, whose suffix is dropped unless it is all there
is. -/
def nameOfUrlPath (path : List Char) : List Char :=
  let name := afterLast '/' (dropSlashes path)
  match beforeEnd? gitSuffix name with
  | none | some [] => name
  | some stripped => stripped

/-- The path of an address of the ssh form, which has exactly one colon. -/
def sshPath? (s : List Char) : Option (List Char) :=
  match pieces ':' s with
  | [_, path] => some path
  | _ => none

/-- The name of the repository at an address. -/
def repositoryName (url : String) : Except RepoUrlError String :=
  if sshMark.isPrefixOf url.toList then
    match sshPath? url.toList with
    | some path => .ok (String.ofList (nameOfSshPath path))
    | none => .error (.invalidSsh url)
  else (parseAbsolute url).map fun u => String.ofList (nameOfUrlPath u.path)

/-- Whether three slashes follow a scheme, which leaves no room for a host. -/
def hasEmptyAuthority : List Char → Bool
  | ':' :: '/' :: '/' :: s => s.head? = some '/'
  | _ :: s => hasEmptyAuthority s
  | [] => false

/-- The name of the host at an address. -/
def hostname (url : String) : Except RepoUrlError String :=
  match afterStart? sshMark url.toList with
  | some rest =>
    if rest.contains '@' then .error (.invalidSsh url)
    else
      match rest.takeWhile (· ≠ ':') with
      | [] => .error (.emptyHostname url)
      | host => .ok (String.ofList host)
  | none =>
    if hasEmptyAuthority url.toList then .error (.emptyHostname url)
    else
      (parseAbsolute url).bind fun u =>
        match u.host with
        | some host => .ok (String.ofList host)
        | none => .error (.emptyHostname url)

end RepoUrl
end GitDrift.Git
