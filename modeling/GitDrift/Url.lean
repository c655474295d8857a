import GitDrift.Url.Host
import GitDrift.Url.Path

/-!
Absolute URLs (URL standard, section 4.4), as far as repositories need them: scheme, host and path.
User, port, query and fragment are checked and left out.
-/
namespace GitDrift

open Text

/-- An absolute URL. There is no host in one that is only a scheme and a path, and none in one whose
host is empty. -/
structure Url where
  scheme : List Char
  host : Option (List Char)
  path : List Char
deriving DecidableEq

namespace Url

/-- A URL's text without blanks and controls around it. -/
def trimmed (s : List Char) : List Char :=
  let isOuter (c : Char) : Bool := c.toNat ≤ 0x20
  dropEndWhile isOuter (s.dropWhile isOuter)

/-- A text without the characters in it that stand for nothing. -/
def clean (s : List Char) : List Char := s.filter fun c => !isPassedOver c

def isSchemeChar (c : Char) : Bool := c.isAlphanum || c = '+' || c = '-' || c = '.'

/-- The scheme in lower case and what follows its colon. -/
def scheme? (s : List Char) : Option (List Char × List Char) :=
  match s with
  | c :: _ =>
    if c.isAlpha then
      match s.span isSchemeChar with
      | (scheme, ':' :: rest) => some (scheme.map Char.toLower, rest)
      | _ => none
    else none
  | [] => none

/-- The schemes of network addresses. -/
def specialSchemes : List String := ["http", "https", "ws", "wss", "ftp"]

def kindOf (scheme : List Char) : SchemeKind :=
  if scheme = "file".toList then .file
  else if specialSchemes.contains (String.ofList scheme) then .special
  else .other

/-- Whether a character ends the part of a URL that holds user, host and port. -/
def endsAuthority (kind : SchemeKind) (c : Char) : Bool :=
  c = '/' || c = '?' || c = '#' || (c = '\\' && kind.readsBackslash)

/-- The text in front of the last `@`, and the text behind it. -/
def cutAtLastAt? (s : List Char) : Option (List Char × List Char) :=
  (cutAt? '@' s.reverse).map fun (after, before) => (before.reverse, after.reverse)

/-- Where the host ends: at a colon outside of brackets. -/
def spanHost (inBrackets : Bool) : List Char → List Char × List Char
  | [] => ([], [])
  | c :: s =>
    if c = ':' ∧ !inBrackets then ([], c :: s)
    else
      let inBrackets := if c = '[' then true else if c = ']' then false else inBrackets
      let (host, rest) := spanHost inBrackets s
      (c :: host, rest)

/-- What follows a port, which is a number below `2 ^ 16` or nothing. A backslash ends a port in
every scheme. -/
def skipPort (n : Nat) : List Char → Except ParseError (List Char)
  | [] => .ok []
  | c :: s =>
    match digit? c with
    | some d => if 10 * n + d < 0x10000 then skipPort (10 * n + d) s else .error .invalidPort
    | none =>
      if c = '/' ∨ c = '\\' ∨ c = '?' ∨ c = '#' then .ok (c :: s) else .error .invalidPort

/-- What follows the host, without a port. -/
def afterPort : List Char → Except ParseError (List Char)
  | ':' :: s => skipPort 0 s
  | s => .ok s

/-- The path behind host and port. -/
def pathAfterHost (kind : SchemeKind) (s : List Char) : List Char :=
  match s with
  | [] => if kind = .other then [] else (readPath kind []).text kind
  | c :: rest =>
    if c = '/' ∨ (c = '\\' ∧ kind.readsBackslash) then (readPath kind rest).text kind
    else if kind = .other ∧ (c = '?' ∨ c = '#') then []
    else (readPath kind (c :: rest)).text kind

/-- A host, or none for an empty one. -/
def host? (kind : SchemeKind) (s : List Char) : Except ParseError (Option (List Char)) :=
  if s = [] then (if kind = .special then .error .emptyHost else .ok none)
  else (if kind = .special then domainHost s else opaqueHost s).map some

/-- User, host, port and path: what follows a scheme and two slashes. -/
def afterSlashes (scheme : List Char) (kind : SchemeKind) (s : List Char) :
    Except ParseError Url := do
  let authority := s.takeWhile fun c => !endsAuthority kind c
  let tail := s.dropWhile fun c => !endsAuthority kind c
  let (user, hostPort) := match cutAtLastAt? authority with
    | some (user, hostPort) => (some user, hostPort)
    | none => (none, authority)
  if user = some [] ∧ hostPort = [] ∧ tail ≠ [] then throw .emptyHost
  let (hostText, port) := spanHost false hostPort
  let host ← host? kind hostText
  if host = none ∧ port ≠ [] then throw .emptyHost
  let rest ← afterPort (port ++ tail)
  if host = none ∧ user ≠ none ∧ user ≠ some [] ∧ user ≠ some [':'] then throw .emptyHost
  return ⟨scheme, host, pathAfterHost kind rest⟩

/-- The host of a file URL. This machine's own is not kept. -/
def fileHost? (s : List Char) : Except ParseError (Option (List Char)) :=
  if s = [] then .ok none
  else (domainHost s).map fun host => if host = "localhost".toList then none else some host

def isSlash (c : Char) : Bool := c = '/' || c = '\\'

/-- What follows a slash, if the text starts with one. -/
def afterSlash? (s : List Char) : Option (List Char) :=
  match s.dropWhile isPassedOver with
  | c :: rest => if isSlash c then some rest else none
  | [] => none

/-- A file URL with a path and without a host. -/
def ofFilePath (s : List Char) : Url := ⟨"file".toList, none, (readPath .file s).text .file⟩

/-- What follows two slashes in a file URL. A host in front of a drive letter is not kept. -/
def afterFileSlashes (s : List Char) : Except ParseError Url := do
  let hostText := clean (s.takeWhile fun c => !endsAuthority .file c)
  let tail := s.dropWhile fun c => !endsAuthority .file c
  if isDriveLetter hostText then return ofFilePath s
  match ← fileHost? hostText with
  | none => return ofFilePath tail
  | some host =>
    let path := readPath .file ((afterSlash? tail).getD tail)
    return ⟨"file".toList, if path.hasDrive then none else some host, path.text .file⟩

/-- What follows the scheme of a file URL. -/
def afterFileScheme (s : List Char) : Except ParseError Url :=
  match afterSlash? s with
  | none => .ok (ofFilePath s)
  | some rest =>
    match afterSlash? rest with
    | none => .ok (ofFilePath rest)
    | some rest => afterFileSlashes rest

/-- What is left when so many characters have been read that stand for something. -/
def dropRead : Nat → List Char → List Char
  | 0, s => s
  | _, [] => []
  | n + 1, c :: s => if isPassedOver c then dropRead (n + 1) s else dropRead n s

/-- Reads an absolute URL. -/
def parse (s : List Char) : Except ParseError Url :=
  match scheme? (clean (trimmed s)) with
  | none => .error .relativeWithoutBase
  | some (scheme, rest) =>
    match kindOf scheme with
    | .file => afterFileScheme (dropRead (scheme.length + 1) (trimmed s))
    | .special => afterSlashes scheme .special (rest.dropWhile isSlash)
    | .other =>
      match rest with
      | '/' :: '/' :: rest => afterSlashes scheme .other rest
      | '/' :: rest => .ok ⟨scheme, none, (readPath .other rest).text .other⟩
      | rest => .ok ⟨scheme, none, readOpaquePath rest⟩

end Url
end GitDrift
