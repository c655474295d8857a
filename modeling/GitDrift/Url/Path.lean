import GitDrift.Text.Blank
import GitDrift.Url.Percent

/-!
Paths of URLs (URL standard, section 4.4): segments between slashes, where `.` means nothing and
`..` takes back the segment before it. A drive letter is never taken back.
-/
namespace GitDrift.Url

open Text

/-- The kinds of schemes that are read in different ways. -/
inductive SchemeKind where
  /-- A scheme of network addresses, such as `https`. -/
  | special
  | file
  | other
deriving DecidableEq

/-- Whether a backslash counts as a slash. -/
def SchemeKind.readsBackslash (k : SchemeKind) : Bool := k ≠ .other

/-- A dot, plain or escaped, at the start of a text. -/
def afterDot? : List Char → Option (List Char)
  | '.' :: s => some s
  | '%' :: '2' :: c :: s => if c = 'e' ∨ c = 'E' then some s else none
  | _ => none

def isSingleDot (segment : List Char) : Bool := afterDot? segment = some []

def isDoubleDot (segment : List Char) : Bool := (afterDot? segment).bind afterDot? = some []

/-- A letter and a colon or a bar. -/
def isDriveLetter : List Char → Bool
  | [a, b] => a.isAlpha && (b = ':' || b = '|')
  | _ => false

/-- Characters that stand for nothing wherever they are. -/
def isPassedOver (c : Char) : Bool := c = '\t' || c = '\n' || c = '\r'

/-- A path while it is read. -/
structure ReadPath where
  segments : List (List Char) := []
  /-- Whether it starts with the drive letter of a file. -/
  hasDrive : Bool := false

/-- A drive letter and what follows it in a segment, if a character that is passed over stands
between the two. -/
def brokenDrive? (segment : List Char) : Option (List Char × List Char) :=
  match segment.dropWhile isPassedOver with
  | a :: rest =>
    match rest.dropWhile isPassedOver with
    | ':' :: rest =>
      let behind := rest.filter fun c => !isPassedOver c
      if a.isAlpha && (rest.head?.map isPassedOver).getD false && !behind.isEmpty then
        some ([a, ':'], behind)
      else none
    | _ => none
  | [] => none

namespace ReadPath

variable (p : ReadPath)

/-- Adds the empty segment behind a last slash. -/
def close (last : Bool) : ReadPath :=
  if last then { p with segments := p.segments ++ [[]] } else p

/-- Takes back the last segment, unless it is a drive letter. -/
def shorten : ReadPath :=
  if (p.segments.getLast?.map isDriveLetter).getD false then p
  else { p with segments := p.segments.dropLast }

/-- Adds a segment as it is written, but a drive letter at the start of a file's path with a
colon. -/
def append (kind : SchemeKind) (segment : List Char) : ReadPath :=
  match segment with
  | [a, _] =>
    if kind = .file && p.segments.isEmpty && isDriveLetter segment then ⟨[[a, ':']], true⟩
    else { p with segments := p.segments ++ [segment] }
  | _ => { p with segments := p.segments ++ [segment] }

/-- Adds a segment of the input; `last` says that no slash follows it. -/
def addSegment (kind : SchemeKind) (last : Bool) (segment : List Char) : ReadPath :=
  match if kind = .file && p.segments.isEmpty then brokenDrive? segment else none with
  | some (drive, behind) => { p with segments := [drive, percentEncode isUnsafeInPath behind] }
  | none =>
    let segment := percentEncode isUnsafeInPath (segment.filter fun c => !isPassedOver c)
    if isDoubleDot segment then p.shorten.close last
    else if isSingleDot segment then p.close last
    else p.append kind segment

/-- Adds segments of the input in turn. -/
def addSegments (kind : SchemeKind) (p : ReadPath) : List (List Char) → ReadPath
  | [] => p
  | [s] => p.addSegment kind true s
  | s :: rest => addSegments kind (p.addSegment kind false s) rest

/-- The path as a text. -/
def text (kind : SchemeKind) : List Char :=
  let path := p.segments.flatMap ('/' :: ·)
  match kind with
  | .file => '/' :: path.dropWhile (· = '/')
  | _ => path

end ReadPath

/-- What is in front of a query or a fragment. -/
def beforeQuery (s : List Char) : List Char := s.takeWhile fun c => c ≠ '?' && c ≠ '#'

/-- The pieces of a path between slashes. -/
def pathPieces (kind : SchemeKind) (s : List Char) : List (List Char) :=
  pieces '/' (if kind.readsBackslash then s.map (fun c => if c = '\\' then '/' else c) else s)

/-- The path that is read from the text behind its first slash. -/
def readPath (kind : SchemeKind) (s : List Char) : ReadPath :=
  ReadPath.addSegments kind {} (pathPieces kind (beforeQuery s))

/-- A path that does not start with a slash behind a scheme is kept whole. -/
def readOpaquePath (s : List Char) : List Char :=
  percentEncode isControlOrBeyond (beforeQuery s)

end GitDrift.Url
