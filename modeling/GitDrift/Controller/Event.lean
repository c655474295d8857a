import GitDrift.Cluster.Failure
import GitDrift.Pattern

/-!
What an API server tells about all Patterns: lists of them, in one page or several, and the events
of a watch.
-/
namespace GitDrift.Controller

open Cluster Json

/-- What tells the objects of a cluster apart. An empty namespace is not the same as none. -/
structure ObjectKey where
  name : String
  namespace_ : Option String
deriving DecidableEq

/-- The key of a Pattern, as the server knows it. -/
def keyOf (p : Pattern) : ObjectKey := ⟨p.metadata.name.getD "", p.metadata.namespace_⟩

/-- A version that is there. -/
def someVersion (s : Option String) : Option String := s.filter (· ≠ "")

/-- A page of a list. -/
structure Page where
  items : List Pattern := []
  /-- The version of the list, from which a watch goes on. -/
  version : Option String := none
  /-- What the next page is asked for with, if there is one. -/
  token : Option String := none

namespace Page

/-- A page of which only the metadata of the list are known. -/
def metadataType : RecordType Page where
  name := "ListMeta"
  form := .lenient
  blank := {}
  fields := [
    field "continue" (Decoder.optional Decoder.string) fun p s => { p with token := someVersion s },
    field "remainingItemCount" (Decoder.optional Decoder.int64) fun p _ => p,
    field "resourceVersion" (Decoder.optional Decoder.string)
      fun p s => { p with version := someVersion s },
    field "selfLink" (Decoder.optional Decoder.string) fun p _ => p]

def recordType : RecordType Page where
  name := "ObjectList"
  form := .flat fun p _ => .ok p
  blank := {}
  fields := [
    field "metadata" metadataType.decoder fun p m => { m with items := p.items },
    field "items" (Decoder.optional (Decoder.list Pattern.decode))
      (fun p items => { p with items := items.getD [] }) .required]

def decode : Decoder Page := recordType.decoder

end Page

/-- What a server says in a bookmark: the version that it is of, and of which type it is. -/
structure Bookmark where
  version : String := ""
  apiVersion : String := ""
  kind : String := ""

namespace Bookmark

/-- A bookmark of which only the version is known. -/
def metadataType : RecordType Bookmark where
  name := "BookmarkMeta"
  blank := {}
  fields := [
    field "resourceVersion" Decoder.string (fun b s => { b with version := s }) .required,
    field "annotations" (Decoder.fieldsOf Decoder.string) fun b _ => b]

/-- What the fields beside the metadata add to a bookmark. -/
def typeType (b : Bookmark) : RecordType Bookmark where
  name := "TypeMeta"
  blank := b
  fields := [
    field "apiVersion" Decoder.string (fun b s => { b with apiVersion := s }) .required,
    field "kind" Decoder.string (fun b s => { b with kind := s }) .required]

def recordType : RecordType Bookmark where
  name := "Bookmark"
  form := .flat fun b others => (typeType b).decodeFields others
  blank := {}
  fields := [field "metadata" metadataType.decoder (fun _ m => m) .required]

def decode : Decoder Bookmark := recordType.decoder

end Bookmark

/-- An event of a watch. -/
inductive Event where
  | applied (p : Pattern)
  | deleted (p : Pattern)
  /-- Everything up to a version has been told. -/
  | bookmark (version : String)
  | error (r : Refusal)

inductive EventType where
  | added
  | modified
  | deleted
  | bookmark
  | error
deriving DecidableEq

namespace EventType

def name : EventType → String
  | added => "ADDED"
  | modified => "MODIFIED"
  | deleted => "DELETED"
  | bookmark => "BOOKMARK"
  | error => "ERROR"

def all : List EventType := [added, modified, deleted, bookmark, error]

def decode : Decoder EventType := Decoder.variant (all.map fun t => (t.name, t))

/-- The event of a type that an object stands for. -/
def object : EventType → Decoder Event
  | added | modified => Pattern.decode.map .applied
  | deleted => Pattern.decode.map .deleted
  | bookmark => Bookmark.decode.map fun b => .bookmark b.version
  | error => Refusal.decode.map .error

end EventType

namespace Event

def expected : String := "adjacently tagged enum WatchEvent"

/-- The parts of an event. -/
inductive Part where
  | type
  | object
deriving DecidableEq

def Part.name : Part → String
  | type => "type"
  | object => "object"

/-- Reads up to the name of a part. Other fields are passed over; their number is bounded by the
fuel. -/
def nextPartFrom : Nat → Bool → Reader (Option Part)
  | 0, _ => Reader.fault .openObject
  | fuel + 1, first => do
    match ← nextKey? first with
    | none => return none
    | some "type" => return some .type
    | some "object" => return some .object
    | some _ =>
      readColon
      skipValue
      nextPartFrom fuel false

def nextPart (first : Bool) : Reader (Option Part) := do
  nextPartFrom (← get).bound first

def faultOf (e : DecodeError) : Reader α := faultAtEnd curly e.fault

/-- The fault of a part that is missing, or there again. -/
def unexpectedPart (missing : Part) : Option Part → Reader α
  | none => faultOf (.missingField missing.name)
  | some part => faultOf (.duplicateField part.name)

/-- Reads an event that is an object. Its type says what its object is, which has to wait when it
comes first. -/
def readObject : Reader Event :=
  Reader.enclosed do
    let event ← match ← nextPart true with
      | none => faultOf (.missingField Part.type.name)
      | some .type =>
        readColon
        let type ← EventType.decode.reader
        match ← nextPart false with
        | some .object =>
          readColon
          type.object.reader
        | other => unexpectedPart .object other
      | some .object =>
        readColon
        let object ← readValue
        match ← nextPart false with
        | some .type =>
          readColon
          match (← EventType.decode.reader).object object with
          | .ok event => pure event
          | .error e => faultOf e
        | other => unexpectedPart .type other
    match ← nextPart false with
    | some part => faultOf (.duplicateField part.name)
    | none =>
      Reader.next
      return event

/-- Reads an event that is an array of its type and its object. -/
def readArray : Reader Event :=
  Reader.enclosed do
    let short (length : Nat) : Reader Event :=
      faultAtEnd square (DecodeError.invalidLength length expected).fault
    if !(← nextItem true) then short 0
    else
      let type ← EventType.decode.reader
      if !(← nextItem false) then short 1
      else
        let event ← type.object.reader
        readArrayEnd
        return event

def reader : Reader Event :=
  readBy expected fun
    | '\x7b' => some readObject
    | '[' => some readArray
    | _ => none

end Event
end GitDrift.Controller
