import GitDrift.Pattern.Spec

/-!
What is reported about a Pattern: the last step that was taken, its error, and conditions.
-/
namespace GitDrift

open Json

inductive ConditionType where
  | gitOutOfSync
  | gitInSync
  | synced
  | outOfSync
  | unknown
  | degraded
  | progressing
  | missing
  | suspended
deriving DecidableEq, Inhabited

namespace ConditionType

def name : ConditionType → String
  | gitOutOfSync => "GitOutOfSync"
  | gitInSync => "GitInSync"
  | synced => "Synced"
  | outOfSync => "OutOfSync"
  | unknown => "Unknown"
  | degraded => "Degraded"
  | progressing => "Progressing"
  | missing => "Missing"
  | suspended => "Suspended"

def all : List ConditionType :=
  [gitOutOfSync, gitInSync, synced, outOfSync, unknown, degraded, progressing, missing, suspended]

instance : ToString ConditionType := ⟨name⟩

/-- Whether the type says how the two repositories compare. At most one condition of these types
is true. -/
def isGitSync : ConditionType → Bool
  | gitInSync | gitOutOfSync => true
  | _ => false

def decode : Decoder ConditionType := Decoder.variant (all.map fun t => (t.name, t))

end ConditionType

inductive ConditionStatus where
  | true
  | false
  | unknown
deriving DecidableEq, Inhabited

namespace ConditionStatus

def name : ConditionStatus → String
  | .true => "True"
  | .false => "False"
  | .unknown => "Unknown"

def all : List ConditionStatus := [.true, .false, .unknown]

def decode : Decoder ConditionStatus := Decoder.variant (all.map fun s => (s.name, s))

end ConditionStatus

/-- A typed statement about a Pattern. Times are in RFC 3339. -/
structure Condition where
  type : ConditionType
  status : ConditionStatus
  lastUpdateTime : String
  lastTransitionTime : String := ""
  message : String := ""
deriving DecidableEq, Inhabited

def Condition.encode (c : Condition) : Json :=
  .obj (textField "lastTransitionTime" c.lastTransitionTime ++
    [("lastUpdateTime", .str c.lastUpdateTime)] ++ textField "message" c.message ++
    [("status", .str c.status.name), ("type", .str c.type.name)])

def Condition.recordType : RecordType Condition where
  name := "PatternCondition"
  blank := ⟨.unknown, .unknown, "", "", ""⟩
  fields := [
    field "type" ConditionType.decode (fun c v => { c with type := v }) .required,
    field "status" ConditionStatus.decode (fun c v => { c with status := v }) .required,
    field "lastUpdateTime" Decoder.string (fun c v => { c with lastUpdateTime := v }) .required,
    field "lastTransitionTime" Decoder.string fun c v => { c with lastTransitionTime := v },
    field "message" Decoder.string fun c v => { c with message := v }]

def Condition.decode : Decoder Condition := Condition.recordType.decoder

structure PatternStatus where
  lastStep : Option String := none
  lastError : Option String := none
  version : Option Int := none
  conditions : List Condition := []
deriving DecidableEq, Inhabited

/-- A field that is left out when it has no value. -/
def optionalField (name : String) (write : α → Json) : Option α → Fields
  | none => []
  | some a => [(name, write a)]

/-- A condition list as it is written. -/
def encodeConditions (conditions : List Condition) : Json := .arr (conditions.map Condition.encode)

def PatternStatus.encode (s : PatternStatus) : Json :=
  .obj ((if s.conditions = [] then [] else [("conditions", encodeConditions s.conditions)]) ++
    optionalField "lastError" .str s.lastError ++ optionalField "lastStep" .str s.lastStep ++
    optionalField "version" .int s.version)

def PatternStatus.recordType : RecordType PatternStatus where
  name := "PatternStatus"
  blank := {}
  fields := [
    field "lastStep" (Decoder.optional Decoder.string) fun s v => { s with lastStep := v },
    field "lastError" (Decoder.optional Decoder.string) fun s v => { s with lastError := v },
    field "version" (Decoder.optional Decoder.int64) fun s v => { s with version := v },
    field "conditions" (Decoder.list Condition.decode) fun s v => { s with conditions := v }]

def PatternStatus.decode : Decoder PatternStatus := PatternStatus.recordType.decoder

end GitDrift
