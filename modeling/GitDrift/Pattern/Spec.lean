import GitDrift.Json.Record

/-!
What is asked of a Pattern: the git repositories that it is deployed from, and how often the one is
compared with the other.
-/
namespace GitDrift

open Json

/-- The repositories of a Pattern. The target is what is deployed; the origin is what the target
was forked from. -/
structure GitConfig where
  targetRepo : String := ""
  targetRevision : String := ""
  originRepo : String := ""
  originRevision : String := ""
  /-- Seconds between two comparisons; `-1` turns them off. -/
  pollInterval : Int := 0
  hostname : String := ""
deriving DecidableEq, Inhabited

/-- The poll interval that turns comparisons off. -/
def pollingDisabled : Int := -1

/-- Both repositories are known and polling is not turned off. -/
def GitConfig.qualifies (c : GitConfig) : Bool :=
  c.originRepo ≠ "" && c.targetRepo ≠ "" && c.pollInterval ≠ pollingDisabled

/-- The cluster group of a Pattern that names none. -/
def defaultClusterGroup : String := "default"

structure PatternSpec where
  clusterGroupName : String := defaultClusterGroup
  gitSpec : GitConfig := {}
deriving DecidableEq, Inhabited

/-- A text field, which is left out when it is empty. -/
def textField (name text : String) : Fields :=
  if text = "" then [] else [(name, .str text)]

def GitConfig.encode (c : GitConfig) : Json :=
  .obj (textField "hostname" c.hostname ++ textField "originRepo" c.originRepo ++
    textField "originRevision" c.originRevision ++ [("pollInterval", .int c.pollInterval)] ++
    [("targetRepo", .str c.targetRepo)] ++ textField "targetRevision" c.targetRevision)

def GitConfig.recordType : RecordType GitConfig where
  name := "GitConfig"
  blank := {}
  fields := [
    field "targetRepo" Decoder.string fun c v => { c with targetRepo := v },
    field "targetRevision" Decoder.string fun c v => { c with targetRevision := v },
    field "originRepo" Decoder.string fun c v => { c with originRepo := v },
    field "originRevision" Decoder.string fun c v => { c with originRevision := v },
    field "pollInterval" Decoder.int64 fun c v => { c with pollInterval := v },
    field "hostname" Decoder.string fun c v => { c with hostname := v }]

def GitConfig.decode : Decoder GitConfig := GitConfig.recordType.decoder

def PatternSpec.encode (s : PatternSpec) : Json :=
  .obj [("clusterGroupName", .str s.clusterGroupName), ("gitSpec", s.gitSpec.encode)]

def PatternSpec.recordType : RecordType PatternSpec where
  name := "PatternSpec"
  blank := {}
  fields := [
    field "clusterGroupName" Decoder.string fun s v => { s with clusterGroupName := v },
    field "gitSpec" GitConfig.decode fun s v => { s with gitSpec := v }]

def PatternSpec.decode : Decoder PatternSpec := PatternSpec.recordType.decoder

end GitDrift
