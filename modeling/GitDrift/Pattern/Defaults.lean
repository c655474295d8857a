import GitDrift.Git.RepoUrl
import GitDrift.Pattern.Spec

/-!
What holds where a Pattern's spec says nothing, and which specs can be worked with.
-/
namespace GitDrift

open Git

/-- A poll interval as it is used: a negative one turns polling off, and others are raised to the
least that is allowed. -/
def effectiveInterval (least interval : Int) : Int :=
  if interval < 0 then pollingDisabled else if interval < least then least else interval

/-- The host of the target repository stands in for a hostname that is not given. -/
def effectiveHostname (c : GitConfig) : String :=
  if c.hostname = "" then
    match RepoUrl.hostname c.targetRepo with
    | .ok host => host
    | .error _ => ""
  else c.hostname

/-- The spec with its defaults filled in; `least` is the least poll interval. -/
def PatternSpec.qualified (s : PatternSpec) (least : Int) : PatternSpec where
  clusterGroupName := if s.clusterGroupName = "" then defaultClusterGroup else s.clusterGroupName
  gitSpec := { s.gitSpec with
    pollInterval := effectiveInterval least s.gitSpec.pollInterval
    hostname := effectiveHostname s.gitSpec }

/-- Checks the repositories' addresses, and answers with the name of the target. -/
def GitConfig.validate (c : GitConfig) : Except RepoUrlError String := do
  RepoUrl.validate c.targetRepo
  if c.originRepo ≠ "" then RepoUrl.validate c.originRepo
  RepoUrl.repositoryName c.targetRepo

end GitDrift
