import GitDrift.Pattern.Metadata
import GitDrift.Pattern.Status

/-!
Patterns: objects of a cluster that say from which git repositories something is deployed.
-/
namespace GitDrift

open Json

structure Pattern where
  metadata : Metadata
  spec : PatternSpec
  status : Option PatternStatus := none
deriving Inhabited

namespace Pattern

/-- The API group of Patterns. -/
def group : String := "gitops.hybrid-cloud-patterns.io"

def version : String := "v1alpha1"

def kind : String := "Pattern"

/-- The plural by which Patterns are addressed. -/
def plural : String := "patterns"

/-- The finalizer by which a Pattern stays until its watch has been dropped. -/
def finalizer : String := "foregroundDeletePattern"

def apiVersion : String := group ++ "/" ++ version

def recordType : RecordType Pattern where
  name := "Pattern"
  blank := ⟨{}, {}, none⟩
  fields := [
    field "metadata" Metadata.decode (fun p v => { p with metadata := v }) .required,
    field "spec" PatternSpec.decode (fun p v => { p with spec := v }) .required,
    field "status" (Decoder.optional PatternStatus.decode) (fun p v => { p with status := v })
      .inArrays]

def decode : Decoder Pattern := recordType.decoder

def encode (p : Pattern) : Json :=
  .obj ([("apiVersion", .str apiVersion), ("kind", .str kind), ("metadata", p.metadata.encode),
    ("spec", p.spec.encode)] ++ optionalField "status" PatternStatus.encode p.status)

end Pattern
end GitDrift
