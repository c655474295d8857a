import GitDrift.Pattern

/-!
The definition by which a cluster learns what Patterns are: their names, and the schema of their
spec and status.
-/
namespace GitDrift.Pattern

open Json

/-- The schema of a value. -/
inductive Schema where
  | text
  /-- A whole number of 64 bits. -/
  | integer
  /-- One of some texts. -/
  | oneOf (names : List String)
  | items (description : String) (of : Schema)
  /-- An object with properties, each with a description, what it is when it is left out, and
  whether it may be null. -/
  | object (required : List String)
      (properties : List (String × String × Option Json × Bool × Schema))

/-- The fields of a schema together with those of a place where it is used. -/
def describe (description : String) (absent : Option Json) (nullable : Bool) (schema : Fields) :
    Json :=
  .obj (Fields.ofList (optionalField "default" id absent ++ [("description", .str description)] ++
    (if nullable then [("nullable", .bool true)] else []) ++ schema))

mutual

def Schema.fields : Schema → Fields
  | .text => [("type", .str "string")]
  | .integer => [("format", .str "int64"), ("type", .str "integer")]
  | .oneOf names => [("enum", .arr (names.map .str)), ("type", .str "string")]
  | .items description of =>
    [("items", describe description none false of.fields), ("type", .str "array")]
  | .object required properties =>
    [("properties", .obj (propertyFields properties))] ++
      (if required.isEmpty then [] else [("required", .arr (required.map .str))]) ++
      [("type", .str "object")]

def propertyFields : List (String × String × Option Json × Bool × Schema) → Fields
  | [] => []
  | (name, description, absent, nullable, schema) :: rest =>
    Fields.put name (describe description absent nullable schema.fields) (propertyFields rest)

end

def gitSchema : Schema := .object [] [
  ("hostname", "FQDN of the git server when parsing it from `targetRepo` does not work", none,
    false, .text),
  ("originRepo", "Upstream git repo the target was forked from", none, false, .text),
  ("originRevision", "Branch in the upstream git repository. Default: HEAD", none, false, .text),
  ("pollInterval",
    "Seconds between drift checks of origin against target.
Default: 180. `-1` disables drift checks.",
    some (.int 0), false, .integer),
  ("targetRepo",
    "Git repo containing the pattern to deploy. Must use https/http or git@ for ssh",
    some (.str ""), false, .text),
  ("targetRevision",
    "Branch, tag or commit to deploy. Short SHAs are not supported. Default: HEAD", none, false,
    .text)]

def specSchema : Schema := .object [] [
  ("clusterGroupName", "Cluster group to deploy from the pattern's values files",
    some (.str defaultClusterGroup), false, .text),
  ("gitSpec", "Git repositories the pattern is deployed from", some (GitConfig.encode {}), false,
    gitSchema)]

def conditionSchema : Schema := .object ["lastUpdateTime", "status", "type"] [
  ("lastTransitionTime",
    "The last time the condition transitioned from one status to another (RFC3339)", none, false,
    .text),
  ("lastUpdateTime", "The last time this condition was updated (RFC3339)", none, false, .text),
  ("message", "Human readable message about the transition", none, false, .text),
  ("status", "True, False or Unknown", none, false,
    .oneOf (ConditionStatus.all.map ConditionStatus.name)),
  ("type", "Type of the condition", none, false, .oneOf (ConditionType.all.map ConditionType.name))]

def statusSchema : Schema := .object [] [
  ("conditions", "Conditions represent the latest available observations", none, false,
    .items "A single typed, timestamped status condition" conditionSchema),
  ("lastError", "Last error encountered by the pattern", none, true, .text),
  ("lastStep", "Last action related to the pattern", none, true, .text),
  ("version", "Number of updates to the pattern", none, true, .integer)]

/-- What a Pattern is, with an example. -/
def specDescription : String := "Pattern Custom Resource Definition

A Pattern points the operator at a git repository holding a GitOps pattern
and, optionally, at the upstream repository it was forked from. When both are
set the operator polls them and reports drift as a status condition.

# Example

```yaml
apiVersion: gitops.hybrid-cloud-patterns.io/v1alpha1
kind: Pattern
metadata:
  name: multicloud-gitops
  namespace: openshift-operators
spec:
  clusterGroupName: hub
  gitSpec:
    targetRepo: https://gitea.apps.example.com/org/multicloud-gitops
    targetRevision: main
    originRepo: https://github.com/validatedpatterns/multicloud-gitops
    pollInterval: 300
```"

def schema : Schema := .object ["spec"] [
  ("spec", specDescription, none, false, specSchema),
  ("status", "Status of the Pattern resource", none, true, statusSchema)]

/-- A column of the table in which Patterns are listed. -/
def column (name path : String) (priority : Nat) : Json :=
  .obj [("jsonPath", .str path), ("name", .str name), ("priority", .nat priority),
    ("type", .str "string")]

def names : Json :=
  .obj [("categories", .arr []), ("kind", .str kind), ("plural", .str plural),
    ("shortNames", .arr [.str "patt"]), ("singular", .str "pattern")]

def versionDefinition : Json :=
  let root := describe "Auto-generated derived type for PatternSpec via `CustomResource`" none false
    (schema.fields ++ [("title", .str kind)])
  .obj [("additionalPrinterColumns",
      .arr [column "Step" ".status.lastStep" 1, column "Error" ".status.lastError" 2]),
    ("name", .str version), ("schema", .obj [("openAPIV3Schema", root)]), ("served", .bool true),
    ("storage", .bool true), ("subresources", .obj [("status", .obj [])])]

/-- The definition of Patterns. -/
def definition : Json :=
  .obj [("apiVersion", .str "apiextensions.k8s.io/v1"), ("kind", .str "CustomResourceDefinition"),
    ("metadata", .obj [("name", .str (plural ++ "." ++ group))]),
    ("spec", .obj [("group", .str group), ("names", names), ("scope", .str "Namespaced"),
      ("versions", .arr [versionDefinition])])]

end GitDrift.Pattern
