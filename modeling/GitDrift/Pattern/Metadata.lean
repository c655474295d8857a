import GitDrift.Json.Record
import GitDrift.Time.Reader

/-!
Metadata of an object in a cluster. The parts that decide how a Pattern is treated have fields of
their own; the others are checked and kept as JSON.
-/
namespace GitDrift

open Json

structure Metadata where
  name : Option String := none
  /-- What a server makes a name from when there is none. -/
  generateName : Option String := none
  namespace_ : Option String := none
  uid : Option String := none
  /-- Since when the object is being deleted. -/
  deletionTimestamp : Option Moment := none
  /-- What has to be done before the object goes away. -/
  finalizers : Option (List String) := none
  resourceVersion : Option String := none
  /-- The other fields in their normal form. -/
  rest : Fields := []
deriving Inhabited

namespace Metadata

def time : Decoder Moment :=
  (Decoder.text "an RFC 3339 formatted date and time string").refine fun s =>
    (Moment.parse s).mapError fun e => .invalidText e.message

/-- Checks a value and brings it into its normal form. -/
abbrev Shape := Decoder Json

def textShape : Shape := Decoder.string.map .str

def flagShape : Shape := Decoder.boolean.map .bool

def intShape : Shape := Decoder.int64.map .int

def timeShape : Shape := time.map fun t => .str t.format

def textsShape : Shape :=
  (Decoder.fieldsOf Decoder.string).map fun fields =>
    .obj (Fields.ofList (fields.map fun (n, s) => (n, .str s)))

def listShape (shape : Shape) : Shape := (Decoder.list shape).map .arr

/-- A field that is only checked and kept: its shape, and what stands for it where it has to be
written and is missing. -/
structure KeptField where
  name : String
  shape : Shape
  absent : Option Json := none

/-- Sets the field among others. A null is as good as no field. -/
def KeptField.set (f : KeptField) (fields : Fields) : Decoder Fields :=
  (Decoder.optional f.shape).map fun j =>
    match j.or f.absent with
    | some j => Fields.put f.name j fields
    | none => Fields.drop f.name fields

/-- An object of a named type of which all fields are kept. -/
def objectShape (type : String) (kept : List KeptField) : Shape :=
  let recordType : RecordType Fields :=
    { name := type
      form := .lenient
      fields := kept.map fun f => ⟨f.name, f.set, .optional⟩
      blank := Fields.ofList (kept.filterMap fun f => f.absent.map fun j => (f.name, j)) }
  recordType.decoder.map .obj

/-- An entry that says who last set which fields. -/
def managedEntry : Shape := objectShape "ManagedFieldsEntry" [
  ⟨"apiVersion", textShape, none⟩, ⟨"fieldsType", textShape, none⟩,
  ⟨"fieldsV1", Decoder.any, none⟩, ⟨"manager", textShape, none⟩, ⟨"operation", textShape, none⟩,
  ⟨"subresource", textShape, none⟩, ⟨"time", timeShape, none⟩]

/-- An object that this one belongs to. -/
def ownerReference : Shape := objectShape "OwnerReference" [
  ⟨"apiVersion", textShape, some (.str "")⟩, ⟨"blockOwnerDeletion", flagShape, none⟩,
  ⟨"controller", flagShape, none⟩, ⟨"kind", textShape, some (.str "")⟩,
  ⟨"name", textShape, some (.str "")⟩, ⟨"uid", textShape, some (.str "")⟩]

/-- The fields that are only checked and kept. -/
def keptFields : List KeptField := [
  ⟨"annotations", textsShape, none⟩, ⟨"creationTimestamp", timeShape, none⟩,
  ⟨"deletionGracePeriodSeconds", intShape, none⟩, ⟨"generation", intShape, none⟩,
  ⟨"labels", textsShape, none⟩, ⟨"managedFields", listShape managedEntry, none⟩,
  ⟨"ownerReferences", listShape ownerReference, none⟩, ⟨"selfLink", textShape, none⟩]

def recordType : RecordType Metadata where
  name := "ObjectMeta"
  form := .lenient
  blank := {}
  fields := [
    field "name" (Decoder.optional Decoder.string) fun m s => { m with name := s },
    field "generateName" (Decoder.optional Decoder.string) fun m s => { m with generateName := s },
    field "namespace" (Decoder.optional Decoder.string) fun m s => { m with namespace_ := s },
    field "uid" (Decoder.optional Decoder.string) fun m s => { m with uid := s },
    field "deletionTimestamp" (Decoder.optional time) fun m t => { m with deletionTimestamp := t },
    field "finalizers" (Decoder.optional (Decoder.list Decoder.string))
      fun m fs => { m with finalizers := fs },
    field "resourceVersion" (Decoder.optional Decoder.string)
      fun m s => { m with resourceVersion := s }] ++
    keptFields.map fun f =>
      ⟨f.name, fun m => (f.set m.rest).map fun rest => { m with rest }, .optional⟩

def decode : Decoder Metadata := recordType.decoder

def encode (m : Metadata) : Json :=
  let put (name : String) (value : Option Json) (fields : Fields) : Fields :=
    match value with
    | some j => Fields.put name j fields
    | none => fields
  .obj <| m.rest
    |> put "name" (m.name.map .str)
    |> put "generateName" (m.generateName.map .str)
    |> put "namespace" (m.namespace_.map .str)
    |> put "uid" (m.uid.map .str)
    |> put "deletionTimestamp" (m.deletionTimestamp.map fun t => .str t.format)
    |> put "finalizers" (m.finalizers.map fun fs => .arr (fs.map .str))
    |> put "resourceVersion" (m.resourceVersion.map .str)

/-- The name, or what stands for one. -/
def anyName (m : Metadata) : String := (m.name.or m.generateName).getD ""

end Metadata
end GitDrift
