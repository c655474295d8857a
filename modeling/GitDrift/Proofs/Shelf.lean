import GitDrift.Proofs.ApiServer

/-!
A server that keeps Patterns in memory, of which all that is asked of API servers holds. It knows
the keys in which no mark divides a path or ends it, and it can hold Patterns with any
specification and status.
-/
namespace GitDrift

/-- No mark divides the name or the namespace, or ends it. -/
def PatternKey.Undivided (key : PatternKey) : Prop :=
  (key.name.toList ++ key.namespace_.toList).all fun c => c ≠ '/' && c ≠ '?' && c ≠ '#'

theorem PatternKey.Undivided.of_mem {key : PatternKey} (h : key.Undivided) :
    ∀ c ∈ key.name.toList ++ key.namespace_.toList, c ≠ '/' ∧ c ≠ '?' ∧ c ≠ '#' := by
  simpa only [Undivided, List.all_eq_true, Bool.and_eq_true, decide_eq_true_eq, and_assoc] using h

namespace Drift

open Json Json.Fields Cluster Patterns

variable {fields : Fields} {key : PatternKey} {n : ℕ} {j : Json} {name : String}

theorem mem_of_mem_put {x : String × Json} (h : x ∈ put name j fields) :
    x = (name, j) ∨ x ∈ fields := by
  induction fields with
  | nil => simpa [put] using h
  | cons f rest ih =>
    obtain ⟨m, v⟩ := f
    unfold put at h
    split_ifs at h
    · exact (List.mem_cons.mp h).imp_right (List.mem_cons_of_mem _)
    · exact List.mem_cons.mp h
    · rcases List.mem_cons.mp h with rfl | h
      · exact .inr List.mem_cons_self
      · exact (ih h).imp_right (List.mem_cons_of_mem _)

theorem fits_fields (h : Fits (n + 1) j) : ∀ f ∈ j.fields, Fits n f.2 := by
  cases h with
  | obj h => exact h
  | _ => exact nofun

theorem mem_fields_of_get? (h : get? fields name = some j) : (name, j) ∈ fields := by
  obtain ⟨f, hf, rfl⟩ := Option.map_eq_some_iff.mp h
  have hname : f.1 = name := by simpa using List.find?_some hf
  exact hname ▸ List.mem_of_find?_eq_some hf

/-- What the server can print and read again, with metadata. -/
structure Storable (fields : Fields) : Prop where
  ordered : Ordered fields
  fits : Fits 100 (.obj fields)
  metadata : HasMetadata fields

/-- An object with new conditions. -/
def withConditions (l : List Condition) (fields : Fields) : Fields :=
  ((Json.obj fields).merge (ClusterStore.conditionsPatch l)).fields

theorem withConditions_eq (l : List Condition) (fields : Fields) :
    withConditions l fields =
      put "status" (.obj (put "conditions" (encodeConditions l)
        ((get? fields "status").getD .null).fields)) fields := by
  rw [withConditions, ClusterStore.conditionsPatch, merge_obj, mergeFields_obj, mergeFields_nil,
    encodeConditions, mergeFields_arr, mergeFields_nil]
  rfl

theorem Storable.withConditions (h : Storable fields) (l : List Condition) :
    Storable (withConditions l fields) := by
  rw [withConditions_eq]
  refine ⟨ordered_put h.ordered, .obj fun f hf => ?_, ?_⟩
  · rcases mem_of_mem_put hf with rfl | hf
    · refine .obj fun f hf => ?_
      rcases mem_of_mem_put hf with rfl | hf
      · refine Fits.mono (.arr fun j hj => ?_) (show 2 ≤ 98 by decide)
        obtain ⟨c, _, rfl⟩ := List.mem_map.mp hj
        exact c.fits_encode
      · cases hstatus : get? fields "status" with
        | none => simp [hstatus, Json.fields] at hf
        | some j =>
          rw [hstatus] at hf
          exact fits_fields (fits_fields h.fits _ (mem_fields_of_get? hstatus)) f hf
    · exact fits_fields h.fits f hf
  · obtain ⟨j, m, hj, hm⟩ := h.metadata
    exact ⟨j, m, by rw [get?_put, if_neg (by decide), hj], hm⟩

/-- A Pattern as it is written, with metadata that are given. -/
def patternFields (metadata : Json) (spec : PatternSpec) (status : Option PatternStatus) : Fields :=
  [("apiVersion", .str Pattern.apiVersion), ("kind", .str Pattern.kind), ("metadata", metadata),
    ("spec", spec.encode)] ++ optionalField "status" PatternStatus.encode status

/-- The numbers of a specification and a status have 64 bits. -/
def AreInt64 (spec : PatternSpec) (status : Option PatternStatus) : Prop :=
  IsInt64 spec.gitSpec.pollInterval ∧ ∀ s ∈ status, ∀ n ∈ s.version, IsInt64 n

section Written

variable {metadata : Json} {spec : PatternSpec} {status : Option PatternStatus}

theorem get?_patternFields (metadata : Json) (spec : PatternSpec) (status : Option PatternStatus) :
    Fields.get? (patternFields metadata spec status) "metadata" = some metadata ∧
      Fields.get? (patternFields metadata spec status) "spec" = some spec.encode ∧
      Fields.get? (patternFields metadata spec status) "status" =
        status.map PatternStatus.encode := by
  cases status <;> simp [patternFields, optionalField, Fields.get?]

theorem ordered_patternFields : Ordered (patternFields metadata spec status) := by
  cases status <;> simp only [Ordered, patternFields, optionalField, List.cons_append,
    List.nil_append, List.map_cons, List.map_nil] <;> decide

theorem ordered_status (s : PatternStatus) : Ordered s.encode.fields := by
  obtain ⟨step, error, version, conditions⟩ := s
  cases step <;> cases error <;> cases version <;>
    simp only [Ordered, PatternStatus.encode, Json.fields, optionalField] <;> split_ifs <;>
    simp only [List.cons_append, List.nil_append, List.map_cons, List.map_nil] <;> decide

/-- Whatever specification and status a Pattern is written with, it is stored as one. -/
theorem isPattern_patternFields {m : Metadata} (hm : Metadata.decode metadata = .ok m)
    (h : AreInt64 spec status) :
    IsPattern (patternFields metadata spec status) spec (status.getD {}) := by
  obtain ⟨hmetadata, hspec, hstatus⟩ := get?_patternFields metadata spec status
  refine ⟨ordered_patternFields.nodup, ⟨metadata, m, hmetadata, hm⟩,
    ⟨_, hspec, PatternSpec.decode_encode h.1⟩, ?_⟩
  cases status with
  | none => simp [HasStatus, hstatus]
  | some s =>
    exact hasStatus_of_obj hstatus (ordered_status s) (PatternStatus.decode_encode (h.2 s rfl))

theorem storable_patternFields (h : AreInt64 spec status) :
    Storable (patternFields (.obj []) spec status) := by
  refine ⟨ordered_patternFields, .obj ?_, .obj [], {}, (get?_patternFields _ _ _).1, rfl⟩
  have hspec : Fits 99 spec.encode := (PatternSpec.fits_encode h.1).mono (by decide)
  have hstatus : ∀ s ∈ status, Fits 99 s.encode := fun s hs =>
    (PatternStatus.fits_encode (h.2 s hs)).mono (by decide)
  have hempty : Fits 99 (.obj []) := .obj (n := 98) nofun
  rw [patternFields, List.forall_mem_append]
  exact ⟨by simp [Fits.str, hspec, hempty], PatternStatus.fits_optionalField hstatus⟩

end Written

/-- The server's Patterns. -/
structure Shelf where
  objects : PatternKey → Option Fields
  storable : ∀ key fields, objects key = some fields → Storable fields

namespace Shelf

/-- The Patterns that are kept under their keys. -/
def ofPatterns (patterns : PatternKey → Option (PatternSpec × Option PatternStatus))
    (h : ∀ key p, patterns key = some p → AreInt64 p.1 p.2) : Shelf where
  objects key := (patterns key).map fun p => patternFields (.obj []) p.1 p.2
  storable key fields hfields := by
    obtain ⟨p, hp, rfl⟩ := Option.map_eq_some_iff.mp hfields
    exact storable_patternFields (h key p hp)

/-- Replaces the conditions of a Pattern. -/
def setConditions (shelf : Shelf) (key : PatternKey) (l : List Condition) : Shelf where
  objects k := if k = key then (shelf.objects k).map (withConditions l) else shelf.objects k
  storable k fields h := by
    split_ifs at h
    · obtain ⟨old, hold, rfl⟩ := Option.map_eq_some_iff.mp h
      exact (shelf.storable k old hold).withConditions l
    · exact shelf.storable k fields h

/-- The key in the path of a request. -/
def keyOf? (path : String) : Option PatternKey :=
  match path.toList.splitOn '/' with
  | [] :: _ :: _ :: _ :: _ :: ns :: _ :: name :: _ => some ⟨String.ofList name, String.ofList ns⟩
  | _ => none

def notFound : Json :=
  .obj [("code", .nat 404), ("message", .str "not found"), ("reason", .str "NotFound"),
    ("status", .str "Failure")]

def answer (r : Request) (shelf : Shelf) : Answer × Shelf :=
  match (keyOf? r.target.path).bind fun key => (shelf.objects key).map fun o => (key, o) with
  | none => (.response 404 notFound.render, shelf)
  | some (key, fields) =>
    match r.body with
    | some (.merge, .obj [("status", .obj [("conditions", j)])]) =>
      match Decoder.list Condition.decode j with
      | .ok l =>
        (.response 200 (Json.obj (withConditions l fields)).render, shelf.setConditions key l)
      | .error _ => (.response 422 "", shelf)
    | _ => (.response 200 (Json.obj fields).render, shelf)

end Shelf

/-- Characters that end no path. -/
def isUnmarked (c : Char) : Bool := c ≠ '?' && c ≠ '#'

theorem unmarked_pathOf (h : key.Undivided) : (pathOf key).toList.all isUnmarked = true := by
  refine all_pathOf (by decide) (List.all_eq_true.mpr fun c hc => ?_)
  simpa [isUnmarked] using (h.of_mem c hc).2

theorem target?_of_undivided {part : String} {method : Method} {target : Target}
    (h : key.Undivided) (hpart : part.toList.all isUnmarked = true)
    (ht : target? key part method = some target) : target = ⟨pathOf key ++ part, ""⟩ := by
  have hall : (pathOf key ++ part).toList.all isUnmarked = true := by
    rw [String.toList_append, List.all_append, unmarked_pathOf h, hpart, Bool.and_self]
  have hfree (c : Char) (hc : c ∈ (pathOf key ++ part).toList) : c ≠ '?' ∧ c ≠ '#' := by
    simpa [isUnmarked] using List.all_eq_true.mp hall c hc
  unfold target? at ht
  rw [targetText, Target.ofText?_queryMark hfree] at ht
  split_ifs at ht
  simpa using ht.symm

/-- The parts of a Pattern's path. -/
def segments (key : PatternKey) : List (List Char) :=
  [[], "apis".toList, Pattern.group.toList, Pattern.version.toList, "namespaces".toList,
    key.namespace_.toList, Pattern.plural.toList, key.name.toList]

theorem keyOf?_of_segments {path : String} (more : List (List Char)) (h : key.Undivided)
    (hmore : ∀ s ∈ more, '/' ∉ s) (hpath : path.toList = ['/'].intercalate (segments key ++ more)) :
    Shelf.keyOf? path = some key := by
  have hparts : ∀ s ∈ segments key ++ more, '/' ∉ s := by
    simp only [segments, List.forall_mem_append, List.forall_mem_cons]
    exact ⟨⟨by decide, by decide, by decide, by decide, by decide,
      fun hc => (h.of_mem _ (List.mem_append_right _ hc)).1 rfl, by decide,
      fun hc => (h.of_mem _ (List.mem_append_left _ hc)).1 rfl, nofun⟩, hmore⟩
  rw [Shelf.keyOf?, hpath, List.splitOn_intercalate '/' hparts (by simp [segments])]
  simp [segments]

theorem keyOf?_pathOf (h : key.Undivided) : Shelf.keyOf? (pathOf key ++ "") = some key :=
  keyOf?_of_segments [] h nofun
    (by simp [pathOf, groupPath, Pattern.apiVersion, segments, List.intercalate, List.intersperse])

theorem keyOf?_status (h : key.Undivided) : Shelf.keyOf? (pathOf key ++ "/status") = some key :=
  keyOf?_of_segments ["status".toList] h (by decide)
    (by simp [pathOf, groupPath, Pattern.apiVersion, segments, List.intercalate, List.intersperse])

/-- A slash in a key makes its path the path of another key. -/
theorem target?_slash {a b c part : String} {method : Method} (hc : c ≠ "") :
    target? ⟨c, a ++ "/patterns/" ++ b⟩ part method =
      target? ⟨b ++ "/patterns/" ++ c, a⟩ part method := by
  have hpath : pathOf ⟨c, a ++ "/patterns/" ++ b⟩ = pathOf ⟨b ++ "/patterns/" ++ c, a⟩ := by
    apply String.toList_inj.mp
    simp [pathOf, Pattern.plural]
  rw [target?, target?, if_neg hc, if_neg (by simp), targetText, targetText, hpath]

/-- What is behind a number sign is no part of a target. -/
theorem ofText?_sign {text more : String} {target : Target}
    (h : Target.ofText? (text ++ "#" ++ more) = some target) :
    Target.ofText? text = some target := by
  have hend : (text ++ "#" ++ more).toList.takeWhile (· ≠ '#') =
      text.toList.takeWhile (· ≠ '#') := by
    rw [String.toList_append, String.toList_append, List.append_assoc, List.takeWhile_append]
    split_ifs with hlength
    · rw [(List.takeWhile_sublist _).eq_of_length hlength]
      simp
    · rfl
  have hshorter : text.utf8ByteSize ≤ (text ++ "#" ++ more).utf8ByteSize := by
    rw [String.append_assoc, String.utf8ByteSize_append]
    exact Nat.le_add_right _ _
  simp only [Target.ofText?, hend, Bool.and_eq_true, decide_eq_true_eq] at h ⊢
  split_ifs at h with hvalid
  rw [if_pos ⟨⟨hshorter.trans hvalid.1.1, hvalid.1.2⟩, hvalid.2⟩]
  exact h

/-- A number sign in a key ends the path: what is behind it is left out, and so is what makes the
request one about the status. -/
theorem target?_sign {name more ns part : String} {method : Method} {target : Target}
    (hname : name ≠ "") (h : target? ⟨name ++ "#" ++ more, ns⟩ part method = some target) :
    target? ⟨name, ns⟩ "" .get = some target := by
  have hpath : targetText ⟨name ++ "#" ++ more, ns⟩ part method =
      targetText ⟨name, ns⟩ "" .get ++ "#" ++ (more ++ part ++ method.queryMark) := by
    simp [targetText, pathOf, Method.queryMark, String.append_assoc]
  rw [target?, if_neg (by simp), hpath] at h
  rw [target?, if_neg hname]
  exact ofText?_sign h

namespace Shelf

variable {shelf : Shelf} {r : Request} {l : List Condition}

theorem grants_render (h : Storable fields) :
    Grants (.response 200 (Json.obj fields).render) (.obj fields) :=
  ⟨200, _, rfl, rfl, readText_render (h.fits.mono (by decide))⟩

theorem saysNotFound : SaysNotFound (.response 404 notFound.render) := by
  have hfits : Fits 1 notFound := by
    refine .obj ?_
    have hcode : Fits 0 (.num (.whole 404)) := .num 0 ⟨by decide, by decide⟩
    simp [Fits.str, nat, hcode]
  exact ⟨_, notFound, ⟨"Failure", "not found", "NotFound", 404⟩, rfl,
    readText_render (hfits.mono (by decide)), rfl, rfl⟩

theorem reading_of_undivided (h : key.Undivided) (hr : reading key = some r) :
    r = ⟨.get, ⟨pathOf key ++ "", ""⟩, none⟩ := by
  obtain ⟨target, ht, rfl⟩ := Option.map_eq_some_iff.mp hr
  rw [target?_of_undivided h rfl ht]

theorem writing_of_undivided (h : key.Undivided) (hr : writing key l = some r) :
    r = ⟨.patch, ⟨pathOf key ++ "/status", ""⟩, some (.merge, ClusterStore.conditionsPatch l)⟩ := by
  obtain ⟨target, ht, rfl⟩ := Option.map_eq_some_iff.mp hr
  rw [target?_of_undivided h (by decide) ht]

theorem keyOf?_of_request (h : key.Undivided) (hr : reading key = some r ∨ writing key l = some r) :
    keyOf? r.target.path = some key := by
  rcases hr with hr | hr
  · rw [reading_of_undivided h hr]
    exact keyOf?_pathOf h
  · rw [writing_of_undivided h hr]
    exact keyOf?_status h

/-- The server, for keys that requests tell apart. -/
def server : ApiServer {key | key.Undivided} Shelf where
  answer := answer
  stored := objects
  found := by
    intro key shelf r fields hkey hr hfields
    have hanswer : answer r shelf = (.response 200 (Json.obj fields).render, shelf) := by
      have hnobody : r.body = none := by rw [reading_of_undivided hkey hr]
      simp only [answer, keyOf?_of_request (l := []) hkey (.inl hr), Option.bind_some, hfields,
        Option.map_some, hnobody]
    rw [hanswer]
    exact ⟨grants_render (shelf.storable key fields hfields), fun _ _ => rfl⟩
  missing := by
    intro key shelf r l hkey hr hnone
    have hanswer : answer r shelf = (.response 404 notFound.render, shelf) := by
      simp only [answer, keyOf?_of_request hkey hr, Option.bind_some, hnone, Option.map_none]
    rw [hanswer]
    exact ⟨saysNotFound, fun _ _ => rfl⟩
  patched := by
    intro key shelf r l fields hkey hr hfields
    have hanswer : answer r shelf = (.response 200 (Json.obj (withConditions l fields)).render,
        shelf.setConditions key l) := by
      have hbody : r.body = some (.merge, ClusterStore.conditionsPatch l) := by
        rw [writing_of_undivided hkey hr]
      simp only [answer, keyOf?_of_request hkey (.inr hr), Option.bind_some, hfields,
        Option.map_some, hbody, ClusterStore.conditionsPatch, Condition.decode_encodeConditions]
    have hstorable := (shelf.storable key fields hfields).withConditions l
    rw [hanswer]
    refine ⟨withConditions l fields, ⟨hstorable.ordered.nodup, hstorable.metadata, ?_⟩,
      grants_render hstorable, fun k _ => ?_⟩
    · intro name _
      rw [withConditions, ClusterStore.conditionsPatch, merge_obj]
      rfl
    · simp only [setConditions]
      split_ifs with h
      · rw [h, hfields, Option.map_some]
      · rfl

end Shelf

end Drift
end GitDrift
