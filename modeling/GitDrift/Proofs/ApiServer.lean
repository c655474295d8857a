import GitDrift.Drift.ClusterStore
import GitDrift.Proofs.Activity
import GitDrift.Proofs.Lossless
import Mathlib.Data.List.TakeDrop
import Mathlib.Data.Set.Defs

/-!
API servers that keep Patterns by their keys: they answer a request that reads a Pattern with what
is stored, and merge a patch of a status into it. What a server prints, and what else it notes in
the metadata, is left to the server.
-/
namespace GitDrift

open Json Json.Fields Cluster Drift

variable {α β σ τ : Type} {fields stored stored' : Fields} {spec : PatternSpec} {s : PatternStatus}

namespace Metadata

theorem faithful_time : time.Faithful := .refine (.text _)

theorem faithful_kept (f : KeptField) (hf : f.shape.Faithful) (kept : Fields) :
    (f.set kept).Faithful :=
  .map (.optional hf)

theorem faithful_objectShape {type : String} {kept : List KeptField}
    (h : ∀ f ∈ kept, f.shape.Faithful) : (objectShape type kept).Faithful := by
  refine .map (RecordType.faithful fun f hf fields => ?_)
  obtain ⟨k, hk, rfl⟩ := List.mem_map.mp hf
  exact faithful_kept k (h k hk) fields

theorem faithful_managedEntry : managedEntry.Faithful := by
  refine faithful_objectShape ?_
  simp only [List.forall_mem_cons]
  exact ⟨.map .string, .map .string, .any, .map .string, .map .string, .map .string,
    .map faithful_time, by simp⟩

theorem faithful_ownerReference : ownerReference.Faithful := by
  refine faithful_objectShape ?_
  simp only [List.forall_mem_cons]
  exact ⟨.map .string, .map .boolean, .map .boolean, .map .string, .map .string, .map .string,
    by simp⟩

theorem faithful_keptFields : ∀ f ∈ keptFields, f.shape.Faithful := by
  simp only [keptFields, List.forall_mem_cons]
  exact ⟨.map (.fieldsOf .string), .map faithful_time, .map (.integer _ _ _),
    .map (.integer _ _ _), .map (.fieldsOf .string), .map (.list faithful_managedEntry),
    .map (.list faithful_ownerReference), .map .string, by simp⟩

theorem faithful : Metadata.decode.Faithful := by
  refine RecordType.faithful ?_
  simp only [RecordType.FieldsFaithful, recordType, List.forall_mem_append, List.forall_mem_cons]
  refine ⟨⟨faithful_set (.optional .string), faithful_set (.optional .string),
    faithful_set (.optional .string), faithful_set (.optional .string),
    faithful_set (.optional faithful_time),
    faithful_set (.optional (.list .string)),
    faithful_set (.optional .string), by simp⟩, fun f hf m => ?_⟩
  obtain ⟨k, hk, rfl⟩ := List.mem_map.mp hf
  exact .map (faithful_kept k (faithful_keptFields k hk) m.rest)

end Metadata

theorem Pattern.faithful : Pattern.decode.Faithful := by
  refine RecordType.faithful ?_
  simp only [RecordType.FieldsFaithful, Pattern.recordType, List.forall_mem_cons]
  exact ⟨faithful_set Metadata.faithful, faithful_set PatternSpec.faithful,
    faithful_set (.optional PatternStatus.faithful), by simp⟩

theorem Cluster.Refusal.faithful : Refusal.decode.Faithful := by
  refine RecordType.faithful ?_
  simp only [RecordType.FieldsFaithful, Refusal.recordType, List.forall_mem_cons]
  exact ⟨faithful_set .string, faithful_set .string, faithful_set .string,
    faithful_set (.integer _ _ _), by simp⟩

/-- The answer grants a request and holds a value. -/
def Grants (a : Answer) (j : Json) : Prop :=
  ∃ status body, a = .response status body ∧ isRefusal status = false ∧
    readText readValue body = .ok j

/-- The answer says that nothing was found. -/
def SaysNotFound (a : Answer) : Prop :=
  ∃ body j r, a = .response 404 body ∧ readText readValue body = .ok j ∧
    Refusal.decode j = .ok r ∧ r.reason = "NotFound"

theorem Grants.read {a : Answer} {j : Json} {d : Decoder α} {x : α} (h : Grants a j)
    (hd : d.Faithful) (hx : d j = .ok x) : a.read d = .ok x := by
  obtain ⟨status, body, rfl, hstatus, hbody⟩ := h
  rw [Answer.read, if_neg (by simp [hstatus]), hd.readText hbody hx]
  rfl

theorem SaysNotFound.read {a : Answer} (h : SaysNotFound a) (d : Decoder α) :
    ∃ r, a.read d = .error (.refused r) ∧ r.reason = "NotFound" := by
  obtain ⟨body, j, r, rfl, hbody, hr, hreason⟩ := h
  refine ⟨r, ?_, hreason⟩
  rw [Answer.read, if_pos (by decide), Refusal.ofBody, Refusal.faithful.readText hbody hr]

theorem Pattern.slots :
    recordType.Slot "metadata" Metadata.decode (·.metadata) ∧
      recordType.Slot "spec" PatternSpec.decode (·.spec) := by
  refine ⟨?_, ?_⟩ <;> constructor <;> simp [recordType, field_set_eq_ok_iff] <;>
    simp +contextual [field]

/-- A value has metadata that can be read. -/
def HasMetadata (stored : Fields) : Prop :=
  ∃ j m, get? stored "metadata" = some j ∧ Metadata.decode j = .ok m

/-- What is stored is a Pattern with a specification and a status. -/
structure IsPattern (stored : Fields) (spec : PatternSpec) (s : PatternStatus) : Prop where
  nodup : (stored.map Prod.fst).Nodup
  metadata : HasMetadata stored
  spec : ∃ j, get? stored "spec" = some j ∧ PatternSpec.decode j = .ok spec
  status : HasStatus stored s

theorem HasStatus.valueOf (h : HasStatus stored s) :
    ∃ o, valueOf "status" (Decoder.optional PatternStatus.decode) none stored = .ok o := by
  unfold HasStatus at h
  unfold Json.valueOf
  split at h
  · exact ⟨none, by simp [*]⟩
  · exact ⟨none, by simp only [*]; rfl⟩
  · rename_i fields hstatus
    refine ⟨some s, ?_⟩
    rw [hstatus]
    change (PatternStatus.decode _).map some = _
    rw [h.2]
    rfl
  · exact h.elim

/-- What is stored as a Pattern is read as one. -/
theorem IsPattern.decode (h : IsPattern stored spec s) :
    ∃ p, Pattern.decode (.obj stored) = .ok p ∧ p.spec = spec ∧ p.status.getD {} = s := by
  obtain ⟨jm, m, hjm, hm⟩ := h.metadata
  obtain ⟨js, hjs, hs⟩ := h.spec
  obtain ⟨o, ho⟩ := h.status.valueOf
  have hvm : valueOf "metadata" Metadata.decode m stored = .ok m :=
    (valueOf_of_get? hjm _).trans hm
  have hvs (absent : PatternSpec) : valueOf "spec" PatternSpec.decode absent stored = .ok spec :=
    (valueOf_of_get? hjs _).trans hs
  obtain ⟨p, hp⟩ : ∃ p, Pattern.recordType.decodeFields stored = .ok p := by
    refine RecordType.decodeFields_isOk rfl h.nodup ?_ ?_
    · simp only [Pattern.recordType, List.forall_mem_cons]
      exact ⟨set_of_valueOf hvm, set_of_valueOf (hvs spec), set_of_valueOf ho, by simp⟩
    · simp only [Pattern.recordType, field, List.forall_mem_cons]
      exact ⟨fun _ => mem_of_get? hjm, fun _ => mem_of_get? hjs, by simp, by simp⟩
  exact ⟨p, hp, Except.ok.inj ((Pattern.slots.2.of_decodeFields rfl hp).symm.trans (hvs _)),
    h.status.decode hp⟩

/-- What is stored after a merge patch of the status. The server notes what it likes in the
metadata. -/
structure Merged (stored : Fields) (patch : Json) (stored' : Fields) : Prop where
  nodup : (stored'.map Prod.fst).Nodup
  metadata : HasMetadata stored'
  others : ∀ name, name ≠ "metadata" →
    get? stored' name = field? name ((Json.obj stored).merge patch)

theorem IsPattern.patched {conditions : List Condition} (h : IsPattern stored spec s)
    (hm : Merged stored (ClusterStore.conditionsPatch conditions) stored') :
    IsPattern stored' spec { s with conditions } := by
  obtain ⟨js, hjs, hs⟩ := h.spec
  refine ⟨hm.nodup, hm.metadata, ⟨js, ?_, hs⟩, (h.status.conditions (hm.others _ (by decide))).1⟩
  rw [hm.others _ (by decide), ClusterStore.conditionsPatch, merge_obj, mergeFields_obj,
    mergeFields_nil, field?, get?_put, if_neg (by decide)]
  exact hjs

namespace Cluster

namespace Target

/-- Whether characters without a number sign are those of a path and a query. -/
def isValid (cs : List Char) : Bool :=
  (cs.takeWhile (· ≠ '?')).all isPathChar && ((cs.dropWhile (· ≠ '?')).drop 1).all isQueryChar

theorem isSome_ofText?_iff {text : String} : (ofText? text).isSome ↔
    text.utf8ByteSize ≤ maxBytes ∧ isValid (text.toList.takeWhile (· ≠ '#')) = true := by
  simp only [ofText?, isValid, List.span_eq_takeWhile_dropWhile]
  split_ifs with h <;> simpa [and_assoc] using h

/-- A path without marks is the target of its text, if the text names a target at all. -/
theorem ofText?_queryMark {path : String} (h : ∀ c ∈ path.toList, c ≠ '?' ∧ c ≠ '#')
    (method : Method) :
    ofText? (path ++ method.queryMark) =
      if (path ++ method.queryMark).utf8ByteSize ≤ maxBytes ∧ path.toList.all isPathChar = true
      then some ⟨path, ""⟩ else none := by
  have hend : (path ++ method.queryMark).toList.takeWhile (· ≠ '#') =
      path.toList ++ method.queryMark.toList := by
    rw [String.toList_append, List.takeWhile_append_of_pos fun c hc => by simpa using (h c hc).2]
    cases method <;> rfl
  have hpath : (path.toList ++ method.queryMark.toList).takeWhile (· ≠ '?') = path.toList := by
    rw [List.takeWhile_append_of_pos fun c hc => by simpa using (h c hc).1]
    cases method <;> simp [Method.queryMark]
  have hquery : ((path.toList ++ method.queryMark.toList).dropWhile (· ≠ '?')).drop 1 = [] := by
    rw [List.dropWhile_append_of_pos fun c hc => by simpa using (h c hc).1]
    cases method <;> rfl
  simp only [ofText?, hend, List.span_eq_takeWhile_dropWhile, hpath, hquery]
  simp

/-- Characters that may stand anywhere in a target and do not divide it. -/
def isPlain (c : Char) : Bool := isPathChar c && isQueryChar c && c ≠ '?' && c ≠ '#'

theorem isPlain_iff {c : Char} : isPlain c = true ↔
    isPathChar c = true ∧ isQueryChar c = true ∧ c ≠ '?' ∧ c ≠ '#' := by
  simp [isPlain, and_assoc]

/-- What is plain, or begins a query, makes no difference at the end of a target. -/
theorem isValid_append {cs tail : List Char} (h : ∀ c ∈ tail, isPlain c = true ∨ c = '?') :
    isValid (cs ++ tail) = isValid cs := by
  have hquery (c : Char) (hc : c ∈ tail) : isQueryChar c = true := by
    rcases h c hc with hplain | rfl
    · exact (isPlain_iff.mp hplain).2.1
    · decide
  induction cs with
  | nil =>
    have hpath : (tail.takeWhile (· ≠ '?')).all isPathChar = true := by
      refine List.all_eq_true.mpr fun c hc => ?_
      have hne : c ≠ '?' := by simpa using List.mem_takeWhile_imp hc
      have hplain := (h c ((List.takeWhile_sublist _).subset hc)).resolve_right hne
      exact (isPlain_iff.mp hplain).1
    have hrest : ((tail.dropWhile (· ≠ '?')).drop 1).all isQueryChar = true :=
      List.all_eq_true.mpr fun c hc =>
        hquery c ((List.dropWhile_sublist _).subset (List.mem_of_mem_drop hc))
    rw [List.nil_append, isValid, hpath, hrest]
    rfl
  | cons c cs ih =>
    by_cases hc : c = '?'
    · simpa [isValid, hc] using fun _ => hquery
    · simpa [isValid, hc, Bool.and_assoc] using congrArg (isPathChar c && ·) ih

end Target

namespace Patterns

/-- What holds of all characters of a key, and of those that all paths have, holds of the path. -/
theorem all_pathOf {key : PatternKey} {f : Char → Bool}
    (hf : (groupPath ++ "/namespaces/" ++ Pattern.plural).toList.all f = true)
    (hkey : (key.name.toList ++ key.namespace_.toList).all f = true) :
    (pathOf key).toList.all f = true := by
  have hslash : f '/' = true := List.all_eq_true.mp hf '/' (by simp [groupPath])
  simp only [String.toList_append, List.all_append, Bool.and_eq_true] at hf hkey
  simp only [pathOf, String.toList_append, List.all_append, hf, hkey, Bool.true_and, Bool.and_true]
  simp [hslash]

/-- The request that reads a Pattern, if one can be made. -/
def reading (key : PatternKey) : Option Request :=
  (target? key "" .get).map fun target => ⟨.get, target, none⟩

/-- The request that replaces the conditions of a Pattern, if one can be made. -/
def writing (key : PatternKey) (conditions : List Condition) : Option Request :=
  (target? key "/status" .patch).map fun target =>
    ⟨.patch, target, some (.merge, ClusterStore.conditionsPatch conditions)⟩

variable {key : PatternKey} {conditions : List Condition} {answer : Request → τ → Answer × τ}
  {s : σ} {t : τ} {part : String} {method : Method}

/-- A plain part, and the mark behind it, make no difference to whether the text of a target is that
of a path and a query. -/
theorem isValid_targetText (hpart : part.toList.all Target.isPlain = true) :
    Target.isValid ((targetText key part method).toList.takeWhile (· ≠ '#')) =
      Target.isValid ((pathOf key).toList.takeWhile (· ≠ '#')) := by
  have htail (c : Char) (hc : c ∈ part.toList ++ method.queryMark.toList) :
      Target.isPlain c = true ∨ c = '?' := by
    rcases List.mem_append.mp hc with hc | hc
    · exact .inl (List.all_eq_true.mp hpart c hc)
    · cases method <;> simp_all [Method.queryMark]
  have hend : (part.toList ++ method.queryMark.toList).takeWhile (· ≠ '#') =
      part.toList ++ method.queryMark.toList := by
    refine List.takeWhile_eq_self_iff.mpr fun c hc => ?_
    rcases htail c hc with hplain | rfl
    · simpa using (Target.isPlain_iff.mp hplain).2.2.2
    · decide
  rw [targetText, String.append_assoc, String.toList_append, String.toList_append,
    List.takeWhile_append, hend]
  split_ifs with hlength
  · rw [Target.isValid_append htail, (List.takeWhile_sublist _).eq_of_length hlength]
  · rfl

/-- A request can be made of a key with a name, if the text of its target is not too long, and no
character up to the first number sign stands where it cannot. -/
theorem isSome_target?_iff (hpart : part.toList.all Target.isPlain = true) :
    (target? key part method).isSome ↔
      key.name ≠ "" ∧ (targetText key part method).utf8ByteSize ≤ Target.maxBytes ∧
        Target.isValid ((pathOf key).toList.takeWhile (· ≠ '#')) = true := by
  unfold target?
  split_ifs with hname
  · simp [hname]
  · rw [Target.isSome_ofText?_iff, isValid_targetText hpart]
    simp [hname]

/-- A Pattern that can be written can be read: its target has the same path, and is shorter. -/
theorem isSome_reading_of_writing (h : (writing key conditions).isSome) : (reading key).isSome := by
  rw [writing, Option.isSome_map, isSome_target?_iff (by decide)] at h
  rw [reading, Option.isSome_map, isSome_target?_iff rfl]
  refine ⟨h.1, le_trans ?_ h.2.1, h.2.2⟩
  simp [targetText, Method.queryMark, Nat.add_assoc]

section Run

variable {body : Option (PatchFormat × Json)} {target : Target} {r : Request}

theorem run_ask_of_none (h : target? key part method = none) :
    (ask key part method body).run answer s t = (some (.error .badRequest), s, t) := by
  rw [ask, h]
  rfl

theorem run_ask_of_some (h : target? key part method = some target) :
    (ask key part method body).run answer s t =
      (some ((answer ⟨method, target, body⟩ t).1.read Pattern.decode), s,
        (answer ⟨method, target, body⟩ t).2) := by
  rw [ask, h]
  rfl

end Run
end Patterns
end Cluster

namespace Drift

open Patterns

namespace ClusterStore

variable {key : PatternKey} {conditions : List Condition} {answer : Request → τ → Answer × τ}
  {s : σ} {t : τ} {r : Request}

/-- What is made of the answer to a request that reads a Pattern. -/
def fetched (key : PatternKey) : Except Failure Pattern → Except StoreError Pattern
  | .ok p => .ok p
  | .error (.refused r) =>
    if r.reason = "NotFound" then .error (.notFound key) else .error (.cluster (.refused r))
  | .error f => .error (.cluster f)

theorem run_fetch_of_none (h : reading key = none) :
    (fetch key).run answer s t = (some (.error (.cluster .badRequest)), s, t) := by
  have hask : (ask key "" .get none).run answer s t = (some (.error .badRequest), s, t) :=
    run_ask_of_none (Option.map_eq_none_iff.mp h)
  simp [fetch, Patterns.get?, Activity.run_bind, hask]

theorem run_fetch_of_some (h : reading key = some r) :
    (fetch key).run answer s t =
      (some (fetched key ((answer r t).1.read Pattern.decode)), s, (answer r t).2) := by
  obtain ⟨target, htarget, rfl⟩ := Option.map_eq_some_iff.mp h
  have hask : (ask key "" .get none).run answer s t = _ := run_ask_of_some htarget
  simp only [fetch, Patterns.get?, Activity.run_bind, hask]
  rcases (answer ⟨.get, target, none⟩ t).1.read Pattern.decode with f | p
  · cases f with
    | refused r => by_cases hr : r.reason = "NotFound" <;> simp [fetched, hr]
    | _ => simp [fetched]
  · simp [fetched]

theorem run_writeConditions_of_none (h : writing key conditions = none) :
    (writeConditions key conditions).run answer s t =
      (some (.error (.cluster .badRequest)), s, t) := by
  rw [writeConditions, Activity.run_bind, patchStatus,
    run_ask_of_none (Option.map_eq_none_iff.mp h)]
  rfl

theorem run_writeConditions_of_some (h : writing key conditions = some r) :
    (writeConditions key conditions).run answer s t =
      (some (((answer r t).1.read Pattern.decode).map (fun _ => ()) |>.mapError .cluster), s,
        (answer r t).2) := by
  obtain ⟨target, htarget, rfl⟩ := Option.map_eq_some_iff.mp h
  rw [writeConditions, Activity.run_bind, patchStatus, run_ask_of_some htarget]
  rcases (answer ⟨.patch, target, some (.merge, conditionsPatch conditions)⟩ t).1.read
    Pattern.decode with f | p <;> rfl

theorem asksOnce_conditions (key : PatternKey) :
    Activity.AsksOnce (ClusterStore.conditions key : Activity σ _) := by
  refine .bind (.bind (.bind (asksOnce_ask key _ _ _) fun x => ?_) fun x => ?_) fun x => ⟨_, rfl⟩
  · rcases x with f | p
    · cases f <;> exact ⟨_, rfl⟩
    · exact ⟨_, rfl⟩
  · rcases x with f | ⟨⟩ | p <;> exact ⟨_, rfl⟩

theorem asksOnce_writeConditions (key : PatternKey) (l : List Condition) :
    Activity.AsksOnce (writeConditions key l : Activity σ _) := by
  refine .bind (asksOnce_patchStatus key _) fun x => ?_
  cases x <;> exact ⟨_, rfl⟩

end ClusterStore

/-- A server that keeps Patterns by their keys. What it does is known for the keys in `keys`. -/
structure ApiServer (keys : Set PatternKey) (τ : Type) where
  answer : Request → τ → Answer × τ
  /-- What is stored under a key. -/
  stored : τ → PatternKey → Option Fields
  found : ∀ {key t r fields}, key ∈ keys → reading key = some r → stored t key = some fields →
    Grants (answer r t).1 (.obj fields) ∧ ∀ k ∈ keys, stored (answer r t).2 k = stored t k
  missing : ∀ {key t r l}, key ∈ keys → (reading key = some r ∨ writing key l = some r) →
    stored t key = none →
    SaysNotFound (answer r t).1 ∧ ∀ k ∈ keys, stored (answer r t).2 k = stored t k
  patched : ∀ {key t r l fields}, key ∈ keys → writing key l = some r →
    stored t key = some fields →
    ∃ fields', Merged fields (ClusterStore.conditionsPatch l) fields' ∧
      Grants (answer r t).1 (.obj fields') ∧
      ∀ k ∈ keys, stored (answer r t).2 k = if k = key then some fields' else stored t k

namespace ApiServer

/-- The server writes down the requests that it answers. -/
def logged (answer : Request → τ → Answer × τ) (r : Request) (x : τ × List Request) :
    Answer × (τ × List Request) :=
  ((answer r x.1).1, (answer r x.1).2, x.2 ++ [r])

variable {keys : Set PatternKey} (server : ApiServer keys τ)

/-- An activity comes to a result, sending requests on which the server goes from one state to
another. -/
def Does (m : Activity σ α) (t : τ) (a : α) (sent : List Request) (t' : τ) : Prop :=
  ∀ (s : σ) (log : List Request),
    m.run (logged server.answer) s (t, log) = (some a, s, t', log ++ sent)

/-- What is stored under the keys is left as it is. -/
def Leaves (t t' : τ) : Prop := ∀ key ∈ keys, server.stored t' key = server.stored t key

variable {server} {a : α} {b : β} {t t' t'' : τ} {sent sent' : List Request}

theorem Does.pure (a : α) (t : τ) : server.Does (Pure.pure a : Activity σ α) t a [] t := by
  intro s log
  rw [Activity.run_pure, List.append_nil]

theorem Does.bind {m : Activity σ α} {f : α → Activity σ β} (hm : server.Does m t a sent t')
    (hf : server.Does (f a) t' b sent' t'') : server.Does (m >>= f) t b (sent ++ sent') t'' := by
  intro s log
  rw [Activity.run_bind, hm s log, ← List.append_assoc]
  exact hf s _

theorem Does.map {m : Activity σ α} (hm : server.Does m t a sent t') (f : α → β) :
    server.Does (do return f (← m)) t (f a) sent t' := by
  have h := hm.bind (f := fun a => Pure.pure (f a)) (Does.pure (f a) t')
  rwa [List.append_nil] at h

end ApiServer
end Drift
end GitDrift
