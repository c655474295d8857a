import GitDrift.Proofs.Agreement
import GitDrift.Proofs.Printed
import GitDrift.Proofs.StoredStatus

/-!
What is written of a Pattern's specification and status is read back as it was, as JSON and as a
text. A field is left out only where the value that stands for a missing one is its own.
-/
namespace GitDrift

open Json Json.Fields

variable {α : Type} {fields : Fields}

/-- What is written of a value is read as that value, from JSON and from a text. -/
def Restores (d : Decoder α) (encode : α → Json) (a : α) : Prop :=
  d (encode a) = .ok a ∧ readText d.reader (encode a).render = .ok a

theorem restores {d : Decoder α} {encode : α → Json} {a : α} {n : ℕ} (hd : d.Faithful)
    (hfits : Fits n (encode a)) (hn : n ≤ 127) (h : d (encode a) = .ok a) :
    Restores d encode a :=
  ⟨h, hd.readText (readText_render (hfits.mono hn)) h⟩

/-- A number of 64 bits. -/
def IsInt64 (n : ℤ) : Prop := -0x8000000000000000 ≤ n ∧ n ≤ 0x7fffffffffffffff

theorem IsInt64.isWord {n : ℤ} (h : IsInt64 n) : IsWord n := by
  unfold IsInt64 at h
  unfold IsWord
  omega

theorem int64_int {n : ℤ} (h : IsInt64 n) : Decoder.int64 (.int n) = .ok n := by
  change (if -0x8000000000000000 ≤ n ∧ n ≤ 0x7fffffffffffffff then Except.ok n else _) = _
  exact if_pos h

theorem faithful_set {β : Type} {d : Decoder β} {name : String} {set : α → β → α}
    {presence : Presence} (hd : d.Faithful) (a : α) :
    ((field name d set presence).set a).Faithful :=
  hd.map

variable {name : String} {β : Type} {d : Decoder β} {write : β → Json}

/-- A text as it is written where an empty one is left out. -/
def unlessEmpty (text : String) : Option Json := if text = "" then none else some (.str text)

theorem valueOf_of_get? {j : Json} (h : get? fields name = some j) (absent : β) :
    valueOf name d absent fields = d j := by
  rw [valueOf, h]

theorem valueOf_of_none (h : get? fields name = none) (absent : β) :
    valueOf name d absent fields = .ok absent := by
  rw [valueOf, h]

theorem valueOf_str {text : String} (h : get? fields name = some (.str text)) (absent : String) :
    valueOf name Decoder.string absent fields = .ok text :=
  valueOf_of_get? h absent

theorem valueOf_unlessEmpty {text : String} (h : get? fields name = unlessEmpty text) :
    valueOf name Decoder.string "" fields = .ok text := by
  unfold unlessEmpty at h
  split_ifs at h with htext
  · exact (valueOf_of_none h "").trans (congrArg _ htext.symm)
  · exact valueOf_str h ""

theorem valueOf_optional {o : Option β} (h : get? fields name = o.map write)
    (hd : ∀ b ∈ o, Decoder.optional d (write b) = .ok (some b)) :
    valueOf name (Decoder.optional d) none fields = .ok o := by
  cases o with
  | none => exact valueOf_of_none h none
  | some b => exact (valueOf_of_get? h none).trans (hd b rfl)

namespace GitConfig

variable {c : GitConfig}

theorem faithful : GitConfig.decode.Faithful := by
  refine RecordType.faithful ?_
  simp only [RecordType.FieldsFaithful, recordType, List.forall_mem_cons]
  exact ⟨faithful_set .string, faithful_set .string, faithful_set .string, faithful_set .string,
    faithful_set (.integer _ _ _), faithful_set .string, by simp⟩

theorem slots :
    recordType.Slot "targetRepo" Decoder.string (·.targetRepo) ∧
      recordType.Slot "targetRevision" Decoder.string (·.targetRevision) ∧
      recordType.Slot "originRepo" Decoder.string (·.originRepo) ∧
      recordType.Slot "originRevision" Decoder.string (·.originRevision) ∧
      recordType.Slot "pollInterval" Decoder.int64 (·.pollInterval) ∧
      recordType.Slot "hostname" Decoder.string (·.hostname) := by
  refine ⟨?_, ?_, ?_, ?_, ?_, ?_⟩ <;> constructor <;> simp [recordType, field_set_eq_ok_iff] <;>
    simp +contextual [field]

theorem decode_obj_iff (h : (fields.map Prod.fst).Nodup) :
    GitConfig.decode (.obj fields) = .ok c ↔
      valueOf "targetRepo" Decoder.string "" fields = .ok c.targetRepo ∧
      valueOf "targetRevision" Decoder.string "" fields = .ok c.targetRevision ∧
      valueOf "originRepo" Decoder.string "" fields = .ok c.originRepo ∧
      valueOf "originRevision" Decoder.string "" fields = .ok c.originRevision ∧
      valueOf "pollInterval" Decoder.int64 0 fields = .ok c.pollInterval ∧
      valueOf "hostname" Decoder.string "" fields = .ok c.hostname := by
  obtain ⟨starget, srevision, sorigin, soriginRevision, sinterval, shost⟩ := slots
  have hparts {c' : GitConfig} (hc : recordType.decodeFields fields = .ok c') :=
    And.intro (starget.of_decodeFields rfl hc) (And.intro (srevision.of_decodeFields rfl hc)
      (And.intro (sorigin.of_decodeFields rfl hc)
        (And.intro (soriginRevision.of_decodeFields rfl hc)
          (And.intro (sinterval.of_decodeFields rfl hc) (shost.of_decodeFields rfl hc)))))
  refine ⟨hparts, fun ⟨htarget, hrevision, horigin, horiginRevision, hinterval, hhost⟩ => ?_⟩
  obtain ⟨c', hc'⟩ : ∃ c', recordType.decodeFields fields = .ok c' := by
    refine RecordType.decodeFields_isOk rfl h ?_ (by simp [recordType, field])
    simp only [recordType, List.forall_mem_cons]
    exact ⟨set_of_valueOf htarget, set_of_valueOf hrevision, set_of_valueOf horigin,
      set_of_valueOf horiginRevision, set_of_valueOf hinterval, set_of_valueOf hhost, by simp⟩
  obtain ⟨htarget', hrevision', horigin', horiginRevision', hinterval', hhost'⟩ := hparts hc'
  obtain rfl : c = c' := by
    have h₁ := htarget.symm.trans htarget'
    have h₂ := hrevision.symm.trans hrevision'
    have h₃ := horigin.symm.trans horigin'
    have h₄ := horiginRevision.symm.trans horiginRevision'
    have h₅ := hinterval.symm.trans hinterval'
    have h₆ := hhost.symm.trans hhost'
    cases c
    cases c'
    simp_all
  exact hc'

theorem fields_encode (c : GitConfig) :
    get? c.encode.fields "targetRepo" = some (.str c.targetRepo) ∧
      get? c.encode.fields "targetRevision" = unlessEmpty c.targetRevision ∧
      get? c.encode.fields "originRepo" = unlessEmpty c.originRepo ∧
      get? c.encode.fields "originRevision" = unlessEmpty c.originRevision ∧
      get? c.encode.fields "pollInterval" = some (.int c.pollInterval) ∧
      get? c.encode.fields "hostname" = unlessEmpty c.hostname := by
  simp only [encode, Json.fields, textField, unlessEmpty]
  split_ifs <;> simp [get?]

theorem decode_encode (h : IsInt64 c.pollInterval) : GitConfig.decode c.encode = .ok c := by
  obtain ⟨htarget, hrevision, horigin, horiginRevision, hinterval, hhost⟩ := fields_encode c
  refine (decode_obj_iff ?_).mpr ⟨valueOf_str htarget "", valueOf_unlessEmpty hrevision,
    valueOf_unlessEmpty horigin, valueOf_unlessEmpty horiginRevision, ?_,
    valueOf_unlessEmpty hhost⟩
  · simp only [textField]
    split_ifs <;> simp
  · exact (valueOf_of_get? hinterval 0).trans (int64_int h)

theorem fits_encode (h : IsInt64 c.pollInterval) : Fits 1 c.encode := by
  refine .obj ?_
  simp only [textField]
  split_ifs <;> simp [Fits.str, int, Fits.num, h.isWord]

end GitConfig

namespace PatternSpec

variable {s : PatternSpec}

theorem faithful : PatternSpec.decode.Faithful := by
  refine RecordType.faithful ?_
  simp only [RecordType.FieldsFaithful, recordType, List.forall_mem_cons]
  exact ⟨faithful_set .string, faithful_set GitConfig.faithful, by simp⟩

theorem slots :
    recordType.Slot "clusterGroupName" Decoder.string (·.clusterGroupName) ∧
      recordType.Slot "gitSpec" GitConfig.decode (·.gitSpec) := by
  refine ⟨?_, ?_⟩ <;> constructor <;> simp [recordType, field_set_eq_ok_iff] <;>
    simp +contextual [field]

theorem decode_obj_iff (h : (fields.map Prod.fst).Nodup) :
    PatternSpec.decode (.obj fields) = .ok s ↔
      valueOf "clusterGroupName" Decoder.string defaultClusterGroup fields =
        .ok s.clusterGroupName ∧
      valueOf "gitSpec" GitConfig.decode {} fields = .ok s.gitSpec := by
  obtain ⟨sgroup, sgit⟩ := slots
  have hparts {s' : PatternSpec} (hs : recordType.decodeFields fields = .ok s') :=
    And.intro (sgroup.of_decodeFields rfl hs) (sgit.of_decodeFields rfl hs)
  refine ⟨hparts, fun ⟨hgroup, hgit⟩ => ?_⟩
  obtain ⟨s', hs'⟩ : ∃ s', recordType.decodeFields fields = .ok s' := by
    refine RecordType.decodeFields_isOk rfl h ?_ (by simp [recordType, field])
    simp only [recordType, List.forall_mem_cons]
    exact ⟨set_of_valueOf hgroup, set_of_valueOf hgit, by simp⟩
  obtain ⟨hgroup', hgit'⟩ := hparts hs'
  obtain rfl : s = s' := by
    have h₁ := hgroup.symm.trans hgroup'
    have h₂ := hgit.symm.trans hgit'
    cases s
    cases s'
    simp_all
  exact hs'

theorem decode_encode (h : IsInt64 s.gitSpec.pollInterval) :
    PatternSpec.decode s.encode = .ok s := by
  refine (decode_obj_iff (by simp)).mpr ?_
  simp [valueOf, get?, Decoder.string, Decoder.text, GitConfig.decode_encode h]

theorem fits_encode (h : IsInt64 s.gitSpec.pollInterval) : Fits 2 s.encode := by
  refine .obj ?_
  simp [Fits.str, GitConfig.fits_encode h]

end PatternSpec

namespace Condition

theorem faithful : Condition.decode.Faithful := by
  refine RecordType.faithful ?_
  simp only [RecordType.FieldsFaithful, recordType, List.forall_mem_cons]
  exact ⟨faithful_set (.variant _), faithful_set (.variant _), faithful_set .string,
    faithful_set .string, faithful_set .string, by simp⟩

theorem fits_encode (c : Condition) : Fits 1 c.encode := by
  refine .obj ?_
  simp only [textField]
  split_ifs <;> simp [Fits.str]

end Condition

namespace PatternStatus

variable {s : PatternStatus}

theorem faithful : PatternStatus.decode.Faithful := by
  refine RecordType.faithful ?_
  simp only [RecordType.FieldsFaithful, recordType, List.forall_mem_cons]
  exact ⟨faithful_set (.optional .string), faithful_set (.optional .string),
    faithful_set (.optional (.integer _ _ _)), faithful_set (.list Condition.faithful), by simp⟩

theorem fields_encode (s : PatternStatus) :
    get? s.encode.fields "lastStep" = s.lastStep.map .str ∧
      get? s.encode.fields "lastError" = s.lastError.map .str ∧
      get? s.encode.fields "version" = s.version.map .int ∧
      get? s.encode.fields "conditions" =
        if s.conditions = [] then none else some (encodeConditions s.conditions) := by
  obtain ⟨step, error, version, conditions⟩ := s
  cases step <;> cases error <;> cases version <;>
    simp only [encode, Json.fields, optionalField] <;> split_ifs <;> simp [get?]

theorem decode_encode (h : ∀ n ∈ s.version, IsInt64 n) : PatternStatus.decode s.encode = .ok s := by
  obtain ⟨hstep, herror, hversion, hconditions⟩ := fields_encode s
  refine (decode_obj_iff ?_).mpr ⟨valueOf_optional hstep fun _ _ => rfl,
    valueOf_optional herror fun _ _ => rfl, valueOf_optional hversion fun n hn => ?_, ?_⟩
  · obtain ⟨step, error, version, conditions⟩ := s
    cases step <;> cases error <;> cases version <;> split_ifs <;> simp [optionalField]
  · change (Decoder.int64 (.int n)).map some = _
    rw [int64_int (h n hn)]
    rfl
  · split_ifs at hconditions with hnil
    · exact (valueOf_of_none hconditions []).trans (congrArg _ hnil.symm)
    · exact (valueOf_of_get? hconditions []).trans
        (Condition.decode_encodeConditions s.conditions)

theorem fits_optionalField {n : ℕ} {o : Option β} (h : ∀ b ∈ o, Fits n (write b)) :
    ∀ f ∈ optionalField name write o, Fits n f.2 := by
  cases o with
  | none => simp [optionalField]
  | some b => simpa [optionalField] using h b rfl

theorem fits_encode (h : ∀ n ∈ s.version, IsInt64 n) : Fits 3 s.encode := by
  have hconditions : Fits 2 (encodeConditions s.conditions) := by
    refine .arr fun j hj => ?_
    obtain ⟨c, _, rfl⟩ := List.mem_map.mp hj
    exact c.fits_encode
  refine .obj ?_
  simp only [List.forall_mem_append]
  refine ⟨⟨⟨?_, ?_⟩, ?_⟩, ?_⟩
  · split_ifs <;> simp [hconditions]
  · exact fits_optionalField fun e _ => .str 2 e
  · exact fits_optionalField fun step _ => .str 2 step
  · exact fits_optionalField fun n hn => .num 2 (h n hn).isWord

end PatternStatus

/-- Whatever is written of a configuration, a specification, a condition or a status is read back
as it was, from JSON and from a text. Only what is empty is left out: the cluster group is written
even if it is empty, and so are a last step and a last error that are empty texts. -/
theorem encodings_lossless :
    (∀ c : GitConfig, IsInt64 c.pollInterval → Restores GitConfig.decode GitConfig.encode c ∧
      ∀ p ∈ [("targetRevision", c.targetRevision), ("originRepo", c.originRepo),
        ("originRevision", c.originRevision), ("hostname", c.hostname)],
        field? p.1 c.encode = unlessEmpty p.2) ∧
    (∀ s : PatternSpec, IsInt64 s.gitSpec.pollInterval →
      Restores PatternSpec.decode PatternSpec.encode s ∧
        field? "clusterGroupName" s.encode = some (.str s.clusterGroupName)) ∧
    (∀ c : Condition, Restores Condition.decode Condition.encode c ∧
      ∀ p ∈ [("lastTransitionTime", c.lastTransitionTime), ("message", c.message)],
        field? p.1 c.encode = unlessEmpty p.2) ∧
    ∀ s : PatternStatus, (∀ n ∈ s.version, IsInt64 n) →
      Restores PatternStatus.decode PatternStatus.encode s ∧
        field? "lastStep" s.encode = s.lastStep.map .str ∧
        field? "lastError" s.encode = s.lastError.map .str ∧
        (field? "conditions" s.encode = none ↔ s.conditions = []) := by
  refine ⟨fun c hc => ⟨?_, ?_⟩, fun s hs => ⟨?_, rfl⟩, fun c => ⟨?_, ?_⟩, fun s hs => ⟨?_, ?_⟩⟩
  · exact restores GitConfig.faithful (GitConfig.fits_encode hc) (by decide)
      (GitConfig.decode_encode hc)
  · obtain ⟨_, hrevision, horigin, horiginRevision, _, hhost⟩ := GitConfig.fields_encode c
    simpa using ⟨hrevision, horigin, horiginRevision, hhost⟩
  · exact restores PatternSpec.faithful (PatternSpec.fits_encode hs) (by decide)
      (PatternSpec.decode_encode hs)
  · exact restores Condition.faithful c.fits_encode (by decide) c.decode_encode
  · simp only [Condition.encode, textField, unlessEmpty]
    split_ifs <;> simp [field?, get?, *]
  · exact restores PatternStatus.faithful (PatternStatus.fits_encode hs) (by decide)
      (PatternStatus.decode_encode hs)
  · obtain ⟨hstep, herror, _, hconditions⟩ := PatternStatus.fields_encode s
    refine ⟨hstep, herror, ?_⟩
    change get? s.encode.fields "conditions" = none ↔ _
    rw [hconditions]
    simp

/-- An empty cluster group, an empty last step and the bounds of numbers are kept. -/
theorem empty_texts_kept :
    Restores GitConfig.decode GitConfig.encode { pollInterval := -0x8000000000000000 } ∧
      Restores PatternSpec.decode PatternSpec.encode
        { clusterGroupName := "", gitSpec := { pollInterval := 0x7fffffffffffffff } } ∧
      Restores PatternStatus.decode PatternStatus.encode
        { lastStep := some "", version := some (-1) } := by
  obtain ⟨hconfig, hspec, _, hstatus⟩ := encodings_lossless
  exact ⟨(hconfig _ (by simp [IsInt64])).1, (hspec _ (by simp [IsInt64])).1,
    (hstatus _ (by simp [IsInt64])).1⟩

end GitDrift
