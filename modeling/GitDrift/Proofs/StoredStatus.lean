import GitDrift.Drift.ClusterStore
import GitDrift.Proofs.Record
import GitDrift.Reconcile.Step

/-!
The status of a stored Pattern, and what patches make of it. The patch of one writer leaves the part
of the other.
-/
namespace GitDrift

open Json Json.Fields Drift

variable {fields stored : Fields} {s : PatternStatus}

theorem ConditionType.decode_name (t : ConditionType) :
    ConditionType.decode (.str t.name) = .ok t := by
  cases t <;> rfl

theorem ConditionStatus.decode_name (s : ConditionStatus) :
    ConditionStatus.decode (.str s.name) = .ok s := by
  cases s <;> rfl

namespace Condition

theorem slots :
    recordType.Slot "type" ConditionType.decode (·.type) ∧
      recordType.Slot "status" ConditionStatus.decode (·.status) ∧
      recordType.Slot "lastUpdateTime" Decoder.string (·.lastUpdateTime) ∧
      recordType.Slot "lastTransitionTime" Decoder.string (·.lastTransitionTime) ∧
      recordType.Slot "message" Decoder.string (·.message) := by
  refine ⟨?_, ?_, ?_, ?_, ?_⟩ <;> constructor <;> simp [recordType, field_set_eq_ok_iff] <;>
    simp +contextual [field]

/-- What is written of a condition is what it says, and texts that are left out are empty. -/
theorem valueOf_encode (c : Condition) :
    valueOf "type" ConditionType.decode .unknown c.encode.fields = .ok c.type ∧
      valueOf "status" ConditionStatus.decode .unknown c.encode.fields = .ok c.status ∧
      valueOf "lastUpdateTime" Decoder.string "" c.encode.fields = .ok c.lastUpdateTime ∧
      valueOf "lastTransitionTime" Decoder.string "" c.encode.fields =
        .ok c.lastTransitionTime ∧
      valueOf "message" Decoder.string "" c.encode.fields = .ok c.message := by
  simp only [encode, Json.fields, textField]
  split_ifs with ht hm hm <;>
    simp [valueOf, get?, Decoder.string, Decoder.text, ConditionType.decode_name,
      ConditionStatus.decode_name, *]

theorem decode_encode (c : Condition) : Condition.decode c.encode = .ok c := by
  obtain ⟨htype, hstatus, hupdate, htransition, hmessage⟩ := valueOf_encode c
  obtain ⟨c', hc'⟩ : ∃ c', recordType.decodeFields c.encode.fields = .ok c' := by
    refine RecordType.decodeFields_isOk rfl ?_ ?_ ?_
    · simp only [encode, Json.fields, textField]
      split_ifs <;> simp
    · simp only [recordType, List.forall_mem_cons]
      exact ⟨set_of_valueOf htype, set_of_valueOf hstatus, set_of_valueOf hupdate,
        set_of_valueOf htransition, set_of_valueOf hmessage, by simp⟩
    · simp [recordType, field, encode, Json.fields]
  obtain ⟨stype, sstatus, supdate, stransition, smessage⟩ := slots
  have h₁ := htype.symm.trans (stype.of_decodeFields rfl hc')
  have h₂ := hstatus.symm.trans (sstatus.of_decodeFields rfl hc')
  have h₃ := hupdate.symm.trans (supdate.of_decodeFields rfl hc')
  have h₄ := htransition.symm.trans (stransition.of_decodeFields rfl hc')
  have h₅ := hmessage.symm.trans (smessage.of_decodeFields rfl hc')
  obtain rfl : c = c' := by
    cases c
    cases c'
    simp_all
  exact hc'

theorem decode_encodeConditions (conditions : List Condition) :
    Decoder.list Condition.decode (encodeConditions conditions) = .ok conditions := by
  change (conditions.map encode).mapM Condition.decode.ofJson = .ok conditions
  induction conditions with
  | nil => rfl
  | cons c conditions ih => simp [decode_encode, ih, bind, Except.bind, pure, Except.pure]

end Condition

namespace PatternStatus

theorem slots :
    recordType.Slot "lastStep" (Decoder.optional Decoder.string) (·.lastStep) ∧
      recordType.Slot "lastError" (Decoder.optional Decoder.string) (·.lastError) ∧
      recordType.Slot "version" (Decoder.optional Decoder.int64) (·.version) ∧
      recordType.Slot "conditions" (Decoder.list Condition.decode) (·.conditions) := by
  refine ⟨?_, ?_, ?_, ?_⟩ <;> constructor <;> simp [recordType, field_set_eq_ok_iff] <;>
    simp +contextual [field]

theorem decode_obj_iff (h : (fields.map Prod.fst).Nodup) :
    PatternStatus.decode (.obj fields) = .ok s ↔
      valueOf "lastStep" (Decoder.optional Decoder.string) none fields = .ok s.lastStep ∧
      valueOf "lastError" (Decoder.optional Decoder.string) none fields = .ok s.lastError ∧
      valueOf "version" (Decoder.optional Decoder.int64) none fields = .ok s.version ∧
      valueOf "conditions" (Decoder.list Condition.decode) [] fields = .ok s.conditions := by
  obtain ⟨sstep, serror, sversion, sconditions⟩ := slots
  have hparts {s' : PatternStatus} (hs : recordType.decodeFields fields = .ok s') :=
    And.intro (sstep.of_decodeFields rfl hs) (And.intro (serror.of_decodeFields rfl hs)
      (And.intro (sversion.of_decodeFields rfl hs) (sconditions.of_decodeFields rfl hs)))
  refine ⟨hparts, fun ⟨hstep, herror, hversion, hconditions⟩ => ?_⟩
  obtain ⟨s', hs'⟩ : ∃ s', recordType.decodeFields fields = .ok s' := by
    refine RecordType.decodeFields_isOk rfl h ?_ (by simp [recordType, field])
    simp only [recordType, List.forall_mem_cons]
    exact ⟨set_of_valueOf hstep, set_of_valueOf herror, set_of_valueOf hversion,
      set_of_valueOf hconditions, by simp⟩
  obtain ⟨h₁, h₂, h₃, h₄⟩ := hparts hs'
  obtain rfl : s = s' := by
    have h₁ := hstep.symm.trans h₁
    have h₂ := herror.symm.trans h₂
    have h₃ := hversion.symm.trans h₃
    have h₄ := hconditions.symm.trans h₄
    cases s
    cases s'
    simp_all
  exact hs'

end PatternStatus

theorem Pattern.slot_status :
    Pattern.recordType.Slot "status" (Decoder.optional PatternStatus.decode) (·.status) := by
  constructor <;> simp [recordType, field_set_eq_ok_iff] <;> simp +contextual [field]

/-- A stored Pattern has a status, or none that says anything. A status is an object, as the
definition of Patterns asks for. -/
def HasStatus (stored : Fields) (s : PatternStatus) : Prop :=
  match get? stored "status" with
  | none | some .null => s = {}
  | some (.obj fields) => Ordered fields ∧ PatternStatus.decode (.obj fields) = .ok s
  | some _ => False

/-- A field of the stored status as it is written. -/
def written (stored : Fields) (name : String) : Option Json :=
  (get? stored "status").bind (field? name)

/-- The status is what is read of the Pattern. -/
theorem HasStatus.decode {p : Pattern} (h : HasStatus stored s)
    (hp : Pattern.decode (.obj stored) = .ok p) : p.status.getD {} = s := by
  have hvalue : valueOf "status" (Decoder.optional PatternStatus.decode) none stored =
      .ok p.status := Pattern.slot_status.of_decodeFields rfl hp
  unfold HasStatus at h
  unfold valueOf at hvalue
  split at h <;> rename_i hstatus <;> rw [hstatus] at hvalue
  · rw [← Except.ok.inj hvalue, h]
    rfl
  · rw [← Except.ok.inj hvalue, h]
    rfl
  · change (PatternStatus.decode _).map some = _ at hvalue
    rw [h.2] at hvalue
    rw [← Except.ok.inj hvalue]
    rfl
  · exact h.elim

theorem HasStatus.unique {s' : PatternStatus} (h : HasStatus stored s) (h' : HasStatus stored s') :
    s = s' := by
  unfold HasStatus at h h'
  split at h <;> rename_i hstatus <;> rw [hstatus] at h'
  · exact h.trans h'.symm
  · exact h.trans h'.symm
  · exact Except.ok.inj (h.2.symm.trans h'.2)
  · exact h.elim

theorem hasStatus_of_obj (hg : get? stored "status" = some (.obj fields)) (ho : Ordered fields)
    (hd : PatternStatus.decode (.obj fields) = .ok s) : HasStatus stored s := by
  unfold HasStatus
  rw [hg]
  exact ⟨ho, hd⟩

section Patches

variable {stored' patch : Fields}

/-- What a patch of the status is applied to. -/
theorem HasStatus.merge (h : HasStatus stored s)
    (hm : get? stored' "status" =
      field? "status" ((Json.obj stored).merge (.obj [("status", .obj patch)]))) :
    ∃ fields, Ordered fields ∧ PatternStatus.decode (.obj fields) = .ok s ∧
      (∀ name, get? fields name = written stored name) ∧
      get? stored' "status" = some (.obj (mergeFields fields patch)) := by
  have hput : get? stored' "status" =
      some (.obj (mergeFields ((get? stored "status").getD .null).fields patch)) := by
    rw [hm, merge_obj, mergeFields_obj, mergeFields_nil, field?, get?_put, if_pos rfl]
    rfl
  have hnone : PatternStatus.decode (.obj []) = .ok {} := rfl
  unfold HasStatus at h
  unfold written
  split at h <;> rename_i hstatus <;> rw [hstatus] at hput ⊢
  · subst h
    exact ⟨[], List.Pairwise.nil, hnone, fun _ => rfl, hput⟩
  · subst h
    exact ⟨[], List.Pairwise.nil, hnone, fun _ => rfl, hput⟩
  · exact ⟨_, h.1, h.2, fun _ => rfl, hput⟩
  · exact h.elim

theorem written_of_obj (hg : get? stored "status" = some (.obj fields)) (name : String) :
    written stored name = get? fields name := by
  rw [written, hg]
  rfl

/-- The patch of a step replaces step and error and leaves the conditions. -/
theorem HasStatus.step (h : HasStatus stored s) {step : String} {error : Option String}
    (hm : get? stored' "status" =
      field? "status" ((Json.obj stored).merge (Reconcile.stepPatch step error))) :
    HasStatus stored' { s with lastStep := some step, lastError := error } ∧
      written stored' "lastError" = error.map .str := by
  obtain ⟨fields, ho, hd, _, hg⟩ := h.merge hm
  obtain ⟨_, _, hversion, hconditions⟩ := (PatternStatus.decode_obj_iff ho.nodup).mp hd
  cases error with
  | none =>
    rw [ofText?, mergeFields_null, mergeFields_str, mergeFields_nil] at hg
    have ho' := ordered_put (n := "lastStep") (v := .str step) (ordered_drop (n := "lastError") ho)
    constructor
    · refine hasStatus_of_obj hg ho' ((PatternStatus.decode_obj_iff ho'.nodup).mpr ?_)
      simp only [valueOf_put, valueOf_drop]
      exact ⟨rfl, rfl, hversion, hconditions⟩
    · rw [written_of_obj hg, get?_put, get?_drop]
      rfl
  | some e =>
    rw [ofText?, mergeFields_str, mergeFields_str, mergeFields_nil] at hg
    have ho' := ordered_put (n := "lastStep") (v := .str step)
      (ordered_put (n := "lastError") (v := .str e) ho)
    constructor
    · refine hasStatus_of_obj hg ho' ((PatternStatus.decode_obj_iff ho'.nodup).mpr ?_)
      simp only [valueOf_put]
      exact ⟨rfl, rfl, hversion, hconditions⟩
    · rw [written_of_obj hg, get?_put, get?_put]
      rfl

/-- The patch of conditions replaces them and leaves step and error. -/
theorem HasStatus.conditions (h : HasStatus stored s) {conditions : List Condition}
    (hm : get? stored' "status" =
      field? "status" ((Json.obj stored).merge (ClusterStore.conditionsPatch conditions))) :
    HasStatus stored' { s with conditions } ∧
      written stored' "lastError" = written stored "lastError" := by
  obtain ⟨fields, ho, hd, hwritten, hg⟩ := h.merge hm
  obtain ⟨hstep, herror, hversion, _⟩ := (PatternStatus.decode_obj_iff ho.nodup).mp hd
  rw [encodeConditions, mergeFields_arr, mergeFields_nil] at hg
  have ho' := ordered_put (n := "conditions") (v := encodeConditions conditions) ho
  constructor
  · refine hasStatus_of_obj hg ho' ((PatternStatus.decode_obj_iff ho'.nodup).mpr ?_)
    simp only [valueOf_put]
    exact ⟨hstep, herror, hversion, Condition.decode_encodeConditions conditions⟩
  · rw [written_of_obj hg, get?_put, ← hwritten]
    rfl

end Patches

end GitDrift
