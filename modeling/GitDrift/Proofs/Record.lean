import GitDrift.Json.Record
import GitDrift.Proofs.Fields

/-!
What is taken out of an object as a record: of each field its value, and what stands for a field
that is missing.
-/
namespace GitDrift.Json

open Fields

variable {α β : Type} {t : RecordType α} {p p' : RecordType.Partial α} {fields : Fields}
  {f : RecordField α} {name : String} {d : Decoder β} {get : α → β} {set : α → β → α}
  {presence : Presence} {a a' : α} {b b' : β} {j : Json}

/-- The value of a field that may be missing. -/
def valueOf (name : String) (d : Decoder β) (absent : β) (fields : Fields) :
    Except DecodeError β :=
  match Fields.get? fields name with
  | none => .ok absent
  | some j => d j

theorem valueOf_put {n : String} : valueOf name d b (Fields.put n j fields) =
    if name = n then d j else valueOf name d b fields := by
  unfold valueOf
  rw [get?_put]
  split_ifs <;> rfl

theorem valueOf_drop {n : String} : valueOf name d b (Fields.drop n fields) =
    if name = n then .ok b else valueOf name d b fields := by
  unfold valueOf
  rw [get?_drop]
  split_ifs <;> rfl

theorem field_set_eq_ok_iff :
    (field name d set presence).set a j = .ok a' ↔ ∃ b, d j = .ok b ∧ set a b = a' := by
  simp only [field, Decoder.map]
  cases d j <;> simp [Except.map]

/-- A value that was taken from a field fits that field. -/
theorem set_of_valueOf (h : valueOf name d b fields = .ok b') (j : Json)
    (hj : Fields.get? fields (field name d set presence).name = some j) (a : α) :
    ∃ a', (field name d set presence).set a j = .ok a' := by
  rw [valueOf, show Fields.get? fields name = some j from hj] at h
  exact ⟨set a b', field_set_eq_ok_iff.mpr ⟨b', h, rfl⟩⟩

namespace RecordType

/-- A part of records is what the value of one field says, and no other field touches it. -/
structure Slot (t : RecordType α) (name : String) (d : Decoder β) (get : α → β) : Prop where
  known : ∃ f ∈ t.fields, f.name = name
  own : ∀ f ∈ t.fields, f.name = name → ∀ a j a', f.set a j = .ok a' → d j = .ok (get a')
  other : ∀ f ∈ t.fields, f.name ≠ name → ∀ a j a', f.set a j = .ok a' → get a' = get a

theorem setField_eq_ok (ht : t.form = .strict) {x : String × Json}
    (h : t.setField p x = .ok p') :
    (∃ f ∈ t.fields, f.name = x.1 ∧ x.1 ∉ p.names ∧ p'.names = x.1 :: p.names ∧
      f.set p.record x.2 = .ok p'.record) ∨
    ((∀ f ∈ t.fields, f.name ≠ x.1) ∧ p'.names = p.names ∧ p'.record = p.record) := by
  unfold setField part at h
  cases hf : t.fields.find? (·.name = x.1) with
  | none =>
    obtain rfl : { p with others := x :: p.others } = p' := by simpa [hf, pure, Except.pure] using h
    exact .inr ⟨by simpa using List.find?_eq_none.mp hf, rfl, rfl⟩
  | some f =>
    have hname : f.name = x.1 := by simpa using List.find?_some hf
    by_cases hx : x.1 ∈ p.names
    · simp [hf, ht, hx] at h
    · simp only [hf, ht, List.contains_eq_mem, hx, decide_false, Bool.false_and,
        Bool.false_eq_true, if_false] at h
      cases hs : f.set p.record x.2 with
      | error e => simp [hs, bind, Except.bind] at h
      | ok a =>
        simp only [hs, bind, Except.bind, pure, Except.pure, Except.ok.injEq] at h
        subst h
        exact .inl ⟨f, List.mem_of_find?_eq_some hf, hname, hx, rfl, hs⟩

theorem foldlM_setField_cons {x : String × Json}
    (h : (x :: fields).foldlM t.setField p = .ok p') :
    ∃ p₁, t.setField p x = .ok p₁ ∧ fields.foldlM t.setField p₁ = .ok p' := by
  rw [List.foldlM_cons] at h
  cases hx : t.setField p x with
  | error e => simp [hx, bind, Except.bind] at h
  | ok p₁ => exact ⟨p₁, rfl, by simpa [hx, bind, Except.bind] using h⟩

/-- A part of a record that was made of fields, behind those that have been written. -/
theorem Slot.value (hs : t.Slot name d get) (ht : t.form = .strict)
    (h : fields.foldlM t.setField p = .ok p') :
    if name ∈ p.names then name ∉ fields.map Prod.fst ∧ get p'.record = get p.record
    else valueOf name d (get p.record) fields = .ok (get p'.record) := by
  induction fields generalizing p with
  | nil =>
    cases h
    split_ifs <;> simp [valueOf, get?]
  | cons x fields ih =>
    obtain ⟨p₁, hx, hrest⟩ := foldlM_setField_cons h
    have hih := ih hrest
    rcases setField_eq_ok ht hx with ⟨f, hf, hname, hnew, hnames, hset⟩ | ⟨hother, hnames, hrecord⟩
    · by_cases hxn : x.1 = name
      · -- it is written here, and not again
        subst hxn
        rw [hnames, if_pos List.mem_cons_self] at hih
        rw [if_neg hnew, valueOf, get?_cons, if_pos rfl, hih.2]
        exact hs.own f hf hname _ _ _ hset
      · have hget := hs.other f hf (by rwa [hname]) _ _ _ hset
        simpa [hnames, hget, valueOf, get?_cons, hxn, Ne.symm hxn] using hih
    · have hxn : x.1 ≠ name := by
        rintro rfl
        obtain ⟨f, hf, hname⟩ := hs.known
        exact hother f hf hname
      simpa [hnames, hrecord, valueOf, get?_cons, hxn, Ne.symm hxn] using hih

theorem finish_eq_ok (ht : t.form = .strict) (h : t.finish p = .ok a) : a = p.record := by
  unfold finish at h
  split at h
  · cases h
  · rw [ht] at h
    exact (Except.ok.inj h).symm

/-- A part of a record is the value of its field. -/
theorem Slot.of_decodeFields (hs : t.Slot name d get) (ht : t.form = .strict)
    (h : t.decodeFields fields = .ok a) :
    valueOf name d (get t.blank) fields = .ok (get a) := by
  unfold decodeFields at h
  cases hp : fields.foldlM t.setField { record := t.blank } with
  | error e => simp [hp, Except.bind] at h
  | ok p =>
    obtain rfl : a = p.record := finish_eq_ok ht (by simpa [hp, Except.bind] using h)
    simpa using hs.value ht hp

theorem setField_isOk {x : String × Json} (hnew : x.1 ∉ p.names)
    (hset : ∀ f ∈ t.fields, f.name = x.1 → ∀ a, ∃ a', f.set a x.2 = .ok a') :
    ∃ p', t.setField p x = .ok p' ∧ (∀ name, name ∈ p'.names → name = x.1 ∨ name ∈ p.names) ∧
      (∀ name ∈ p.names, name ∈ p'.names) ∧ ∀ f ∈ t.fields, f.name = x.1 → x.1 ∈ p'.names := by
  unfold setField part
  cases hf : t.fields.find? (·.name = x.1) with
  | none =>
    have hnone : ∀ f ∈ t.fields, f.name ≠ x.1 := by simpa using List.find?_eq_none.mp hf
    exact ⟨_, rfl, fun _ => .inr, fun _ => id, fun f hf hname => absurd hname (hnone f hf)⟩
  | some f =>
    have hname : f.name = x.1 := by simpa using List.find?_some hf
    obtain ⟨a, ha⟩ := hset f (List.mem_of_find?_eq_some hf) hname p.record
    simp only [hnew, ha, bind, Except.bind, pure, Except.pure, List.contains_eq_mem, decide_false,
      Bool.false_and, Bool.false_eq_true, if_false]
    exact ⟨_, rfl, fun _ => List.mem_cons.mp, fun _ => List.mem_cons_of_mem _,
      fun _ _ _ => List.mem_cons_self⟩

/-- Fields whose values fit, none of them twice, make a record, and what they say is known. -/
theorem foldlM_setField_isOk (hnodup : (fields.map Prod.fst).Nodup)
    (hnew : ∀ name ∈ p.names, name ∉ fields.map Prod.fst)
    (hset : ∀ f ∈ t.fields, ∀ j, Fields.get? fields f.name = some j →
      ∀ a, ∃ a', f.set a j = .ok a') :
    ∃ p', fields.foldlM t.setField p = .ok p' ∧ (∀ name ∈ p.names, name ∈ p'.names) ∧
      ∀ f ∈ t.fields, f.name ∈ fields.map Prod.fst → f.name ∈ p'.names := by
  induction fields generalizing p with
  | nil => exact ⟨p, rfl, fun _ => id, by simp⟩
  | cons x fields ih =>
    obtain ⟨hx, hnodup⟩ := List.nodup_cons.mp hnodup
    obtain ⟨p₁, h₁, hnames, hkept, hown⟩ := setField_isOk (t := t) (x := x)
      (fun hmem => hnew _ hmem List.mem_cons_self)
      fun f hf hname a => hset f hf x.2 (by rw [get?_cons, if_pos hname.symm]) a
    obtain ⟨p', h', hkept', hown'⟩ := ih (p := p₁) hnodup
      (fun name hname hmem => by
        rcases hnames name hname with rfl | hold
        · exact hx hmem
        · exact hnew name hold (List.mem_cons_of_mem _ hmem))
      fun f hf j hj a => hset f hf j (by
        rw [get?_cons, if_neg, hj]
        rintro heq
        exact hx (heq ▸ mem_of_get? hj)) a
    refine ⟨p', ?_, fun name hname => hkept' _ (hkept _ hname), fun f hf hmem => ?_⟩
    · rw [List.foldlM_cons, h₁]
      exact h'
    · rcases List.mem_cons.mp hmem with hfx | hmem
      · exact hkept' _ (hfx ▸ hown f hf hfx)
      · exact hown' f hf hmem

theorem decodeFields_isOk (ht : t.form = .strict) (hnodup : (fields.map Prod.fst).Nodup)
    (hset : ∀ f ∈ t.fields, ∀ j, Fields.get? fields f.name = some j →
      ∀ a, ∃ a', f.set a j = .ok a')
    (hrequired : ∀ f ∈ t.fields, f.presence = .required → f.name ∈ fields.map Prod.fst) :
    ∃ a, t.decodeFields fields = .ok a := by
  obtain ⟨p, hp, _, hknown⟩ :=
    foldlM_setField_isOk (p := { record := t.blank }) hnodup (by simp) hset
  have hnone : t.fields.find? (fun f => f.presence = .required && !p.names.contains f.name) =
      none := by
    simp only [List.find?_eq_none, Bool.and_eq_true, decide_eq_true_eq, Bool.not_eq_true',
      List.contains_eq_mem, decide_eq_false_iff_not, not_and, not_not]
    exact fun f hf hr => hknown f hf (hrequired f hf hr)
  refine ⟨p.record, ?_⟩
  simp only [decodeFields, hp, Except.bind, finish, hnone, ht]

end RecordType
end GitDrift.Json
