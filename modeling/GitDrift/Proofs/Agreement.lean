import GitDrift.Json.Record
import GitDrift.Proofs.Passing

/-!
Reading a typed value from a text agrees with taking it out of the JSON that the text is: where JSON
is read out of which a value can be taken, that value is read, and up to the same place.
-/
namespace GitDrift.Json

open Reader

variable {α β : Type} {d : Decoder α} {r : Reader α} {c c' c₁ : Cursor} {a : α} {j : Json}
  {first : Bool} {k m n : ℕ} {name expected : String} {fields : Fields}

/-- Where JSON is read that a value is taken out of, a reader reads that value. -/
def Agrees (n : ℕ) (take : Json → Except DecodeError α) (r : Reader α) : Prop :=
  ∀ c j c' a, c.Valid → Reads (readValueFrom n) c j c' → take j = .ok a → Reads r c a c'

/-- Both ways of a decoder have the same result. -/
def Decoder.Faithful (d : Decoder α) : Prop := ∀ n ≤ 128, Agrees n d.ofJson d.reader

section

variable {γ δ ε : Type} {f : γ → Except ε δ} {x : γ} {l : List γ} {l' : List δ}

theorem mapM_cons_eq_ok : (x :: l).mapM f = .ok l' ↔
    ∃ y ys, f x = .ok y ∧ l.mapM f = .ok ys ∧ y :: ys = l' := by
  rw [List.mapM_cons]
  cases f x with
  | error e => simp [bind, Except.bind]
  | ok y => cases l.mapM f <;> simp [bind, Except.bind, pure, Except.pure]

theorem bind_eq_ok {y : Except ε γ} {z : δ} {g : γ → Except ε δ} (h : y >>= g = .ok z) :
    ∃ x, y = .ok x ∧ g x = .ok z := by
  cases y with
  | error e => cases h
  | ok x => exact ⟨x, rfl, h⟩

theorem length_of_mapM (h : l.mapM f = .ok l') : l'.length = l.length := by
  induction l generalizing l' with
  | nil =>
    cases h
    rfl
  | cons x l ih =>
    obtain ⟨y, ys, _, hys, rfl⟩ := mapM_cons_eq_ok.mp h
    rw [List.length_cons, ih hys, List.length_cons]

theorem mapM_ok (l : List γ) : l.mapM (.ok : γ → Except ε γ) = .ok l := by
  induction l with
  | nil => rfl
  | cons x l ih => exact mapM_cons_eq_ok.mpr ⟨x, l, rfl, ih, rfl⟩

end

theorem Items.agrees {take : Json → Except DecodeError α} {js : List Json} {as : List α}
    (hr : Agrees n take r) (h : Items (readValueFrom n) first c js c') (hc : c.Valid)
    (hjs : js.mapM take = .ok as) : Items r first c as c' := by
  induction h generalizing as with
  | stop h =>
    cases hjs
    exact .stop h
  | item h hj _ ih =>
    obtain ⟨a, as, ha, htail, rfl⟩ := mapM_cons_eq_ok.mp hjs
    have hc₁ := hc.nextItem h
    exact .item h (hr _ _ _ _ hc₁ hj ha) (ih (hc₁.value hj) htail)

theorem Members.agrees {take : Json → Except DecodeError α} {as : List (String × α)}
    (hr : Agrees n take r) (h : Members (readValueFrom n) first c fields c') (hc : c.Valid)
    (hfields : fields.mapM (fun f => (take f.2).map fun a => (f.1, a)) = .ok as) :
    Members r first c as c' := by
  induction h generalizing as with
  | stop h =>
    cases hfields
    exact .stop h
  | @member _ _ c₁ c₂ c₃ c' name j fields h hcolon hj _ ih =>
    obtain ⟨x, as, hx, htail, rfl⟩ := mapM_cons_eq_ok.mp hfields
    obtain ⟨a, ha, rfl⟩ : ∃ a, take j = .ok a ∧ (name, a) = x := by
      cases hj : take j <;> simp_all [Except.map]
    have hc₂ := (hc.nextKey? h).readColon hcolon
    exact .member h hcolon (hr _ _ _ _ hc₂ hj ha) (ih (hc₂.value hj) htail)

/-- What is read is read as well where more brackets may be opened. -/
theorem readValueFrom_mono (h : n ≤ m) : Agrees n .ok (readValueFrom m) := by
  induction n generalizing m with
  | zero => simp [Agrees, readValueFrom]
  | succ n ih =>
    obtain ⟨m, rfl⟩ : ∃ k, m = k + 1 := ⟨m - 1, by omega⟩
    have hvalue : Agrees n .ok (readValueFrom m) := ih (Nat.le_of_succ_le_succ h)
    rintro c j c' _ hc h ⟨⟩
    rw [reads_readValueFrom] at h ⊢
    cases h with
    | null h hw => exact .null h hw
    | yes h hw => exact .yes h hw
    | no h hw => exact .no h hw
    | str h hs => exact .str h hs
    | num h hch hm => exact .num h hch hm
    | @arr _ js h hl hlt hi =>
      exact .arr h hl hlt (hi.agrees hvalue hc.past.inside (mapM_ok js))
    | @obj _ fields h hl hlt hf =>
      exact .obj h hl hlt (hf.agrees hvalue hc.past.inside (mapM_ok fields))

theorem ValueAt.head?_ne_n (h : ValueAt n c j c') (hj : j ≠ .null) : c.rest.head? ≠ some 'n' := by
  cases h with
  | null => exact absurd rfl hj
  | num h hch => simpa [h] using (lead_of_number hch).2.2.1
  | _ => simp [*]

theorem head?_of_null (h : Reads (readValueFrom n) c .null c') :
    c.past.rest.head? = some 'n' ∧ Reads (readWord ['u', 'l', 'l'] ()) c.past.next () c' := by
  cases n with
  | zero => simp [readValueFrom] at h
  | succ n =>
    cases reads_readValueFrom.mp h with
    | null h hw => exact ⟨h, hw⟩

theorem reads_readBy {choose : Char → Option (Reader α)} {ch : Char}
    (h : c.past.rest.head? = some ch) (hr : choose ch = some r) :
    Reads (readBy expected choose) c a c' ↔ Reads r c.past a c' := by
  simp [readBy, h, hr]

namespace Decoder.Faithful

theorem raw : Decoder.raw.Faithful := fun _ hn => readValueFrom_mono hn

theorem map {f : α → β} (hd : d.Faithful) : (d.map f).Faithful := by
  intro n hn c j c' b hc h hb
  obtain ⟨a, ha, rfl⟩ : ∃ a, d j = .ok a ∧ f a = b := by
    change (d j).map f = .ok b at hb
    cases hj : d j <;> simp_all [Except.map]
  exact reads_map.mpr ⟨a, hd n hn c j c' a hc h ha, rfl⟩

theorem any : Decoder.any.Faithful := raw.map

theorem refine {f : α → Except DecodeError β} (hd : d.Faithful) : (d.refine f).Faithful := by
  intro n hn c j c' b hc h hb
  obtain ⟨a, ha, hfa⟩ : ∃ a, d j = .ok a ∧ f a = .ok b := by
    change (d j).bind f = .ok b at hb
    cases hj : d j <;> simp_all [Except.bind]
  refine reads_bind.mpr ⟨a, c', hd n hn c j c' a hc h ha, ?_⟩
  simp [hfa]

/-- A decoder is faithful if it reads what is read from a first character on. -/
theorem of_valueAt (h : ∀ n < 128, ∀ c j c' a, c.Valid → ValueAt n c.past j c' → d j = .ok a →
    Reads d.reader c a c') : d.Faithful := by
  intro n hn c j c' a hc hread ha
  cases n with
  | zero => simp [readValueFrom] at hread
  | succ n => exact h n hn c j c' a hc (reads_readValueFrom.mp hread) ha

theorem text (expected : String) : (Decoder.text expected).Faithful := by
  refine of_valueAt fun n _ c j c' a hc h ha => ?_
  cases h with
  | str h hs =>
    cases ha
    exact (reads_readBy h (by simp)).mpr hs
  | _ => cases ha

theorem string : Decoder.string.Faithful := text _

theorem boolean : Decoder.boolean.Faithful := by
  refine of_valueAt fun n _ c j c' a hc h ha => ?_
  cases h with
  | yes h hw =>
    cases ha
    exact (reads_readBy h rfl).mpr (by simpa using reads_readWord.mpr ⟨hw, rfl⟩)
  | no h hw =>
    cases ha
    exact (reads_readBy h rfl).mpr (by simpa using reads_readWord.mpr ⟨hw, rfl⟩)
  | _ => cases ha

theorem number (expected : String) : (Decoder.number expected).Faithful := by
  refine of_valueAt fun n _ c j c' a hc h ha => ?_
  cases h with
  | num h hch hm =>
    cases ha
    exact (reads_readBy h (by simp [hch])).mpr hm
  | _ => cases ha

theorem integer (lo hi : ℤ) (name : String) : (Decoder.integer lo hi name).Faithful :=
  (number name).refine

theorem optional (hd : d.Faithful) : (Decoder.optional d).Faithful := by
  intro n hn c j c' o hc hread ho
  simp only [Decoder.optional, reads_peek?_bind]
  cases n with
  | zero => simp [readValueFrom] at hread
  | succ n =>
    have hvalue := reads_readValueFrom.mp hread
    by_cases hj : j = .null
    · subst hj
      cases hvalue with
      | null h hw =>
        cases ho
        simpa [h] using reads_readWord.mpr ⟨hw, rfl⟩
    · obtain ⟨a, ha, rfl⟩ : ∃ a, d j = .ok a ∧ some a = o := by
        cases j with
        | null => exact absurd rfl hj
        | _ =>
          change (d _).map some = .ok o at ho
          cases hd : d _ <;> simp_all [Except.map]
      have hagree := hd _ hn c.past j c' a hc.past (reads_past.mpr hread) ha
      rw [reads_ite, reads_map]
      exact .inr ⟨hvalue.head?_ne_n hj, a, hagree, rfl⟩

theorem list (hd : d.Faithful) : (Decoder.list d).Faithful := by
  refine of_valueAt fun n hn c j c' as hc h has => ?_
  cases h with
  | arr h hl hlt hi =>
    refine (reads_readBy h (by simp; rfl)).mpr (reads_readArray.mpr ⟨hl, ?_, _, ?_, rfl⟩)
    · rw [length_of_mapM has]
      exact hlt
    · exact hi.agrees (hd n hn.le) hc.past.inside has
  | _ => cases has

theorem fieldsOf (hd : d.Faithful) : (Decoder.fieldsOf d).Faithful := by
  refine of_valueAt fun n hn c j c' as hc h has => ?_
  cases h with
  | obj h hl hlt hf =>
    have hgather := reads_gather.mpr ⟨hl, (length_of_mapM has).trans_lt hlt, _,
      hf.agrees (hd n hn.le) hc.past.inside has, rfl⟩
    refine (reads_readBy h rfl).mpr (reads_map.mpr ⟨_, hgather, as.reverse_reverse⟩)
  | _ => cases has

theorem variantName {names : List (String × α)} {s : String} (h : c.past.rest.head? = some '"')
    (hs : Reads readString c.past s c') (ha : Decoder.variant.named names s = .ok a) :
    Reads (Decoder.variant.readName names) c a c' := by
  refine reads_bind.mpr ⟨s, c', (reads_readBy h (by simp)).mpr hs, ?_⟩
  simp [ha]

theorem variant (names : List (String × α)) : (Decoder.variant names).Faithful := by
  refine of_valueAt fun n hn c j c' a hc h ha => ?_
  simp only [Decoder.variant, reads_peek?_bind]
  cases h with
  | str h hs =>
    rw [h]
    exact variantName (by simpa using h) (by simpa using hs) ha
  | obj h hl hlt hf =>
    rw [h]
    cases hf with
    | stop => cases ha
    | @member _ _ c₁ c₂ c₃ c₄ name v fields hkey hcolon hv hrest =>
      cases hrest with
      | member => cases ha
      | stop hend =>
        obtain ⟨b, hb, hnull⟩ : ∃ b, Decoder.variant.named names name = .ok b ∧ _ := bind_eq_ok ha
        obtain ⟨rfl, rfl⟩ : v = .null ∧ b = a := by
          cases v <;> simp_all [pure, Except.pure]
        obtain ⟨c₀, ⟨_, rfl⟩ | ⟨⟨⟩, _⟩, hquote, hs⟩ := reads_nextKey?_some.mp hkey
        obtain ⟨hn, hword⟩ := head?_of_null hv
        obtain ⟨hclose, rfl⟩ := reads_nextKey?_none.mp hend
        have hunit : Reads (readBy "unit" fun ch =>
            if ch = 'n' then some (next *> readWord ['u', 'l', 'l'] b) else none) c₂ b c₃ :=
          (reads_readBy hn rfl).mpr (by simpa using reads_readWord.mpr ⟨hword, rfl⟩)
        refine reads_bind.mpr ⟨b, _, reads_enclosed.mpr ⟨hl, c₃, ?_, rfl⟩, ?_⟩
        · exact reads_bind.mpr ⟨b, c₁, variantName hquote hs hb,
            reads_bind.mpr ⟨(), c₂, hcolon, hunit⟩⟩
        · simp [Cursor.past_within, Cursor.next_within, hclose]
  | _ => cases ha

end Decoder.Faithful

namespace RecordType

variable {t : RecordType α} {p p' q : RecordType.Partial α}

/-- Two partial records that go on in the same way: of fields that are passed over, it makes no
difference which there were. -/
structure Same (t : RecordType α) (p q : RecordType.Partial α) : Prop where
  record : p.record = q.record
  names : p.names = q.names
  others : (∃ f, t.form = .flat f) → p.others = q.others

theorem Same.part (h : Same t p q) (name : String) : t.part p name = t.part q name := by
  unfold RecordType.part
  rw [h.names]

theorem Same.finish (h : Same t p q) : t.finish p = t.finish q := by
  unfold RecordType.finish
  rw [h.names, h.record]
  split
  · rfl
  · split
    · rename_i f hf
      rw [h.others ⟨f, hf⟩]
    · rfl

/-- The readers of a record's fields agree with what its fields are taken from. -/
def FieldsFaithful (t : RecordType α) : Prop :=
  ∀ f ∈ t.fields, ∀ a, (f.set a).Faithful

theorem readField_agrees (ht : t.FieldsFaithful) (hn : n ≤ 128) (hpq : Same t p q)
    (hcolon : Reads readColon c () c₁) (hj : Reads (readValueFrom n) c₁ j c') (hc : c.Valid)
    (hp : t.setField p (name, j) = .ok p') :
    ∃ q', Same t p' q' ∧ Reads (t.readField q name) c q' c' := by
  unfold setField at hp
  rw [hpq.part] at hp
  unfold readField
  cases hpart : t.part q name with
  | field f =>
    have hf : f ∈ t.fields := by
      unfold RecordType.part at hpart
      split at hpart
      · cases hpart
      · rename_i hfind
        split_ifs at hpart
        cases hpart
        exact List.mem_of_find?_eq_some hfind
    simp only [hpart] at hp
    obtain ⟨a, ha, hp⟩ := bind_eq_ok hp
    cases hp
    rw [hpq.record] at ha
    refine ⟨{ q with record := a, names := name :: q.names },
      ⟨rfl, by rw [hpq.names], hpq.others⟩, ?_⟩
    have hread := ht f hf q.record n hn c₁ j c' a (hc.readColon hcolon) hj ha
    exact reads_bind.mpr ⟨(), c₁, hcolon, reads_bind.mpr ⟨a, c', hread, by simp⟩⟩
  | duplicate => simp [hpart] at hp
  | other =>
    simp only [hpart] at hp
    cases hp
    have hc₁ := hc.readColon hcolon
    cases hform : t.form with
    | flat f =>
      refine ⟨{ q with others := (name, j) :: q.others },
        ⟨hpq.record, hpq.names, fun h => by rw [hpq.others h]⟩, ?_⟩
      have hread : Reads readValue c₁ j c' := readValueFrom_mono hn c₁ j c' j hc₁ hj rfl
      exact reads_bind.mpr ⟨(), c₁, hcolon, reads_bind.mpr ⟨j, c', hread, by simp⟩⟩
    | _ =>
      refine ⟨q, ⟨hpq.record, hpq.names, fun ⟨f, hf⟩ => by simp [hform] at hf⟩, ?_⟩
      have hread := (passes_value hj hc₁).reads
      exact reads_bind.mpr ⟨(), c₁, hcolon, reads_bind.mpr ⟨(), c', hread, by simp⟩⟩

theorem readFieldsFrom_agrees (ht : t.FieldsFaithful) (hn : n ≤ 128) (hpq : Same t p q)
    (h : Members (readValueFrom n) first c fields c') (hc : c.Valid)
    (hp : fields.foldlM t.setField p = .ok p') (hk : fields.length < k) :
    ∃ q', Same t p' q' ∧ Reads (readFieldsFrom t.readField k first q) c q' c' := by
  induction h generalizing p q k with
  | stop h =>
    cases hp
    obtain ⟨k, rfl⟩ : ∃ l, k = l + 1 := ⟨k - 1, by omega⟩
    exact ⟨q, hpq, reads_bind.mpr ⟨_, _, h, by simp⟩⟩
  | member h hcolon hj hrest ih =>
    obtain ⟨k, rfl⟩ : ∃ l, k = l + 1 := ⟨k - 1, by omega⟩
    rw [List.foldlM_cons] at hp
    obtain ⟨p₁, hp₁, hp⟩ := bind_eq_ok hp
    have hc₁ := hc.nextKey? h
    obtain ⟨q₁, hsame, hfield⟩ := readField_agrees ht hn hpq hcolon hj hc₁ hp₁
    obtain ⟨q', hsame', hread⟩ := ih hsame ((hc₁.readColon hcolon).value hj) hp
      (Nat.lt_of_succ_lt_succ hk)
    exact ⟨q', hsame', reads_bind.mpr ⟨_, _, h, reads_bind.mpr ⟨q₁, _, hfield, hread⟩⟩⟩

theorem readArrayEnd_agrees (h : Reads (nextItem first) c false c') :
    Reads readArrayEnd c () c'.next := by
  obtain ⟨hhead, rfl⟩ := reads_nextItem_false.mp h
  simp [readArrayEnd, hhead]

/-- The items of an array are read into the fields in their order. Where the array ends before
them, it is met again for each of those that are left. -/
theorem readItems_agrees {fs : List (RecordField α)} {items : List Json} {index : ℕ} {b : α}
    (ht : ∀ f ∈ fs, ∀ a, (f.set a).Faithful) (hn : n ≤ 128)
    (h : Items (readValueFrom n) (index = 0) c items c') (hc : c.Valid)
    (hb : t.decodeItems a index fs items = .ok b) : Reads (t.readItems a index fs) c b c' := by
  induction fs generalizing a index items c with
  | nil =>
    cases h with
    | stop h =>
      cases hb
      exact reads_bind.mpr ⟨(), _, readArrayEnd_agrees h, by simp⟩
    | item => cases hb
  | cons f fs ih =>
    have htail : ∀ f ∈ fs, ∀ a, (f.set a).Faithful := fun f hf => ht f (List.mem_cons_of_mem _ hf)
    cases h with
    | @stop _ _ c₁ h =>
      unfold decodeItems at hb
      split_ifs at hb with hpresence
      obtain ⟨hhead, rfl⟩ := reads_nextItem_false.mp h
      have hagain : Items (readValueFrom n) (index + 1 = 0) c.past [] c.past.next :=
        .stop (reads_nextItem_false.mpr ⟨by simpa using hhead, by simp⟩)
      refine reads_bind.mpr ⟨false, _, h, ?_⟩
      simpa [hpresence] using ih htail hagain hc.past hb
    | @item _ _ c₁ c₂ _ j items h hj hrest =>
      obtain ⟨a', ha', hb⟩ := bind_eq_ok hb
      have hc₁ := hc.nextItem h
      have hread := ht f List.mem_cons_self a n hn c₁ j c₂ a' hc₁ hj ha'
      have hgo := ih htail (by simpa using hrest) (hc₁.value hj) hb
      refine reads_bind.mpr ⟨true, c₁, h, ?_⟩
      simpa using ⟨a', c₂, hread, hgo⟩

/-- Records are read as they are taken from JSON, as objects or as arrays. -/
theorem faithful (ht : t.FieldsFaithful) : t.decoder.Faithful := by
  refine Decoder.Faithful.of_valueAt fun n hn c j c' a hc h ha => ?_
  cases h with
  | @obj c₁ fields h hl hlt hf =>
    obtain ⟨p, hp, ha⟩ : ∃ p, fields.foldlM t.setField { record := t.blank } = .ok p ∧
        t.finish p = .ok a := bind_eq_ok ha
    obtain ⟨q, hsame, hq⟩ := readFieldsFrom_agrees ht hn.le ⟨rfl, rfl, fun _ => rfl⟩ hf
      hc.past.inside hp hlt
    refine (reads_readBy h rfl).mpr (reads_bind.mpr ⟨q, c₁.within c.past.levels, ?_, ?_⟩)
    · exact reads_readObject.mpr ⟨hl, c₁, hq, rfl⟩
    · rw [← hsame.finish, ha]
      simp
  | @arr c₁ items h hl hlt hi =>
    change t.ofJson (.arr items) = .ok a at ha
    unfold ofJson at ha
    cases hform : t.form with
    | strict =>
      rw [hform] at ha
      refine (reads_readBy h (by simp [hform]; rfl)).mpr (reads_enclosed.mpr ⟨hl, c₁, ?_, rfl⟩)
      rw [hform]
      exact readItems_agrees ht hn.le hi hc.past.inside ha
    | _ => simp [hform] at ha
  | _ => cases ha

end RecordType

/-- A text from which JSON is read is read as what is taken out of that JSON. -/
theorem Decoder.Faithful.readText {s : String} (hd : d.Faithful)
    (h : readText readValue s = .ok j) (ha : d j = .ok a) : readText d.reader s = .ok a := by
  obtain ⟨c', hread, hend⟩ := readText_eq_ok.mp h
  exact readText_eq_ok.mpr
    ⟨c', hd 128 (Nat.le_refl _) _ _ _ _ (Cursor.valid_start s) hread ha, hend⟩

end GitDrift.Json
