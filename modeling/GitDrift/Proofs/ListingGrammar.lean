import GitDrift.Proofs.ListingRoundTrip
import Mathlib.Data.List.Induction

/-!
Which texts are listings. A line that gives a name a target or an id may stand anywhere, and one for
a peeled commit only behind a line for its tag. The first line that may not stand where it stands is
what a text is refused for.
-/
namespace GitDrift

namespace Git

open Text

variable {c : Char} {s : List Char}

/-- A hexadecimal digit in either case. -/
def IsHexDigit (c : Char) : Prop :=
  ('0' ≤ c ∧ c ≤ '9') ∨ ('a' ≤ c ∧ c ≤ 'f') ∨ ('A' ≤ c ∧ c ≤ 'F')

/-- A complete id as it may be written. -/
def IsFullId (s : List Char) : Prop := IsIdLength s.length ∧ ∀ c ∈ s, IsHexDigit c

theorem isIdDigit_lowerHex_iff : IsIdDigit (lowerHex c) ↔ IsHexDigit c := by
  have hdigit (d : Char) : IsIdDigit d ↔
      (48 ≤ d.toNat ∧ d.toNat ≤ 57) ∨ (97 ≤ d.toNat ∧ d.toNat ≤ 102) := Iff.rfl
  have hhex : IsHexDigit c ↔ (48 ≤ c.toNat ∧ c.toNat ≤ 57) ∨ (97 ≤ c.toNat ∧ c.toNat ≤ 102) ∨
      (65 ≤ c.toNat ∧ c.toNat ≤ 70) := Iff.rfl
  rw [hdigit, hhex]
  unfold lowerHex
  split_ifs with hc
  · have hupper : 65 ≤ c.toNat ∧ c.toNat ≤ 70 := hc
    have hvalid : (c.toNat + 32).isValidChar := Or.inl (by omega)
    have hlower : (Char.ofNat (c.toNat + 32)).toNat = c.toNat + 32 := by
      rw [Char.ofNat, dif_pos hvalid]
      rfl
    omega
  · have hupper : ¬ (65 ≤ c.toNat ∧ c.toNat ≤ 70) := hc
    omega

theorem exists_parse?_iff : (∃ id, ObjectId.parse? s = some id) ↔ IsFullId s := by
  constructor
  · rintro ⟨id, h⟩
    have hdigits := ObjectId.parse?_eq_some_iff.mp h
    have hlength := id.length_ok
    rw [← hdigits, List.length_map] at hlength
    refine ⟨hlength, fun c hc => isIdDigit_lowerHex_iff.mp (id.digits_ok _ ?_)⟩
    rw [← hdigits]
    exact List.mem_map_of_mem hc
  · rintro ⟨hlength, hdigits⟩
    have hlower : ∀ c ∈ s.map lowerHex, IsIdDigit c := by
      simpa using fun c hc => isIdDigit_lowerHex_iff.mpr (hdigits c hc)
    exact ⟨⟨s.map lowerHex, by rwa [List.length_map], hlower⟩, ObjectId.parse?_eq_some_iff.mpr rfl⟩

namespace Listing

variable {refs refs' : List Reference} {line name : List Char} {id : ObjectId} {l : Line}
  {ls before : List (List Char)} {e : GitError}

/-- The line says that a name points at another. -/
def GivesTarget (line name : List Char) : Prop :=
  ∃ raw, '\t' ∉ raw ∧ line = symbolicLine raw name

/-- The line gives a name an id. Blanks around the id do not count. -/
def GivesId (line name : List Char) : Prop :=
  ∃ left, '\t' ∉ left ∧ IsFullId (trim left) ∧ line = hashLine left name

/-- The line is one by which a name becomes known. -/
def Names (line name : List Char) : Prop :=
  GivesTarget line name ∨ GivesId line name ∧ ¬ peeledMark <:+ name

/-- A listing may go on with the line behind the lines `before`. -/
def MayFollow (before : List (List Char)) (line : List Char) : Prop :=
  ∃ name, GivesTarget line name ∨
    GivesId line name ∧ ∀ tag, name = tag ++ peeledMark → ∃ earlier ∈ before, Names earlier tag

/-- Each of the lines may stand where it stands. -/
def WellFormed (ls : List (List Char)) : Prop :=
  ∀ before line after, ls = before ++ line :: after → MayFollow before line

theorem wellFormed_nil : WellFormed [] := by
  intro before line after h
  simp at h

theorem wellFormed_append_singleton :
    WellFormed (ls ++ [line]) ↔ WellFormed ls ∧ MayFollow ls line := by
  constructor
  · intro h
    refine ⟨fun before l after hls => h before l (after ++ [line]) (by simp [hls]), ?_⟩
    exact h ls line [] rfl
  · rintro ⟨hls, hline⟩ before l after h
    rcases List.eq_nil_or_concat after with rfl | ⟨after, last, rfl⟩
    · obtain ⟨rfl, hl⟩ := List.append_inj' h rfl
      obtain rfl := List.singleton_inj.mp hl
      exact hline
    · rw [List.concat_eq_append, ← List.cons_append, ← List.append_assoc] at h
      obtain ⟨rfl, _⟩ := List.append_inj' h rfl
      exact hls before l after rfl

/-- A name has the mark of a peeled commit or it has not. -/
theorem Line.ofId_cases (name : List Char) (id : ObjectId) :
    (∃ tag, name = tag ++ peeledMark ∧ Line.ofId name id = .peeled tag id) ∨
      ¬ peeledMark <:+ name ∧ Line.ofId name id = .object name id := by
  by_cases h : peeledMark <:+ name
  · obtain ⟨tag, rfl⟩ := h
    exact Or.inl ⟨tag, rfl, Line.ofId_peeled tag id⟩
  · exact Or.inr ⟨h, Line.ofId_object h id⟩

/-- A line that can be read says what a name points at, or gives it an id. -/
theorem read?_cases (hline : Line.read? line = some l) :
    (∃ name target, l = .symbolic name target) ∨
      ∃ name id, GivesId line name ∧ l = Line.ofId name id := by
  obtain ⟨⟨left, name⟩, hcut, h⟩ := Option.bind_eq_some_iff.mp hline
  obtain ⟨htab, rfl⟩ := cutAt?_eq_some_iff.mp hcut
  dsimp only at h
  split at h
  · cases h
    exact Or.inl ⟨_, _, rfl⟩
  · obtain ⟨id, hid, rfl⟩ := Option.map_eq_some_iff.mp h
    exact Or.inr ⟨name, id, ⟨left, htab, exists_parse?_iff.mp ⟨id, hid⟩, rfl⟩, rfl⟩

theorem GivesTarget.read? (h : GivesTarget line name) :
    ∃ target, Line.read? line = some (.symbolic name target) := by
  obtain ⟨raw, htab, rfl⟩ := h
  exact ⟨trim raw, read?_eq_symbolic_iff.mpr ⟨raw, htab, rfl, rfl⟩⟩

theorem GivesId.read? (h : GivesId line name) :
    ∃ id, Line.read? line = some (Line.ofId name id) := by
  obtain ⟨left, htab, hfull, rfl⟩ := h
  obtain ⟨id, hid⟩ := exists_parse?_iff.mpr hfull
  exact ⟨id, read?_idLine htab hid name⟩

theorem givesTarget_of_read? {target : List Char}
    (h : Line.read? line = some (.symbolic name target)) : GivesTarget line name := by
  obtain ⟨raw, htab, rfl, _⟩ := read?_eq_symbolic_iff.mp h
  exact ⟨raw, htab, rfl⟩

/-- The name that becomes known by a line. -/
def Line.named? : Line → Option (List Char)
  | .symbolic name _ | .object name _ => some name
  | .peeled _ _ => none

theorem names_iff (hread : Line.read? line = some l) : Names line name ↔ l.named? = some name := by
  constructor
  · rintro (h | ⟨h, hmark⟩)
    · obtain ⟨target, ht⟩ := h.read?
      cases hread.symm.trans ht
      rfl
    · obtain ⟨id, hid⟩ := h.read?
      rw [Line.ofId_object hmark] at hid
      cases hread.symm.trans hid
      rfl
  · intro h
    obtain ⟨n, target, rfl⟩ | ⟨n, id, hgives, rfl⟩ := read?_cases hread
    · cases h
      exact Or.inl (givesTarget_of_read? hread)
    · obtain ⟨tag, _, hn⟩ | ⟨hmark, hn⟩ := Line.ofId_cases n id
      · rw [hn] at h
        cases h
      · rw [hn] at h
        cases h
        exact Or.inr ⟨hgives, hmark⟩

/-- A line may follow if it can be read and the tag is known whose peeled commit it tells. -/
theorem mayFollow_iff : MayFollow before line ↔ ∃ l, Line.read? line = some l ∧
    ∀ tag id, l = .peeled tag id → ∃ earlier ∈ before, Names earlier tag := by
  constructor
  · rintro ⟨name, h | ⟨h, htag⟩⟩
    · obtain ⟨target, ht⟩ := h.read?
      exact ⟨_, ht, fun _ _ he => by cases he⟩
    · obtain ⟨id, hid⟩ := h.read?
      refine ⟨_, hid, fun tag i he => htag tag ?_⟩
      obtain ⟨tag', hname, hn⟩ | ⟨_, hn⟩ := Line.ofId_cases name id
      · cases hn.symm.trans he
        exact hname
      · cases hn.symm.trans he
  · rintro ⟨l, hl, htag⟩
    obtain ⟨name, target, rfl⟩ | ⟨name, id, hgives, rfl⟩ := read?_cases hl
    · exact ⟨name, Or.inl (givesTarget_of_read? hl)⟩
    · refine ⟨name, Or.inr ⟨hgives, ?_⟩⟩
      rintro tag rfl
      exact htag tag id (Line.ofId_peeled tag id)

theorem exists_peel_iff {tag : String} :
    (∃ refs', peel tag id refs = some refs') ↔ tag ∈ refs.map (·.name) := by
  induction refs with
  | nil => simp [peel]
  | cons r refs ih =>
    rw [peel]
    split_ifs with hr
    · simp [hr]
    · simpa [Ne.symm hr] using ih

theorem names_peel {tag : String} (h : peel tag id refs = some refs') :
    refs'.map (·.name) = refs.map (·.name) := by
  induction refs generalizing refs' with
  | nil => cases h
  | cons r refs ih =>
    rw [peel] at h
    split_ifs at h
    · cases h
      rfl
    · obtain ⟨rs, hrs, rfl⟩ := Option.map_eq_some_iff.mp h
      rw [List.map_cons, List.map_cons, ih hrs]

/-- A line makes known the name that it names, and no name is forgotten: a symbolic line puts back
what it clears, and the id of `HEAD` is left out only where `HEAD` is known. -/
theorem mem_names_addLine (h : addLine refs line = .ok refs') (name : List Char) :
    String.ofList name ∈ refs'.map (·.name) ↔
      String.ofList name ∈ refs.map (·.name) ∨ Names line name := by
  obtain ⟨l, hread, hadd⟩ := addLine_cases h
  rw [names_iff hread]
  have hname (n : List Char) : String.ofList name = String.ofList n ↔ n = name :=
    String.ofList_inj.trans eq_comm
  cases l with
  | symbolic n target =>
    cases hadd
    by_cases hn : n = name
    · simp [hn, Line.named?, Reference.ofSymbolic]
    · have hne : String.ofList name ≠ String.ofList n := mt (hname n).mp hn
      have hkeep : (∃ r ∈ refs, r.name ≠ String.ofList n ∧ r.name = String.ofList name) ↔
          ∃ r ∈ refs, r.name = String.ofList name := by
        constructor
        · rintro ⟨r, hr, -, he⟩
          exact ⟨r, hr, he⟩
        · rintro ⟨r, hr, he⟩
          exact ⟨r, hr, he ▸ hne, he⟩
      simpa [hn, hne, Line.named?, Reference.ofSymbolic, and_assoc] using hkeep
  | object n id =>
    simp only [Line.addTo?] at hadd
    split_ifs at hadd with hhead
    · cases hadd
      obtain ⟨r, hr, hknown⟩ := List.any_eq_true.mp hhead.2
      have hmem : String.ofList n ∈ refs.map (·.name) :=
        List.mem_map.mpr ⟨r, hr, by simpa using (Bool.and_eq_true_iff.mp hknown).1⟩
      refine ⟨Or.inl, fun h => h.elim (fun h => h) ?_⟩
      rintro ⟨⟩
      exact hmem
    · cases hadd
      simp [hname, Line.named?, Reference.ofId]
  | peeled tag commit =>
    rw [names_peel hadd]
    simp [Line.named?]

theorem foldlM_append_singleton_eq_ok_iff : (ls ++ [line]).foldlM addLine refs = .ok refs' ↔
    ∃ mid, ls.foldlM addLine refs = .ok mid ∧ addLine mid line = .ok refs' := by
  rw [List.foldlM_append]
  constructor
  · intro h
    obtain ⟨mid, hmid, h⟩ := bind_eq_ok h
    rw [List.foldlM_cons] at h
    obtain ⟨last, hlast, h⟩ := bind_eq_ok h
    cases h
    exact ⟨mid, hmid, hlast⟩
  · rintro ⟨mid, hmid, hlast⟩
    rw [hmid]
    exact (foldlM_addLine_cons hlast []).trans rfl

/-- The names that are known after some lines are those that the lines name. -/
theorem mem_names_foldlM (h : ls.foldlM addLine [] = .ok refs) (name : List Char) :
    String.ofList name ∈ refs.map (·.name) ↔ ∃ line ∈ ls, Names line name := by
  induction ls using List.reverseRecOn generalizing refs with
  | nil =>
    cases h
    simp
  | append_singleton ls line ih =>
    obtain ⟨mid, hmid, hlast⟩ := foldlM_append_singleton_eq_ok_iff.mp h
    rw [mem_names_addLine hlast, ih hmid]
    simp [or_and_right, exists_or]

/-- A line is taken if it may follow the lines that were. -/
theorem exists_addLine_iff (h : ls.foldlM addLine [] = .ok refs) :
    (∃ refs', addLine refs line = .ok refs') ↔ MayFollow ls line := by
  have htaken : (∃ refs', addLine refs line = .ok refs') ↔
      ∃ l refs', Line.read? line = some l ∧ l.addTo? refs = some refs' :=
    ⟨fun ⟨refs', h⟩ => (addLine_cases h).imp fun l hl => ⟨refs', hl⟩,
      fun ⟨l, refs', hl, hadd⟩ => ⟨refs', addLine_of_read hl hadd⟩⟩
  have hadds (l : Line) : (∃ refs', l.addTo? refs = some refs') ↔
      ∀ tag id, l = .peeled tag id → ∃ earlier ∈ ls, Names earlier tag := by
    cases l with
    | symbolic name target => simp [Line.addTo?]
    | object name id =>
      simp only [Line.addTo?]
      split_ifs <;> simp
    | peeled tag id =>
      rw [Line.addTo?, exists_peel_iff, mem_names_foldlM h]
      simp
  rw [htaken, mayFollow_iff]
  exact exists_congr fun l => exists_and_left.trans (and_congr_right fun _ => hadds l)

/-- Lines are taken as far as they are well formed. -/
theorem exists_foldlM_iff : (∃ refs, ls.foldlM addLine [] = .ok refs) ↔ WellFormed ls := by
  induction ls using List.reverseRecOn with
  | nil => exact ⟨fun _ => wellFormed_nil, fun _ => ⟨[], rfl⟩⟩
  | append_singleton ls line ih =>
    rw [wellFormed_append_singleton, ← ih]
    constructor
    · rintro ⟨refs, h⟩
      obtain ⟨mid, hmid, hlast⟩ := foldlM_append_singleton_eq_ok_iff.mp h
      exact ⟨⟨mid, hmid⟩, (exists_addLine_iff hmid).mp ⟨refs, hlast⟩⟩
    · rintro ⟨⟨mid, hmid⟩, hline⟩
      obtain ⟨last, hlast⟩ := (exists_addLine_iff hmid).mpr hline
      exact ⟨last, foldlM_append_singleton_eq_ok_iff.mpr ⟨mid, hmid, hlast⟩⟩

theorem addLine_eq_error_iff : addLine refs line = .error e ↔
    (¬ ∃ refs', addLine refs line = .ok refs') ∧ e = .malformedLine (String.ofList line) := by
  unfold addLine
  split <;> simp [eq_comm]

/-- A fold fails by the first line that fails. -/
theorem foldlM_eq_error_iff : ls.foldlM addLine refs = .error e ↔
    ∃ before line after mid, ls = before ++ line :: after ∧ before.foldlM addLine refs = .ok mid ∧
      addLine mid line = .error e := by
  constructor
  · intro h
    induction ls generalizing refs with
    | nil => cases h
    | cons line ls ih =>
      cases hline : addLine refs line with
      | error e' =>
        rw [List.foldlM_cons, hline] at h
        cases h
        exact ⟨[], line, ls, refs, rfl, rfl, hline⟩
      | ok mid =>
        rw [foldlM_addLine_cons hline] at h
        obtain ⟨before, l, after, last, rfl, hbefore, hl⟩ := ih h
        exact ⟨line :: before, l, after, last, rfl,
          (foldlM_addLine_cons hline before).trans hbefore, hl⟩
  · rintro ⟨before, line, after, mid, rfl, hbefore, hline⟩
    rw [List.foldlM_append, hbefore]
    change (line :: after).foldlM addLine mid = _
    rw [List.foldlM_cons, hline]
    rfl

/-- A text is read as a listing exactly if its lines are well formed. Otherwise the first line that
may not stand where it stands is told, and nothing else. -/
theorem parse_accepts_iff (text : List Char) :
    ((∃ refs, parse text = .ok refs) ↔ WellFormed (contentLines text)) ∧
    ∀ e, parse text = .error e ↔ ∃ before line after,
      contentLines text = before ++ line :: after ∧ WellFormed before ∧ ¬ MayFollow before line ∧
        e = .malformedLine (String.ofList line) := by
  refine ⟨exists_foldlM_iff, fun e => ?_⟩
  rw [parse, foldlM_eq_error_iff]
  constructor
  · rintro ⟨before, line, after, mid, hlines, hbefore, hline⟩
    obtain ⟨hrefused, he⟩ := addLine_eq_error_iff.mp hline
    exact ⟨before, line, after, hlines, exists_foldlM_iff.mp ⟨mid, hbefore⟩,
      mt (exists_addLine_iff hbefore).mpr hrefused, he⟩
  · rintro ⟨before, line, after, hlines, hbefore, hline, he⟩
    obtain ⟨mid, hmid⟩ := exists_foldlM_iff.mpr hbefore
    exact ⟨before, line, after, mid, hlines, hmid,
      addLine_eq_error_iff.mpr ⟨mt (exists_addLine_iff hmid).mp hline, he⟩⟩

end Listing
end Git
end GitDrift
