import GitDrift.Proofs.RevealedObjects

/-!
Whether what a selector means is a commit. A selector is the id of an object that the listing tells
of, or else stands for a reference. Only a reference that is a tag is looked through, and only once,
so that an object which the listing tells to be a tag can be what the selector means.
-/
namespace GitDrift.Git

variable {refs : List Reference} {r : Reference} {name start selector : String}
  {id held commit : ObjectId} {db : RefDatabase} {budget : Nat} {names : List String}

/-- The names that are tried for a selector that is not the id of a known object. -/
def triedNames (selector : String) : List String :=
  if selector = "" then [branchRef "main"]
  else if selector = headName then [headName]
  else candidates selector

/-- The reference that the first of the names to lead to any leads to. -/
def RefDatabase.firstReached? (db : RefDatabase) (names : List String) : Option Reference :=
  names.findSome? fun name => (db.resolve name).toOption

/-- The selector is the id of an object that the listing tells of. -/
def Pins (refs : List Reference) (selector : String) (id : ObjectId) : Prop :=
  Spells selector id ∧ ∃ r ∈ refs, Reveals r id

/-- The selector is no id of a known object, and the reference is the first that one of its names
leads to. -/
def StandsFor (refs : List Reference) (selector : String) (r : Reference) : Prop :=
  (∀ id, ¬ Pins refs selector id) ∧
    (RefDatabase.ofReferences refs).firstReached? (triedNames selector) = some r

/-- What a reference designates: the object that it holds, and for a tag the commit that the listing
says that object leads to. -/
def designated? (refs : List Reference) (r : Reference) : Option ObjectId :=
  r.id?.map fun held => if isTagRef r.name then (lastPeeled? held refs).getD held else held

theorem follow_eq_ok (h : db.follow start budget name = .ok r) :
    (∃ last, db.references.get? last = some r) ∧ ∃ held, r.target = .object held := by
  induction budget generalizing name with
  | zero => cases h
  | succ budget ih =>
    rw [RefDatabase.follow] at h
    split at h
    · cases h
    · rename_i found hfound
      split at h
      · rename_i held hheld
        obtain rfl : found = r := by simpa using h
        exact ⟨⟨name, hfound⟩, held, hheld⟩
      · exact ih h

theorem mem_of_resolve_eq_ok (h : (RefDatabase.ofReferences refs).resolve name = .ok r) :
    r ∈ refs ∧ ∃ held, r.target = .object held := by
  obtain ⟨⟨last, hlast⟩, hheld⟩ := follow_eq_ok h
  rw [get?_ofReferences] at hlast
  exact ⟨List.mem_reverse.mp (List.mem_of_find?_eq_some hlast), hheld⟩

/-- An object that the listing tells of leads to what it is peeled to, or is a commit itself. -/
theorem commitOfTagged_ofReferences (h : ∃ r ∈ refs, Reveals r held) :
    (RefDatabase.ofReferences refs).commitOfTagged held =
      .ok ((lastPeeled? held refs).getD held) := by
  rw [RefDatabase.commitOfTagged, object?_ofReferences]
  cases lastPeeled? held refs with
  | some commit => rfl
  | none => simp [h]

/-- In a database of references, what a name leads to always has a commit. -/
theorem commitOf_ofReferences (h : (RefDatabase.ofReferences refs).resolve name = .ok r)
    (hheld : r.target = .object held) : (RefDatabase.ofReferences refs).commitOf name =
      .ok (if isTagRef r.name then (lastPeeled? held refs).getD held else held) := by
  have hmem := (mem_of_resolve_eq_ok h).1
  rw [commitOf_of_resolve h hheld, commitOfTagged_ofReferences ⟨r, hmem, held, hheld, Or.inl rfl⟩]
  split_ifs <;> rfl

theorem designated?_eq_some (hheld : r.target = .object held) : designated? refs r =
    some (if isTagRef r.name then (lastPeeled? held refs).getD held else held) := by
  simp [designated?, Reference.id?, hheld]

/-- A name designates something if and only if it leads to a reference. -/
theorem toOption_commitOf (refs : List Reference) (name : String) :
    ((RefDatabase.ofReferences refs).commitOf name).toOption =
      ((RefDatabase.ofReferences refs).resolve name).toOption.bind (designated? refs) := by
  cases hr : (RefDatabase.ofReferences refs).resolve name with
  | error e => simp [RefDatabase.commitOf, hr, bind, Except.bind, Except.toOption]
  | ok r =>
    obtain ⟨-, held, hheld⟩ := mem_of_resolve_eq_ok hr
    rw [commitOf_ofReferences hr hheld]
    exact (designated?_eq_some hheld).symm

theorem exists_resolve_of_firstReached? (h : db.firstReached? names = some r) :
    ∃ name ∈ names, db.resolve name = .ok r := by
  obtain ⟨name, hname, hr⟩ := List.exists_of_findSome?_eq_some h
  refine ⟨name, hname, ?_⟩
  cases hresolve : db.resolve name with
  | error e => simp [hresolve, Except.toOption] at hr
  | ok r' => simpa [hresolve, Except.toOption] using hr

/-- The first commit that one of the names designates is what the first reference reached
designates. -/
theorem firstCommit?_ofReferences (refs : List Reference) (names : List String) :
    (RefDatabase.ofReferences refs).firstCommit? names =
      ((RefDatabase.ofReferences refs).firstReached? names).bind (designated? refs) := by
  simp only [RefDatabase.firstCommit?, RefDatabase.firstReached?, toOption_commitOf]
  induction names with
  | nil => rfl
  | cons name names ih =>
    simp only [List.findSome?_cons]
    cases hr : (RefDatabase.ofReferences refs).resolve name with
    | error e => exact ih
    | ok r =>
      obtain ⟨-, held, hheld⟩ := mem_of_resolve_eq_ok hr
      simp [Except.toOption, designated?_eq_some hheld]

theorem knownId?_eq_some_iff :
    (RefDatabase.ofReferences refs).knownId? selector = some id ↔ Pins refs selector id := by
  simp only [RefDatabase.knownId?, Option.filter_eq_some_iff, ObjectId.parse?_eq_some_iff,
    isSome_object?_ofReferences, Spells, Pins]

theorem Pins.ne_empty (h : Pins refs selector id) : selector ≠ "" := by
  rintro rfl
  have hlen := id.length_ok
  rw [← h.1] at hlen
  revert hlen
  decide

theorem toOption_select (hknown : db.knownId? selector = none) :
    (db.select selector).toOption = db.firstCommit? (triedNames selector) := by
  rw [RefDatabase.select, triedNames]
  split_ifs with hempty hhead
  · simp [RefDatabase.firstCommit?]
  · simp [hknown, RefDatabase.firstCommit?]
  · rw [hknown]
    cases db.firstCommit? (candidates selector) <;> rfl

theorem resolve_of_ne_nil (h : refs ≠ []) (selector : String) :
    resolve refs selector = (RefDatabase.ofReferences refs).select selector := by
  simp [resolve, h]

theorem Pins.resolve_eq (h : Pins refs selector id) : resolve refs selector = .ok id := by
  obtain ⟨r, hr, -⟩ := h.2
  rw [resolve_of_ne_nil (List.ne_nil_of_mem hr), RefDatabase.select, if_neg h.ne_empty,
    knownId?_eq_some_iff.mpr h]

/-- What a selector stands for is listed and holds an object. -/
theorem StandsFor.mem (h : StandsFor refs selector r) :
    r ∈ refs ∧ ∃ held, r.target = .object held := by
  obtain ⟨name, -, hr⟩ := exists_resolve_of_firstReached? h.2
  exact mem_of_resolve_eq_ok hr

/-- A selector means the object that it is the id of, and else what the reference that it stands for
designates. -/
theorem resolve_eq_ok_iff : resolve refs selector = .ok id ↔
    Pins refs selector id ∨ ∃ r, StandsFor refs selector r ∧ designated? refs r = some id := by
  cases hknown : (RefDatabase.ofReferences refs).knownId? selector with
  | some known =>
    have hpins : Pins refs selector known := knownId?_eq_some_iff.mp hknown
    rw [hpins.resolve_eq, ← knownId?_eq_some_iff, hknown]
    constructor
    · rintro ⟨⟩
      exact Or.inl rfl
    · rintro (⟨⟨⟩⟩ | ⟨r, ⟨hfree, -⟩, -⟩)
      · rfl
      · exact absurd hpins (hfree known)
  | none =>
    have hfree (known : ObjectId) (hpins : Pins refs selector known) : False :=
      knownId?_eq_none_iff.mp hknown known hpins.1 hpins.2
    rw [or_iff_right (hfree id)]
    have hselect := toOption_select hknown
    rw [firstCommit?_ofReferences] at hselect
    constructor
    · intro h
      have hne : refs ≠ [] := by
        rintro rfl
        cases h
      rw [← resolve_of_ne_nil hne, h] at hselect
      obtain ⟨r, hr, hid⟩ := Option.bind_eq_some_iff.mp hselect.symm
      exact ⟨r, ⟨hfree, hr⟩, hid⟩
    · rintro ⟨r, hr, hid⟩
      rw [hr.2, ← resolve_of_ne_nil (List.ne_nil_of_mem hr.mem.1)] at hselect
      cases hresolve : resolve refs selector with
      | error e => simp [hresolve, Except.toOption, hid] at hselect
      | ok found => simpa [hresolve, Except.toOption, hid] using hselect

/-- The ways in which an object that the listing tells to be a tag is what a selector means. -/
inductive NotPeeled (refs : List Reference) (selector : String) (id : ObjectId) : Prop
  | pinned (h : Pins refs selector id)
  /-- A branch, `HEAD` or the like stands for the object that it holds, whatever that is. -/
  | held (r : Reference) (hr : StandsFor refs selector r) (htag : isTagRef r.name = false)
      (hid : r.target = .object id)
  /-- What a tag leads to is itself peeled by the listing. -/
  | nested (r : Reference) (held : ObjectId) (hr : StandsFor refs selector r)
      (htag : isTagRef r.name = true) (hheld : r.target = .object held)
      (hpeeled : lastPeeled? held refs = some id)

theorem resolve_of_standsFor (hr : StandsFor refs selector r)
    (hid : designated? refs r = some id) : resolve refs selector = .ok id :=
  resolve_eq_ok_iff.mpr (Or.inr ⟨r, hr, hid⟩)

/-- An annotated tag stands for the commit that the listing says it leads to. -/
theorem resolve_tag (hr : StandsFor refs selector r) (htag : isTagRef r.name = true)
    (hheld : r.target = .object held) (hpeeled : lastPeeled? held refs = some commit) :
    resolve refs selector = .ok commit := by
  apply resolve_of_standsFor hr
  simp [designated?_eq_some hheld, htag, hpeeled]

theorem NotPeeled.resolve_eq (h : NotPeeled refs selector id) :
    resolve refs selector = .ok id := by
  cases h with
  | pinned h => exact h.resolve_eq
  | held r hr htag hid =>
    apply resolve_of_standsFor hr
    simp [designated?_eq_some hid, htag]
  | nested r held hr htag hheld hpeeled => exact resolve_tag hr htag hheld hpeeled

theorem notPeeled_of_resolve (h : resolve refs selector = .ok id)
    (htold : lastPeeled? id refs = some commit) : NotPeeled refs selector id := by
  obtain hpins | ⟨r, hr, hid⟩ := resolve_eq_ok_iff.mp h
  · exact .pinned hpins
  · obtain ⟨-, held, hheld⟩ := hr.mem
    rw [designated?_eq_some hheld, Option.some.injEq] at hid
    cases htag : isTagRef r.name with
    | false =>
      obtain rfl : held = id := by simpa [htag] using hid
      exact .held r hr htag hheld
    | true =>
      cases hlast : lastPeeled? held refs with
      | some found =>
        obtain rfl : found = id := by simpa [htag, hlast] using hid
        exact .nested r held hr htag hheld hlast
      | none =>
        -- a lightweight tag on an object that another tag peels would have found that commit
        obtain rfl : held = id := by simpa [htag, hlast] using hid
        rw [hlast] at htold
        cases htold

theorem exists_reveals_of_resolve (h : resolve refs selector = .ok id) :
    ∃ r ∈ refs, Reveals r id := by
  obtain hpins | ⟨r, hr, hid⟩ := resolve_eq_ok_iff.mp h
  · exact hpins.2
  · obtain ⟨hmem, held, hheld⟩ := hr.mem
    rw [designated?_eq_some hheld, Option.some.injEq] at hid
    cases hlast : lastPeeled? held refs with
    | none => exact ⟨r, hmem, held, hheld, Or.inl (by simpa [hlast] using hid.symm)⟩
    | some commit =>
      obtain ⟨r', hr', hpeels⟩ := exists_peels_of_lastPeeled? hlast
      split_ifs at hid with htag
      · rw [hlast, Option.getD_some] at hid
        exact ⟨r', hr', held, hpeels.1, Or.inr (hid ▸ hpeels.2)⟩
      · exact ⟨r, hmem, held, hheld, Or.inl hid.symm⟩

/-- What a selector means is told to be a commit or a tag, and it is a tag only in the ways of
`NotPeeled`. A selector that stands for an annotated tag means the commit that it leads to. -/
theorem resolved_commit (refs : List Reference) (selector : String) :
    (∀ id, resolve refs selector = .ok id →
      (RefDatabase.ofReferences refs).object? id = some (.commit id) ∨
      ∃ commit, (RefDatabase.ofReferences refs).object? id = some (.tag id commit .commit)) ∧
    (∀ id commit, (RefDatabase.ofReferences refs).object? id = some (.tag id commit .commit) →
      (resolve refs selector = .ok id ↔ NotPeeled refs selector id)) ∧
    ∀ r held commit, StandsFor refs selector r → isTagRef r.name = true →
      r.target = .object held → lastPeeled? held refs = some commit →
      resolve refs selector = .ok commit := by
  refine ⟨fun id h => ?_, fun id commit htold => ?_, fun r held commit => resolve_tag⟩
  · rw [object?_ofReferences, if_pos (exists_reveals_of_resolve h)]
    cases lastPeeled? id refs with
    | none => exact Or.inl rfl
    | some commit => exact Or.inr ⟨commit, rfl⟩
  · cases hlast : lastPeeled? id refs with
    | some found => exact ⟨fun h => notPeeled_of_resolve h hlast, NotPeeled.resolve_eq⟩
    | none =>
      rw [object?_ofReferences, hlast] at htold
      split_ifs at htold
      cases htold

theorem nestedRefs_resolve_to_tag :
    resolve nestedRefs (Listing.repeatedId '3' (by decide)).text =
      .ok (Listing.repeatedId '3' (by decide)) ∧
    resolve nestedRefs "main" = .ok (Listing.repeatedId '3' (by decide)) ∧
    resolve nestedRefs "signed" = .ok (Listing.repeatedId '3' (by decide)) ∧
    (RefDatabase.ofReferences nestedRefs).object? (Listing.repeatedId '3' (by decide)) =
      some (.tag (Listing.repeatedId '3' (by decide)) (Listing.repeatedId '4' (by decide))
        .commit) := by
  exact ⟨by decide, by decide, by decide, by decide⟩

end GitDrift.Git
