import GitDrift.Proofs.ResolvedCommit
import GitDrift.Proofs.SymbolicChain

/-!
The objects that references depend on. Whatever is inserted into a database and in whatever order,
an object is known for each id that its references tell of. So no commit is missed for want of an
object, and in a database of references one is missed only where a name leads nowhere.
-/
namespace GitDrift.Git

/-- What can be inserted into a database. -/
inductive Insertion where
  | reference (r : Reference)
  | object (o : GitObject)

namespace RefDatabase

variable {db : RefDatabase} {r : Reference} {refs : List Reference} {name : String}
  {id held : ObjectId} {e : ResolveError} {x : Except ResolveError ObjectId}

def after (db : RefDatabase) : Insertion → RefDatabase
  | .reference r => db.insert r
  | .object o => db.insertObject o

/-- The database that insertions build, one after another. -/
def ofInsertions (insertions : List Insertion) : RefDatabase := insertions.foldl after {}

/-- An object is known for each id that a reference tells of: the one that it holds, and the one
that it is peeled to. -/
def Complete (db : RefDatabase) : Prop :=
  ∀ name r id, db.references.get? name = some r → Reveals r id → ∃ o, db.object? id = some o

theorem ofReferences_eq (refs : List Reference) :
    ofReferences refs = ofInsertions (refs.map .reference) := by
  rw [ofReferences, ofInsertions, List.foldl_map]
  rfl

/-- No insertion makes an object unknown. -/
theorem object?_after (db : RefDatabase) (i : Insertion) (h : ∃ o, db.object? id = some o) :
    ∃ o, (db.after i).object? id = some o := by
  rw [← Option.isSome_iff_exists] at h ⊢
  cases i with
  | reference r => exact isSome_revealObjects.mpr (Or.inr h)
  | object o => exact Table.isSome_insert.mpr (Or.inr h)

theorem complete_after (h : db.Complete) (i : Insertion) : (db.after i).Complete := by
  intro name r id hr hid
  cases i with
  | reference new =>
    change (db.references.insert new.name new).get? name = some r at hr
    rw [Table.get?_insert] at hr
    split_ifs at hr
    · obtain rfl := Option.some.inj hr
      exact Option.isSome_iff_exists.mp (isSome_revealObjects.mpr (Or.inl hid))
    · exact object?_after db _ (h name r id hr hid)
  | object o => exact object?_after db _ (h name r id hr hid)

theorem complete_ofInsertions (insertions : List Insertion) :
    (ofInsertions insertions).Complete := by
  induction insertions using List.reverseRecOn with
  | nil =>
    intro name r id hr
    cases hr
  | append_singleton insertions i ih =>
    rw [ofInsertions, List.foldl_append]
    exact complete_after ih i

theorem commitOf_of_error (h : db.resolve name = .error e) : db.commitOf name = .error e := by
  rw [commitOf, h]
  rfl

/-- The ways in which a commit is looked for. -/
theorem commitOf_cases (db : RefDatabase) (name : String) :
    (∃ e, db.resolve name = .error e ∧ db.commitOf name = .error e) ∨
    ∃ last r held, db.resolve name = .ok r ∧ db.references.get? last = some r ∧
      r.target = .object held ∧
      db.commitOf name = if isTagRef r.name then db.commitOfTagged held else .ok held := by
  cases h : db.resolve name with
  | error e => exact Or.inl ⟨e, rfl, commitOf_of_error h⟩
  | ok r =>
    obtain ⟨⟨last, hlast⟩, held, hheld⟩ := follow_eq_ok h
    exact Or.inr ⟨last, r, held, rfl, hlast, hheld, commitOf_of_resolve h hheld⟩

theorem resolve_error_cases (h : db.resolve name = .error e) :
    (∃ missing, e = .referenceNotFound missing) ∨ e = .symbolicDepthExceeded name := by
  cases resolve_eq_iff.mp h with
  | missing hn hlast hr => exact Or.inl ⟨_, rfl⟩
  | exceeded hlast => exact Or.inr rfl

theorem commitOfTagged_ne (h : ∃ o, db.object? held = some o) (id : ObjectId) :
    db.commitOfTagged held ≠ .error (.objectNotFound id) := by
  obtain ⟨o, ho⟩ := h
  rw [commitOfTagged, ho]
  intro hne
  cases o with
  | commit id => cases hne
  | tag id target kind => cases kind <;> cases hne
  | other id kind => cases hne

theorem commitOf_ne (h : db.Complete) (name : String) (id : ObjectId) :
    db.commitOf name ≠ .error (.objectNotFound id) := by
  obtain ⟨e, hresolve, hcommit⟩ | ⟨last, r, held, -, hr, hheld, hcommit⟩ := commitOf_cases db name
  · rw [hcommit]
    rintro ⟨⟩
    obtain ⟨missing, he⟩ | he := resolve_error_cases hresolve <;> cases he
  · rw [hcommit]
    split_ifs
    · exact commitOfTagged_ne (h last r held hr ⟨held, hheld, Or.inl rfl⟩) id
    · rintro ⟨⟩

/-- Whatever is inserted, an object is known for each id that a reference of the database tells of,
and no look-up of a commit fails for want of an object. In a database of references such a look-up
fails only because the name leads nowhere; a tag has the commit to which the last reference that
peels its object peels it, and its object itself if none does. -/
theorem insertions_complete (insertions : List Insertion) (refs : List Reference) :
    (∀ name r id, (ofInsertions insertions).references.get? name = some r → Reveals r id →
      ∃ o, (ofInsertions insertions).object? id = some o) ∧
    (∀ name id, (ofInsertions insertions).commitOf name ≠ .error (.objectNotFound id)) ∧
    ofReferences refs = ofInsertions (refs.map .reference) ∧
    (∀ name e, (ofReferences refs).commitOf name = .error e →
      (∃ missing, e = .referenceNotFound missing) ∨ e = .symbolicDepthExceeded name) ∧
    ∀ name r id, (ofReferences refs).resolve name = .ok r → isTagRef r.name = true →
      r.target = .object id →
      (ofReferences refs).commitOf name = .ok ((lastPeeled? id refs).getD id) := by
  have hcomplete := complete_ofInsertions insertions
  refine ⟨hcomplete, commitOf_ne hcomplete, ofReferences_eq refs, fun name e h => ?_,
    fun name r id h htag hid => ?_⟩
  · obtain ⟨e', hresolve, hcommit⟩ | ⟨last, r, held, hresolve, -, hheld, -⟩ :=
      commitOf_cases (ofReferences refs) name
    · obtain rfl := Except.error.inj (hcommit.symm.trans h)
      exact resolve_error_cases hresolve
    · rw [commitOf_ofReferences hresolve hheld] at h
      cases h
  · rw [commitOf_ofReferences h hid, if_pos htag]

def versionTag : Reference :=
  ⟨"refs/tags/v1.0", .object (Listing.repeatedId '6' (by decide)),
    some (Listing.repeatedId '7' (by decide))⟩

/-- Another tag peels the object of the first one, to another commit. -/
def retaggedRefs : List Reference :=
  [versionTag, ⟨"refs/tags/latest", .object (Listing.repeatedId '6' (by decide)),
    some (Listing.repeatedId '8' (by decide))⟩]

/-- The object of the tag is said to be a blob after all. -/
def blobInsertions : List Insertion :=
  retaggedRefs.map .reference ++ [.object (.other (Listing.repeatedId '6' (by decide)) .blob)]

theorem retaggedRefs_complete :
    (ofInsertions blobInsertions).references.get? "refs/tags/v1.0" = some versionTag ∧
    Reveals versionTag (Listing.repeatedId '7' (by decide)) ∧
    (∃ o, (ofInsertions blobInsertions).object? (Listing.repeatedId '7' (by decide)) = some o) ∧
    (ofInsertions blobInsertions).commitOf "refs/tags/v1.0" ≠
      .error (.objectNotFound (Listing.repeatedId '6' (by decide))) ∧
    (ofReferences retaggedRefs).resolve "refs/tags/v1.0" = .ok versionTag ∧
    isTagRef versionTag.name = true ∧
    (ofReferences retaggedRefs).commitOf "refs/tags/v1.0" =
      .ok (Listing.repeatedId '8' (by decide)) := by
  have hget : (ofInsertions blobInsertions).references.get? "refs/tags/v1.0" =
      some versionTag := by decide
  have hpeeled : Reveals versionTag (Listing.repeatedId '7' (by decide)) := ⟨_, rfl, Or.inr rfl⟩
  have hresolve : (ofReferences retaggedRefs).resolve "refs/tags/v1.0" = .ok versionTag := by
    decide
  obtain ⟨hknown, hne, -, -, htag⟩ := insertions_complete blobInsertions retaggedRefs
  exact ⟨hget, hpeeled, hknown _ _ _ hget hpeeled, hne _ _, hresolve, rfl,
    (htag _ _ _ hresolve rfl rfl).trans (by decide)⟩

end RefDatabase
end GitDrift.Git
