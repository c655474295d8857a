import GitDrift.Drift.Detection
import GitDrift.Proofs.ListingRoundTrip
import Mathlib.Data.List.Induction
import Mathlib.Data.List.Nodup

/-!
The commit that is tracked, and the commit that a selector means. The first is looked up in the
listing, the second in an index of it by name, along symbolic references and through tags.
-/
namespace GitDrift

open Git

namespace Table

variable {κ α : Type} [DecidableEq κ] {t : Table κ α} {k l : κ} {a : α}

theorem isSome_insert : ((t.insert l a).get? k).isSome ↔ k = l ∨ (t.get? k).isSome := by
  rw [get?_insert]
  split <;> simp_all

theorem isSome_insertNew : ((t.insertNew l a).get? k).isSome ↔ k = l ∨ (t.get? k).isSome := by
  rw [get?_insertNew]
  split <;> simp_all

end Table

namespace Git

variable {refs : List Reference} {r : Reference} {name target selector : String} {id : ObjectId}
  {objects : Table ObjectId GitObject} {db : RefDatabase}

/-- A reference tells of an object if it points at it, or peels to it. -/
def Reveals (r : Reference) (id : ObjectId) : Prop :=
  ∃ held, r.target = .object held ∧ (id = held ∨ r.peeled = some id)

theorem ofReferences_append_singleton (refs : List Reference) (r : Reference) :
    RefDatabase.ofReferences (refs ++ [r]) = (RefDatabase.ofReferences refs).insert r := by
  simp [RefDatabase.ofReferences]

/-- Of the references of a name, the last one is found in the index. -/
theorem get?_ofReferences (refs : List Reference) (name : String) :
    (RefDatabase.ofReferences refs).references.get? name =
      refs.reverse.find? (·.name = name) := by
  induction refs using List.reverseRecOn with
  | nil => rfl
  | append_singleton refs r ih =>
    rw [ofReferences_append_singleton, RefDatabase.insert, Table.get?_insert, ih,
      List.reverse_append, List.reverse_singleton, List.singleton_append, List.find?_cons]
    by_cases h : r.name = name
    · simp [h]
    · simp [h, Ne.symm h]

theorem findReference_eq_some_iff (hn : (refs.map (·.name)).Nodup) :
    findReference refs name = some r ↔ r ∈ refs ∧ r.name = name := by
  constructor
  · intro h
    exact ⟨List.mem_of_find?_eq_some h, by simpa using List.find?_some h⟩
  · rintro ⟨hr, hname⟩
    obtain ⟨r', hr'⟩ : ∃ r', findReference refs name = some r' := by
      rw [← Option.isSome_iff_exists, findReference, List.find?_isSome]
      exact ⟨r, hr, by simpa using hname⟩
    have hname' : r'.name = name := by simpa using List.find?_some hr'
    rw [hr', List.inj_on_of_nodup_map hn (List.mem_of_find?_eq_some hr') hr
      (hname'.trans hname.symm)]

/-- Where names are distinct, the index finds the one reference of a name. -/
theorem get?_ofReferences_eq_some_iff (hn : (refs.map (·.name)).Nodup) :
    (RefDatabase.ofReferences refs).references.get? name = some r ↔ r ∈ refs ∧ r.name = name := by
  have hn' : (refs.reverse.map (·.name)).Nodup := by
    rw [List.map_reverse]
    exact List.nodup_reverse.mpr hn
  rw [get?_ofReferences, ← List.mem_reverse]
  exact findReference_eq_some_iff hn'

theorem get?_of_findReference (hn : (refs.map (·.name)).Nodup)
    (h : findReference refs name = some r) :
    (RefDatabase.ofReferences refs).references.get? name = some r :=
  (get?_ofReferences_eq_some_iff hn).mpr ((findReference_eq_some_iff hn).mp h)

theorem isSome_revealObjects : ((RefDatabase.revealObjects objects r).get? id).isSome ↔
    Reveals r id ∨ (objects.get? id).isSome := by
  obtain ⟨name, target, peeled⟩ := r
  cases target with
  | symbolic next => simp [RefDatabase.revealObjects, Reveals]
  | object held =>
    cases peeled with
    | none => simp [RefDatabase.revealObjects, Reveals, Table.isSome_insertNew]
    | some commit =>
      simp only [RefDatabase.revealObjects, Reveals, Table.isSome_insertNew, Table.isSome_insert,
        RefTarget.object.injEq, exists_eq_left', Option.some.injEq]
      tauto

/-- The index knows the objects that the listing tells of. -/
theorem isSome_object?_ofReferences :
    ((RefDatabase.ofReferences refs).object? id).isSome ↔ ∃ r ∈ refs, Reveals r id := by
  induction refs using List.reverseRecOn with
  | nil => simp [RefDatabase.ofReferences, RefDatabase.object?]
  | append_singleton refs r ih =>
    rw [ofReferences_append_singleton, RefDatabase.object?, RefDatabase.insert,
      isSome_revealObjects]
    simpa [RefDatabase.object?, or_and_right, exists_or, or_comm] using or_congr_left ih

/-- The commit of what a name leads to. -/
theorem commitOf_of_resolve (h : db.resolve name = .ok r) (hid : r.target = .object id) :
    db.commitOf name = if isTagRef r.name then db.commitOfTagged id else .ok id := by
  rw [RefDatabase.commitOf, h]
  simp [bind, Except.bind, Reference.id?, hid]

/-- What is no tag stands for the object that it holds. -/
theorem commitOf_of_object (h : db.references.get? name = some r) (hid : r.target = .object id)
    (htag : isTagRef r.name = false) : db.commitOf name = .ok id := by
  have hresolve : db.resolve name = .ok r := by
    rw [RefDatabase.resolve, RefDatabase.follow, h]
    simp only [hid]
  rw [commitOf_of_resolve hresolve hid, htag]
  rfl

/-- A symbolic reference stands for what the one that it points at stands for. -/
theorem commitOf_of_symbolic {head : Reference} (hhead : db.references.get? name = some head)
    (hs : head.target = .symbolic target) (h : db.references.get? target = some r)
    (hid : r.target = .object id) (htag : isTagRef r.name = false) :
    db.commitOf name = .ok id := by
  have hresolve : db.resolve name = .ok r := by
    rw [RefDatabase.resolve, RefDatabase.follow, hhead]
    simp only [hs, RefDatabase.maxHops, RefDatabase.follow, h, hid]
  rw [commitOf_of_resolve hresolve hid, htag]
  rfl

theorem isTagRef_branchRef (name : String) : isTagRef (branchRef name) = false := by
  simp [isTagRef, branchRef, tagScheme, List.isPrefixOf]

/-- The selector is the full id, in either case of its digits. -/
def Spells (selector : String) (id : ObjectId) : Prop := selector.toList.map lowerHex = id.digits

theorem knownId?_eq_none_iff : (RefDatabase.ofReferences refs).knownId? selector = none ↔
    ∀ id, Spells selector id → ¬ ∃ r ∈ refs, Reveals r id := by
  simp only [RefDatabase.knownId?, Option.filter_eq_none_iff, ObjectId.parse?_eq_some_iff,
    isSome_object?_ofReferences, Spells]

theorem not_spells_headName (id : ObjectId) : ¬ Spells headName id := by
  intro h
  have hlen := id.length_ok
  rw [← h] at hlen
  revert hlen
  decide

theorem resolve_head (hne : refs ≠ []) :
    resolve refs headName = (RefDatabase.ofReferences refs).commitOf headName := by
  have hknown : (RefDatabase.ofReferences refs).knownId? headName = none :=
    knownId?_eq_none_iff.mpr fun id h => absurd h (not_spells_headName id)
  have hempty : headName ≠ "" := by decide
  simp [resolve, hne, RefDatabase.select, hempty, hknown]

/-- A selector that is no id of a known object means first of all a branch. -/
theorem resolve_branch (hne : refs ≠ []) (hempty : selector ≠ "") (hhead : selector ≠ headName)
    (hknown : ∀ id, Spells selector id → ¬ ∃ r ∈ refs, Reveals r id)
    (h : (RefDatabase.ofReferences refs).commitOf (branchRef selector) = .ok id) :
    resolve refs selector = .ok id := by
  simp [resolve, hne, RefDatabase.select, hempty, hhead, knownId?_eq_none_iff.mpr hknown,
    RefDatabase.firstCommit?, candidates, h, Except.toOption]

end Git

namespace Drift

variable {refs : List Reference} {revision target : String} {id : ObjectId}

theorem headTarget?_eq_some (hn : (refs.map (·.name)).Nodup)
    (h : headTarget? refs = some target) :
    ∃ head, findReference refs headName = some head ∧ head.target = .symbolic target := by
  obtain ⟨head, hmem, hs⟩ := List.exists_of_findSome?_eq_some h
  obtain ⟨hhead, hname⟩ := List.mem_filter.mp hmem
  refine ⟨head, (findReference_eq_some_iff hn).mpr ⟨hhead, by simpa using hname⟩, ?_⟩
  unfold Reference.symbolic? at hs
  split at hs
  · cases hs
  · rename_i heq
    cases hs
    exact heq

theorem target_of_id? {r : Reference} (h : r.id? = some id) : r.target = .object id := by
  unfold Reference.id? at h
  split at h
  · rename_i heq
    cases h
    exact heq
  · cases h

/-- What is tracked is the object that `HEAD` leads to in one step, or that a branch holds. -/
theorem trackedCommit_cases (h : trackedCommit refs revision = .ok id) :
    ∃ r, r.target = .object id ∧ (revision = "" ∧ headBranch refs = .ok r ∨
      revision ≠ "" ∧ findBranch refs revision = some r) := by
  rw [trackedCommit] at h
  split_ifs at h with hempty
  · cases hr : headBranch refs with
    | error e => simp [hr, Except.mapError, bind, Except.bind] at h
    | ok r =>
      cases hid : r.id? with
      | none => simp [hr, hid, Except.mapError, bind, Except.bind] at h
      | some held =>
        obtain rfl : held = id := by simpa [hr, hid, Except.mapError, bind, Except.bind] using h
        exact ⟨r, target_of_id? hid, Or.inl ⟨hempty, rfl⟩⟩
  · cases hr : findBranch refs revision with
    | none => simp [hr, bind, Except.bind] at h
    | some r =>
      cases hid : r.id? with
      | none => simp [hr, hid, bind, Except.bind] at h
      | some held =>
        obtain rfl : held = id := by simpa [hr, hid, bind, Except.bind] using h
        exact ⟨r, target_of_id? hid, Or.inr ⟨hempty, rfl⟩⟩

theorem headBranch_eq_ok {r : Reference} (h : headBranch refs = .ok r) :
    ∃ target, headTarget? refs = some target ∧ findReference refs target = some r := by
  rw [headBranch] at h
  split at h
  · cases h
  · split at h
    · cases h
    · rename_i target ht
      split at h
      · rename_i r' hr
        cases h
        exact ⟨target, ht, hr⟩
      · cases h

/-- What is tracked is what the revision means as a selector, and without a revision what `HEAD`
means. The selector must not be taken for something else: `HEAD` for a branch of that name, a full
id for the object, or the object that `HEAD` leads to for a tag. -/
theorem tracked_commit_resolves (hn : (refs.map (·.name)).Nodup)
    (h : trackedCommit refs revision = .ok id) :
    (revision = "" → (∀ target, headTarget? refs = some target → isTagRef target = false) →
      resolve refs headName = .ok id) ∧
    (revision ≠ "" → revision ≠ headName →
      (∀ known, Spells revision known → ¬ ∃ r ∈ refs, Reveals r known) →
      resolve refs revision = .ok id) := by
  obtain ⟨r, hid, ⟨hempty, hr⟩ | ⟨hempty, hr⟩⟩ := trackedCommit_cases h
  · obtain ⟨target, ht, hr⟩ := headBranch_eq_ok hr
    obtain ⟨hmem, hname⟩ := (findReference_eq_some_iff hn).mp hr
    refine ⟨fun _ htag => ?_, fun hne => absurd hempty hne⟩
    obtain ⟨head, hhead, hs⟩ := headTarget?_eq_some hn ht
    rw [resolve_head (List.ne_nil_of_mem hmem)]
    exact commitOf_of_symbolic (get?_of_findReference hn hhead) hs (get?_of_findReference hn hr) hid
      (hname ▸ htag target ht)
  · obtain ⟨hmem, hname⟩ := (findReference_eq_some_iff hn).mp hr
    refine ⟨fun he => absurd he hempty, fun _ hhead hknown => ?_⟩
    apply resolve_branch (List.ne_nil_of_mem hmem) hempty hhead hknown
    exact commitOf_of_object (get?_of_findReference hn hr) hid (hname ▸ isTagRef_branchRef revision)

/-- A repository with a branch whose name is made of hexadecimal digits. -/
def hexBranchRefs : List Reference :=
  Listing.sampleRefs ++
    [.ofId ("refs/heads/" ++ (Listing.repeatedId 'f' (by decide)).text)
      (Listing.repeatedId 'd' (by decide))]

theorem hexBranchRefs_resolve : (hexBranchRefs.map (·.name)).Nodup ∧
    trackedCommit hexBranchRefs "" = .ok (Listing.repeatedId '1' (by decide)) ∧
    resolve hexBranchRefs headName = .ok (Listing.repeatedId '1' (by decide)) ∧
    (∀ known, Spells (Listing.repeatedId 'f' (by decide)).text known →
      ¬ ∃ r ∈ hexBranchRefs, Reveals r known) ∧
    resolve hexBranchRefs (Listing.repeatedId 'f' (by decide)).text =
      .ok (Listing.repeatedId 'd' (by decide)) := by
  have hn : (hexBranchRefs.map (·.name)).Nodup := by decide
  have hhead : trackedCommit hexBranchRefs "" = .ok (Listing.repeatedId '1' (by decide)) := by
    decide
  have hbranch : trackedCommit hexBranchRefs (Listing.repeatedId 'f' (by decide)).text =
      .ok (Listing.repeatedId 'd' (by decide)) := by decide
  have hknown : ∀ known, Spells (Listing.repeatedId 'f' (by decide)).text known →
      ¬ ∃ r ∈ hexBranchRefs, Reveals r known := knownId?_eq_none_iff.mp (by decide)
  exact ⟨hn, hhead, (tracked_commit_resolves hn hhead).1 rfl (by decide), hknown,
    (tracked_commit_resolves hn hbranch).2 (by decide) (by decide) hknown⟩

end Drift
end GitDrift
