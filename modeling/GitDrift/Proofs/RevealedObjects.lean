import GitDrift.Proofs.Revision
import Mathlib.Data.List.Perm.Basic

/-!
The objects that a listing tells of. An id is that of a tag if some reference says which commit it
leads to, and else that of a commit. Where the reference stands does not matter, and so what
selectors mean does not depend on the order of a listing.
-/
namespace GitDrift.Git

variable {refs refs' : List Reference} {r r' : Reference} {name start selector : String}
  {id commit : ObjectId} {objects : Table ObjectId GitObject} {db db' : RefDatabase}

/-- The reference is an annotated tag of an object: it holds the object and says which commit it
leads to. -/
def Peels (r : Reference) (id commit : ObjectId) : Prop :=
  r.target = .object id ∧ r.peeled = some commit

/-- The commit that a reference says an object leads to. -/
def peeledFrom? (id : ObjectId) (r : Reference) : Option ObjectId :=
  if r.target = .object id then r.peeled else none

/-- The commit that the last of the references that peel an object peel it to. -/
def lastPeeled? (id : ObjectId) (refs : List Reference) : Option ObjectId :=
  refs.reverse.findSome? (peeledFrom? id)

theorem peeledFrom?_eq_some_iff : peeledFrom? id r = some commit ↔ Peels r id commit := by
  unfold peeledFrom? Peels
  split_ifs with h <;> simp [h]

theorem lastPeeled?_append_singleton (id : ObjectId) (refs : List Reference) (r : Reference) :
    lastPeeled? id (refs ++ [r]) = (peeledFrom? id r).or (lastPeeled? id refs) := by
  rw [lastPeeled?, List.reverse_append, List.reverse_singleton, List.singleton_append,
    List.findSome?_cons]
  cases peeledFrom? id r <;> rfl

theorem exists_peels_of_lastPeeled? (h : lastPeeled? id refs = some commit) :
    ∃ r ∈ refs, Peels r id commit := by
  obtain ⟨r, hr, hpeeled⟩ := List.exists_of_findSome?_eq_some h
  exact ⟨r, List.mem_reverse.mp hr, peeledFrom?_eq_some_iff.mp hpeeled⟩

theorem lastPeeled?_eq_none_iff :
    lastPeeled? id refs = none ↔ ∀ r ∈ refs, ∀ commit, ¬ Peels r id commit := by
  rw [lastPeeled?, List.findSome?_eq_none_iff]
  simp only [List.mem_reverse, Option.eq_none_iff_forall_not_mem, Option.mem_def,
    peeledFrom?_eq_some_iff]

instance (r : Reference) (id : ObjectId) : Decidable (Reveals r id) :=
  match h : r.target with
  | .symbolic _ => isFalse (by simp [Reveals, h])
  | .object held => decidable_of_iff (id = held ∨ r.peeled = some id) (by simp [Reveals, h])

/-- A tag replaces what was known of its id, and a commit does not. -/
theorem get?_revealObjects : (RefDatabase.revealObjects objects r).get? id =
    match peeledFrom? id r with
    | some commit => some (.tag id commit .commit)
    | none => if Reveals r id then some ((objects.get? id).getD (.commit id))
      else objects.get? id := by
  obtain ⟨name, target, peeled⟩ := r
  cases target with
  | symbolic next => simp [RefDatabase.revealObjects, Reveals, peeledFrom?]
  | object held =>
    cases peeled with
    | none =>
      by_cases hid : id = held
      · subst hid
        simp [RefDatabase.revealObjects, Reveals, peeledFrom?, Table.get?_insertNew]
      · simp [RefDatabase.revealObjects, Reveals, peeledFrom?, Table.get?_insertNew, hid]
    | some commit =>
      simp only [RefDatabase.revealObjects, Table.get?_insertNew, Table.get?_insert]
      by_cases hid : id = held
      · subst hid
        by_cases hc : id = commit <;> simp [peeledFrom?, hc]
      · have hheld : held ≠ id := Ne.symm hid
        by_cases hc : id = commit
        · subst hc
          simp [Reveals, peeledFrom?, hid, hheld]
        · simp [Reveals, peeledFrom?, hid, hheld, hc, Ne.symm hc]

/-- What a listing tells of an id: an id that some reference peels is that of a tag, and every other
one that it tells of is that of a commit. -/
theorem object?_ofReferences (refs : List Reference) (id : ObjectId) :
    (RefDatabase.ofReferences refs).object? id =
      match lastPeeled? id refs with
      | some commit => some (.tag id commit .commit)
      | none => if ∃ r ∈ refs, Reveals r id then some (.commit id) else none := by
  induction refs using List.reverseRecOn with
  | nil => rfl
  | append_singleton refs r ih =>
    rw [RefDatabase.object?] at ih
    rw [ofReferences_append_singleton, RefDatabase.object?, RefDatabase.insert,
      get?_revealObjects, lastPeeled?_append_singleton, ih]
    cases peeledFrom? id r with
    | some commit => rfl
    | none =>
      cases hlast : lastPeeled? id refs with
      | some commit => simp
      | none =>
        by_cases hr : Reveals r id <;> by_cases hrefs : ∃ r ∈ refs, Reveals r id <;>
          simp [hr, hrefs]

/-- References that peel the same object peel it to the same commit. -/
def PeeledAlike (refs : List Reference) : Prop :=
  ∀ r ∈ refs, ∀ r' ∈ refs, ∀ id commit commit', Peels r id commit → Peels r' id commit' →
    commit = commit'

theorem lastPeeled?_eq_some_iff (hp : PeeledAlike refs) :
    lastPeeled? id refs = some commit ↔ ∃ r ∈ refs, Peels r id commit := by
  refine ⟨exists_peels_of_lastPeeled?, ?_⟩
  rintro ⟨r, hr, hpeels⟩
  cases hlast : lastPeeled? id refs with
  | none => exact absurd hpeels (lastPeeled?_eq_none_iff.mp hlast r hr commit)
  | some commit' =>
    obtain ⟨r', hr', hpeels'⟩ := exists_peels_of_lastPeeled? hlast
    rw [hp r hr r' hr' id commit commit' hpeels hpeels']

theorem PeeledAlike.perm (hp : PeeledAlike refs) (h : refs'.Perm refs) : PeeledAlike refs' :=
  fun r hr r' hr' => hp r (h.subset hr) r' (h.subset hr')

/-- Two databases in which every name and every id is found alike. -/
structure RefDatabase.Alike (db db' : RefDatabase) : Prop where
  reference : ∀ name, db.references.get? name = db'.references.get? name
  object : ∀ id, db.object? id = db'.object? id

namespace RefDatabase.Alike

variable (h : db.Alike db')
include h

theorem follow (start : String) (budget : Nat) (name : String) :
    db.follow start budget name = db'.follow start budget name := by
  induction budget generalizing name with
  | zero => rfl
  | succ budget ih => simp only [RefDatabase.follow, h.reference, ih]

theorem commitOf (name : String) : db.commitOf name = db'.commitOf name := by
  simp only [RefDatabase.commitOf, RefDatabase.resolve, RefDatabase.commitOfTagged, h.follow,
    h.object]

theorem select (selector : String) : db.select selector = db'.select selector := by
  simp only [RefDatabase.select, RefDatabase.knownId?, RefDatabase.firstCommit?, h.commitOf,
    h.object]

end RefDatabase.Alike

theorem get?_ofReferences_perm (hn : (refs.map (·.name)).Nodup) (h : refs'.Perm refs)
    (name : String) : (RefDatabase.ofReferences refs').references.get? name =
      (RefDatabase.ofReferences refs).references.get? name := by
  have hn' : (refs'.map (·.name)).Nodup := (h.map _).nodup_iff.mpr hn
  ext r
  rw [get?_ofReferences_eq_some_iff hn', get?_ofReferences_eq_some_iff hn, h.mem_iff]

theorem object?_ofReferences_perm (hp : PeeledAlike refs) (h : refs'.Perm refs) (id : ObjectId) :
    (RefDatabase.ofReferences refs').object? id = (RefDatabase.ofReferences refs).object? id := by
  have hlast : lastPeeled? id refs' = lastPeeled? id refs := by
    ext commit
    simp only [lastPeeled?_eq_some_iff hp, lastPeeled?_eq_some_iff (hp.perm h), h.mem_iff]
  simp only [object?_ofReferences, hlast, h.mem_iff]

/-- Where names are distinct and tags of one object are peeled alike, what a selector means does not
depend on the order of the references. An id that some reference peels is that of a tag, wherever
the reference stands, and leads to a commit that one of them tells. -/
theorem resolve_perm (hn : (refs.map (·.name)).Nodup) (hp : PeeledAlike refs) :
    (∀ refs' selector, refs'.Perm refs → resolve refs' selector = resolve refs selector) ∧
    ∀ list r id commit, r ∈ list → Peels r id commit →
      ∃ r' ∈ list, ∃ commit', Peels r' id commit' ∧
        (RefDatabase.ofReferences list).object? id = some (.tag id commit' .commit) := by
  constructor
  · intro refs' selector h
    have halike : (RefDatabase.ofReferences refs').Alike (RefDatabase.ofReferences refs) :=
      ⟨get?_ofReferences_perm hn h, object?_ofReferences_perm hp h⟩
    have hempty : refs'.isEmpty = refs.isEmpty := h.isEmpty_eq
    rw [resolve, resolve, hempty, halike.select]
  · intro list r id commit hr hpeels
    cases hlast : lastPeeled? id list with
    | none => exact absurd hpeels (lastPeeled?_eq_none_iff.mp hlast r hr commit)
    | some commit' =>
      obtain ⟨r', hr', hpeels'⟩ := exists_peels_of_lastPeeled? hlast
      exact ⟨r', hr', commit', hpeels', by rw [object?_ofReferences, hlast]⟩

/-- A branch holds the object of a tag, and another tag is peeled to that object. -/
def nestedRefs : List Reference :=
  [.ofId "refs/heads/main" (Listing.repeatedId '3' (by decide)),
    ⟨"refs/tags/v1.0", .object (Listing.repeatedId '3' (by decide)),
      some (Listing.repeatedId '4' (by decide))⟩,
    ⟨"refs/tags/signed", .object (Listing.repeatedId '5' (by decide)),
      some (Listing.repeatedId '3' (by decide))⟩]

theorem peels_nestedRefs (hr : r ∈ nestedRefs) (h : Peels r id commit) :
    id = Listing.repeatedId '3' (by decide) ∧ commit = Listing.repeatedId '4' (by decide) ∨
      id = Listing.repeatedId '5' (by decide) ∧ commit = Listing.repeatedId '3' (by decide) := by
  simp only [nestedRefs, List.mem_cons, List.not_mem_nil, or_false] at hr
  rcases hr with rfl | rfl | rfl
  · cases h.2
  · obtain ⟨⟨⟩, ⟨⟩⟩ := h
    exact Or.inl ⟨rfl, rfl⟩
  · obtain ⟨⟨⟩, ⟨⟩⟩ := h
    exact Or.inr ⟨rfl, rfl⟩

theorem peeledAlike_nestedRefs : PeeledAlike nestedRefs := by
  have hne : Listing.repeatedId '3' (by decide) ≠ Listing.repeatedId '5' (by decide) := by decide
  intro r hr r' hr' id commit commit' h h'
  rcases peels_nestedRefs hr h with ⟨hid, hc⟩ | ⟨hid, hc⟩ <;>
    rcases peels_nestedRefs hr' h' with ⟨hid', hc'⟩ | ⟨hid', hc'⟩
  · rw [hc, hc']
  · exact absurd (hid.symm.trans hid') hne
  · exact absurd (hid'.symm.trans hid) hne
  · rw [hc, hc']

theorem resolve_nestedRefs_reversed : (nestedRefs.map (·.name)).Nodup ∧ PeeledAlike nestedRefs ∧
    (∀ selector, resolve nestedRefs.reverse selector = resolve nestedRefs selector) ∧
    resolve nestedRefs.reverse "v1.0" = .ok (Listing.repeatedId '4' (by decide)) := by
  have hn : (nestedRefs.map (·.name)).Nodup := by decide
  have hperm := (resolve_perm hn peeledAlike_nestedRefs).1
  refine ⟨hn, peeledAlike_nestedRefs, fun selector => ?_, ?_⟩
  · exact hperm nestedRefs.reverse selector (List.reverse_perm nestedRefs)
  · rw [hperm nestedRefs.reverse "v1.0" (List.reverse_perm nestedRefs)]
    decide

end GitDrift.Git
