import GitDrift.Drift.Detection
import GitDrift.Proofs.Revision

/-!
What a comparison of two repositories comes to. The obstacles are met in a fixed order, and remotes
are asked only as far as that goes; without one, the commits that are tracked are compared.
-/
namespace GitDrift

open Git

/-- The configuration with origin and target in exchange. -/
def GitConfig.exchanged (c : GitConfig) : GitConfig :=
  { c with
    originRepo := c.targetRepo
    originRevision := c.targetRevision
    targetRepo := c.originRepo
    targetRevision := c.originRevision }

namespace Git

variable {refs : List Reference} {r x : Reference} {name target revision : String}
  {id : ObjectId} {P : Reference → Prop}

/-- The first reference of a listing that has a property. -/
def FirstWhere (P : Reference → Prop) (refs : List Reference) (r : Reference) : Prop :=
  P r ∧ ∃ before after, refs = before ++ r :: after ∧ ∀ x ∈ before, ¬ P x

/-- A reference of the name `HEAD` that points at another. -/
def IsSymbolicHead (r : Reference) : Prop := r.name = headName ∧ r.isSymbolic = true

instance : DecidablePred IsSymbolicHead := fun _ => inferInstanceAs (Decidable (_ ∧ _))

/-- The reference by which a commit is tracked: the branch of the revision or, without a revision,
the one that `HEAD` points at. A name means the first reference that has it. -/
inductive Tracks (refs : List Reference) : String → Reference → Prop
  | head {head r : Reference} {name : String} (hhead : FirstWhere IsSymbolicHead refs head)
      (ht : head.target = .symbolic name) (hr : FirstWhere (·.name = name) refs r) :
      Tracks refs "" r
  | branch {revision : String} {r : Reference} (hne : revision ≠ "")
      (hr : FirstWhere (·.name = branchRef revision) refs r) : Tracks refs revision r

/-- The name that is said to be missing when no reference tracks a revision. -/
def missingName (revision : String) : String :=
  if revision = "" then headName else branchRef revision

/-- What the look-up of a tracked commit comes to. -/
inductive Finds (refs : List Reference) (revision : String) : Except String ObjectId → Prop
  | commit {r : Reference} {id : ObjectId} (h : Tracks refs revision r)
      (ht : r.target = .object id) : Finds refs revision (.ok id)
  /-- The reference points at yet another one, which is not followed. -/
  | symbolic {r : Reference} {next : String} (h : Tracks refs revision r)
      (ht : r.target = .symbolic next) : Finds refs revision (.error r.name)
  | missing (h : ∀ r, ¬ Tracks refs revision r) :
      Finds refs revision (.error (missingName revision))

theorem find?_eq_some_iff_firstWhere [DecidablePred P] :
    refs.find? P = some r ↔ FirstWhere P refs r := by
  simp [List.find?_eq_some_iff_append, FirstWhere]

theorem FirstWhere.unique (h : FirstWhere P refs r) (hx : FirstWhere P refs x) : r = x := by
  classical
  exact Option.some.inj
    ((find?_eq_some_iff_firstWhere.mpr h).symm.trans (find?_eq_some_iff_firstWhere.mpr hx))

theorem symbolic?_eq_some_iff : r.symbolic? = some name ↔ r.target = .symbolic name := by
  unfold Reference.symbolic?
  cases r.target <;> simp

theorem headTarget?_eq_find? (refs : List Reference) :
    headTarget? refs = (refs.find? IsSymbolicHead).bind Reference.symbolic? := by
  unfold headTarget?
  induction refs with
  | nil => rfl
  | cons r refs ih =>
    by_cases hname : r.name = headName
    · cases hs : r.symbolic? with
      | none =>
        have hr : ¬ IsSymbolicHead r := by simp [IsSymbolicHead, Reference.isSymbolic, hs]
        simp [hname, hs, hr, ih]
      | some name =>
        have hr : IsSymbolicHead r := ⟨hname, by simp [Reference.isSymbolic, hs]⟩
        simp [hname, hs, hr]
    · have hr : ¬ IsSymbolicHead r := fun h => hname h.1
      simp [hname, hr, ih]

theorem headTarget?_eq_some_iff : headTarget? refs = some target ↔
    ∃ head, FirstWhere IsSymbolicHead refs head ∧ head.target = .symbolic target := by
  simp [headTarget?_eq_find?, Option.bind_eq_some_iff, find?_eq_some_iff_firstWhere,
    symbolic?_eq_some_iff]

/-- The reference that is looked up for a revision. -/
def tracked? (refs : List Reference) (revision : String) : Option Reference :=
  if revision = "" then (headTarget? refs).bind (findReference refs) else findBranch refs revision

theorem tracked?_eq_some_iff : tracked? refs revision = some r ↔ Tracks refs revision r := by
  unfold tracked?
  split_ifs with hempty
  · subst hempty
    simp only [Option.bind_eq_some_iff, headTarget?_eq_some_iff, findReference,
      find?_eq_some_iff_firstWhere]
    constructor
    · rintro ⟨name, ⟨head, hhead, ht⟩, hr⟩
      exact .head hhead ht hr
    · rintro (⟨hhead, ht, hr⟩ | ⟨hne, _⟩)
      · exact ⟨_, ⟨_, hhead, ht⟩, hr⟩
      · exact absurd rfl hne
  · simp only [findBranch, findReference, find?_eq_some_iff_firstWhere]
    constructor
    · exact .branch hempty
    · rintro (⟨hhead, ht, hr⟩ | ⟨_, hr⟩)
      · exact absurd rfl hempty
      · exact hr

theorem Finds.ne_nil (h : Finds refs revision (.ok id)) : refs ≠ [] := by
  rintro rfl
  cases h with
  | commit h =>
    cases h with
    | head _ _ hr => obtain ⟨_, before, after, hrefs, _⟩ := hr; simp at hrefs
    | branch _ hr => obtain ⟨_, before, after, hrefs, _⟩ := hr; simp at hrefs

end Git

namespace Drift

variable {refs : List Reference} {revision : String} {x : Except String ObjectId}

theorem headBranch_toOption (refs : List Reference) :
    (headBranch refs).toOption = tracked? refs "" := by
  cases refs with
  | nil => rfl
  | cons r refs =>
    rw [headBranch, tracked?, if_pos rfl]
    cases ht : headTarget? (r :: refs) with
    | none => rfl
    | some name => cases hr : findReference (r :: refs) name <;> simp [hr, Except.toOption]

theorem trackedCommit_eq (refs : List Reference) (revision : String) :
    trackedCommit refs revision =
      match tracked? refs revision with
      | none => .error (missingName revision)
      | some r =>
        match r.id? with
        | some id => .ok id
        | none => .error r.name := by
  rw [trackedCommit, missingName]
  split_ifs with hempty
  · subst hempty
    rw [← headBranch_toOption]
    cases headBranch refs with
    | error e => rfl
    | ok r => rfl
  · rw [tracked?, if_neg hempty]
    cases findBranch refs revision with
    | none => rfl
    | some r => rfl

/-- The look-up of a tracked commit comes to what it is said to come to, and to nothing else. -/
theorem trackedCommit_eq_iff : trackedCommit refs revision = x ↔ Finds refs revision x := by
  rw [trackedCommit_eq]
  constructor
  · rintro rfl
    cases hr : tracked? refs revision with
    | none =>
      refine .missing fun r h => ?_
      rw [tracked?_eq_some_iff.mpr h] at hr
      cases hr
    | some r =>
      have htracks := tracked?_eq_some_iff.mp hr
      cases ht : r.target with
      | object id =>
        simp only [Reference.id?, ht]
        exact .commit htracks ht
      | symbolic next =>
        simp only [Reference.id?, ht]
        exact .symbolic htracks ht
  · intro h
    cases h with
    | commit h ht => simp [tracked?_eq_some_iff.mpr h, Reference.id?, ht]
    | symbolic h ht => simp [tracked?_eq_some_iff.mpr h, Reference.id?, ht]
    | missing h =>
      have hnone : tracked? refs revision = none :=
        Option.eq_none_iff_forall_ne_some.mpr fun r hr => h r (tracked?_eq_some_iff.mp hr)
      rw [hnone]

section

variable {key : PatternKey} {config : Except StoreError GitConfig} {c : GitConfig} {side : Side}
  {listing : Side → String → Except GitError (List Reference)} {refs origin target : List Reference}
  {e : DriftError} {result : Except DriftError Bool} {asked : List (Side × String)}

/-- There is a configuration, and it names both repositories. -/
def Configured (config : Except StoreError GitConfig) (c : GitConfig) : Prop :=
  config = .ok c ∧ c.originRepo ≠ "" ∧ c.targetRepo ≠ ""

/-- A side has references. -/
def Lists (listing : Side → String → Except GitError (List Reference)) (c : GitConfig) (side : Side)
    (refs : List Reference) : Prop :=
  listing side (side.url c) = .ok refs ∧ refs ≠ []

/-- Why a side has no references. -/
inductive Obstructs (listing : Side → String → Except GitError (List Reference)) (c : GitConfig)
    (side : Side) : DriftError → Prop
  | transport {e : GitError} (h : listing side (side.url c) = .error e) :
      Obstructs listing c side (.transport e)
  | empty (h : listing side (side.url c) = .ok []) :
      Obstructs listing c side (.noReferences side (side.url c))

/-- The result that two listings have. What the origin lacks is told before what the target
lacks. -/
inductive Compares (c : GitConfig) (origin target : List Reference) : Except DriftError Bool → Prop
  | origin {name : String} (h : Finds origin c.originRevision (.error name)) :
      Compares c origin target (.error (.referenceNotFound name .origin c.originRepo))
  | target {o : ObjectId} {name : String} (ho : Finds origin c.originRevision (.ok o))
      (h : Finds target c.targetRevision (.error name)) :
      Compares c origin target (.error (.referenceNotFound name .target c.targetRepo))
  | commits {o t : ObjectId} (ho : Finds origin c.originRevision (.ok o))
      (ht : Finds target c.targetRevision (.ok t)) :
      Compares c origin target (.ok (decide (o ≠ t)))

/-- The result of a comparison, and the remotes that are asked for it. The target is asked only
when the origin has references. -/
inductive Decides (key : PatternKey) (config : Except StoreError GitConfig)
    (listing : Side → String → Except GitError (List Reference)) :
    Except DriftError Bool → List (Side × String) → Prop
  | store {e : StoreError} (h : config = .error e) :
      Decides key config listing (.error (.store e)) []
  | repository {c : GitConfig} (h : config = .ok c) (he : c.originRepo = "" ∨ c.targetRepo = "") :
      Decides key config listing (.error (.missingRepository key)) []
  | origin {c : GitConfig} {e : DriftError} (hc : Configured config c)
      (he : Obstructs listing c .origin e) :
      Decides key config listing (.error e) [(.origin, c.originRepo)]
  | target {c : GitConfig} {e : DriftError} {origin : List Reference} (hc : Configured config c)
      (hl : Lists listing c .origin origin) (he : Obstructs listing c .target e) :
      Decides key config listing (.error e) [(.origin, c.originRepo), (.target, c.targetRepo)]
  | compared {c : GitConfig} {origin target : List Reference} {result : Except DriftError Bool}
      (hc : Configured config c) (hl : Lists listing c .origin origin)
      (hr : Lists listing c .target target) (h : Compares c origin target result) :
      Decides key config listing result [(.origin, c.originRepo), (.target, c.targetRepo)]

theorem compare_eq (c : GitConfig) (origin target : List Reference) :
    compare c origin target =
      match trackedCommit origin c.originRevision, trackedCommit target c.targetRevision with
      | .error name, _ => .error (.referenceNotFound name .origin c.originRepo)
      | .ok _, .error name => .error (.referenceNotFound name .target c.targetRepo)
      | .ok o, .ok t => .ok (decide (o ≠ t)) := by
  simp only [compare, sideCommit, Side.revision, Side.url]
  cases trackedCommit origin c.originRevision with
  | error name => rfl
  | ok o => cases trackedCommit target c.targetRevision <;> rfl

theorem compare_eq_iff : compare c origin target = result ↔ Compares c origin target result := by
  rw [compare_eq]
  constructor
  · rintro rfl
    cases ho : trackedCommit origin c.originRevision with
    | error name => exact .origin (trackedCommit_eq_iff.mp ho)
    | ok o =>
      cases ht : trackedCommit target c.targetRevision with
      | error name => exact .target (trackedCommit_eq_iff.mp ho) (trackedCommit_eq_iff.mp ht)
      | ok t => exact .commits (trackedCommit_eq_iff.mp ho) (trackedCommit_eq_iff.mp ht)
  · intro h
    cases h with
    | origin h => rw [trackedCommit_eq_iff.mpr h]
    | target ho h => rw [trackedCommit_eq_iff.mpr ho, trackedCommit_eq_iff.mpr h]
    | commits ho ht => rw [trackedCommit_eq_iff.mpr ho, trackedCommit_eq_iff.mpr ht]

/-- A side has references, or there is something in the way. -/
theorem lists_or_obstructs (listing : Side → String → Except GitError (List Reference))
    (c : GitConfig) (side : Side) :
    (∃ refs, Lists listing c side refs) ∨ ∃ e, Obstructs listing c side e := by
  rcases h : listing side (side.url c) with e | _ | ⟨r, refs⟩
  · exact .inr ⟨_, .transport h⟩
  · exact .inr ⟨_, .empty h⟩
  · exact .inl ⟨_, h, List.cons_ne_nil r refs⟩

theorem run_list_of_lists (h : Lists listing c side refs) (next : List Reference → Detection) :
    (Detection.list c side next).run listing =
      (((next refs).run listing).1, (side, side.url c) :: ((next refs).run listing).2) := by
  obtain ⟨h, hne⟩ := h
  rw [Detection.list, Detection.run, h]
  cases refs with
  | nil => exact absurd rfl hne
  | cons r refs => rfl

theorem run_list_of_obstructs (h : Obstructs listing c side e)
    (next : List Reference → Detection) :
    (Detection.list c side next).run listing = (.error e, [(side, side.url c)]) := by
  rw [Detection.list, Detection.run]
  cases h with
  | transport h => rw [h]; rfl
  | empty h => rw [h]; rfl

theorem start_of_configured (h : Configured config c) :
    Detection.start key config = Detection.list c .origin fun origin =>
      Detection.list c .target fun target => .done (compare c origin target) := by
  obtain ⟨rfl, ho, ht⟩ := h
  simp [Detection.start, ho, ht]

/-- A detection that runs to its end decides as it is said to. -/
theorem Decides.run_eq (h : Decides key config listing result asked) :
    (Detection.start key config).run listing = (result, asked) := by
  cases h with
  | store h => rw [h, Detection.start, Detection.run]
  | repository h he => rw [h, Detection.start, if_pos he, Detection.run]
  | origin hc he =>
    rw [start_of_configured hc, run_list_of_obstructs he]
    rfl
  | target hc hl he =>
    rw [start_of_configured hc, run_list_of_lists hl, run_list_of_obstructs he]
    rfl
  | compared hc hl hr h =>
    rw [start_of_configured hc, run_list_of_lists hl, run_list_of_lists hr, Detection.run,
      compare_eq_iff.mpr h]
    rfl

theorem exists_decides (key : PatternKey) (config : Except StoreError GitConfig)
    (listing : Side → String → Except GitError (List Reference)) :
    ∃ result asked, Decides key config listing result asked := by
  cases h : config with
  | error e => exact ⟨_, _, .store rfl⟩
  | ok c =>
    by_cases he : c.originRepo = "" ∨ c.targetRepo = ""
    · exact ⟨_, _, .repository rfl he⟩
    · have hc : Configured (.ok c : Except StoreError GitConfig) c := ⟨rfl, not_or.mp he⟩
      rcases lists_or_obstructs listing c .origin with ⟨origin, hl⟩ | ⟨e, hobs⟩
      · rcases lists_or_obstructs listing c .target with ⟨target, hr⟩ | ⟨e, hobs⟩
        · exact ⟨_, _, .compared hc hl hr (compare_eq_iff.mp rfl)⟩
        · exact ⟨_, _, .target hc hl hobs⟩
      · exact ⟨_, _, .origin hc hobs⟩

theorem run_start_eq_iff : (Detection.start key config).run listing = (result, asked) ↔
    Decides key config listing result asked := by
  refine ⟨fun h => ?_, Decides.run_eq⟩
  obtain ⟨x, sides, hx⟩ := exists_decides key config listing
  obtain ⟨rfl, rfl⟩ := Prod.mk.inj (hx.run_eq.symm.trans h)
  exact hx

def Side.other : Side → Side
  | .origin => .target
  | .target => .origin

/-- The listings with origin and target in exchange. -/
def crossed (listing : Side → String → Except GitError (List Reference)) :
    Side → String → Except GitError (List Reference) := fun side => listing side.other

theorem Compares.exchanged {d : Bool} (h : Compares c origin target (.ok d)) :
    Compares c.exchanged target origin (.ok d) := by
  cases h with
  | @commits o t ho ht =>
    have hne : decide (o ≠ t) = decide (t ≠ o) := by simp [eq_comm]
    exact hne ▸ .commits ht ho

/-- Where a comparison has a result, so has the one with both sides in exchange, and the same. -/
theorem Decides.exchanged {d : Bool} (h : Decides key (.ok c) listing (.ok d) asked) :
    ∃ sides, Decides key (.ok c.exchanged) (crossed listing) (.ok d) sides := by
  cases h with
  | compared hc hl hr h =>
    obtain ⟨heq, ho, ht⟩ := hc
    obtain rfl := Except.ok.inj heq
    exact ⟨_, .compared ⟨rfl, ht, ho⟩ hr hl h.exchanged⟩

/-- A detection meets its obstacles in a fixed order: there is no configuration, or it lacks a
repository; the origin has no references, and then the target; the origin's commit is missing, and
then the target's. Without any of these, it tells whether the two commits differ. Of the origin and
the target it asks both, the first or none. The sides can be exchanged where there is a result, and
equal commits never differ, by whatever names they are tracked. -/
theorem detection_decides (key : PatternKey) (config : Except StoreError GitConfig)
    (listing : Side → String → Except GitError (List Reference)) :
    (∀ result asked, (Detection.start key config).run listing = (result, asked) ↔
      Decides key config listing result asked) ∧
    ((Detection.start key config).run listing).2.map Prod.fst <+: [.origin, .target] ∧
    (∀ c d, config = .ok c → ((Detection.start key config).run listing).1 = .ok d →
      ((Detection.start key (.ok c.exchanged)).run (crossed listing)).1 = .ok d) ∧
    ∀ c origin target id, Configured config c → listing .origin c.originRepo = .ok origin →
      listing .target c.targetRepo = .ok target → Finds origin c.originRevision (.ok id) →
      Finds target c.targetRevision (.ok id) →
      ((Detection.start key config).run listing).1 = .ok false := by
  obtain ⟨result, asked, hdecides⟩ := exists_decides key config listing
  rw [hdecides.run_eq]
  refine ⟨fun x sides => ?_, ?_, ?_, ?_⟩
  · rw [← hdecides.run_eq]
    exact run_start_eq_iff
  · cases hdecides <;> simp
  · rintro c d rfl hd
    obtain rfl : result = .ok d := hd
    obtain ⟨sides, h⟩ := hdecides.exchanged
    rw [h.run_eq]
  · intro c origin target id hc ho ht hfo hft
    have h : Decides key config listing (.ok (decide (id ≠ id))) _ :=
      .compared hc ⟨ho, hfo.ne_nil⟩ ⟨ht, hft.ne_nil⟩ (.commits hfo hft)
    rw [← hdecides.run_eq, h.run_eq]
    simp

/-- The origin is tracked by its `HEAD`, the target by a branch. -/
def sampleConfig : GitConfig :=
  { originRepo := "https://origin", targetRepo := "https://target", targetRevision := "main" }

theorem sampleConfig_in_sync :
    Configured (.ok sampleConfig : Except StoreError GitConfig) sampleConfig ∧
      Finds Listing.sampleRefs "" (.ok (Listing.repeatedId '1' (by decide))) ∧
      Finds Listing.sampleRefs "main" (.ok (Listing.repeatedId '1' (by decide))) ∧
      ((Detection.start ⟨"mcg", "patterns"⟩ (.ok sampleConfig)).run
        fun _ _ => .ok Listing.sampleRefs).1 = .ok false ∧
      ((Detection.start ⟨"mcg", "patterns"⟩ (.ok sampleConfig.exchanged)).run
        fun _ _ => .ok Listing.sampleRefs).1 = .ok false := by
  have hc : Configured (.ok sampleConfig : Except StoreError GitConfig) sampleConfig :=
    ⟨rfl, by decide, by decide⟩
  have ho : Finds Listing.sampleRefs "" (.ok (Listing.repeatedId '1' (by decide))) :=
    trackedCommit_eq_iff.mp (by decide)
  have ht : Finds Listing.sampleRefs "main" (.ok (Listing.repeatedId '1' (by decide))) :=
    trackedCommit_eq_iff.mp (by decide)
  obtain ⟨_, _, hexchanged, hequal⟩ := detection_decides ⟨"mcg", "patterns"⟩ (.ok sampleConfig)
    fun _ _ => .ok Listing.sampleRefs
  have hsync := hequal _ _ _ _ hc rfl rfl ho ht
  exact ⟨hc, ho, ht, hsync, hexchanged _ _ rfl hsync⟩

end

end Drift
end GitDrift
