import GitDrift.Git.Listing
import GitDrift.Proofs.Cutting
import Mathlib.Data.List.Basic

/-!
What a listing knows of one name. A symbolic line clears what was known, and the ids of later lines
are added behind it, unless the name is `HEAD`.
-/
namespace GitDrift.Git

open Text

namespace Listing

variable {refs refs' : List Reference} {line s : List Char} {name n raw target : List Char}
  {before after : List (List Char)} {id : ObjectId} {known : List RefTarget} {text : List Char}

/-- The line that says that a name points at another. -/
def symbolicLine (target name : List Char) : List Char := symbolicMark ++ target ++ '\t' :: name

theorem read?_eq_symbolic_iff : Line.read? line = some (.symbolic name target) ↔
    ∃ raw, '\t' ∉ raw ∧ line = symbolicLine raw name ∧ target = trim raw := by
  constructor
  · intro hline
    obtain ⟨⟨left, right⟩, hcut, h⟩ := Option.bind_eq_some_iff.mp hline
    obtain ⟨htab, rfl⟩ := cutAt?_eq_some_iff.mp hcut
    dsimp only at h
    split at h
    · rename_i raw hraw
      obtain rfl := afterStart?_eq_some_iff.mp hraw
      obtain ⟨rfl, rfl⟩ := Line.symbolic.inj (Option.some.inj h)
      exact ⟨raw, fun hmem => htab (List.mem_append_right _ hmem), rfl, rfl⟩
    · obtain ⟨id, _, hid⟩ := Option.map_eq_some_iff.mp h
      split at hid <;> cases hid
  · rintro ⟨raw, htab, rfl, rfl⟩
    have hcut : cutAt? '\t' (symbolicLine raw name) = some (symbolicMark ++ raw, name) :=
      cutAt?_eq_some_iff.mpr ⟨by simp [symbolicMark, htab], rfl⟩
    have hmark : afterStart? symbolicMark (symbolicMark ++ raw) = some raw :=
      afterStart?_eq_some_iff.mpr rfl
    rw [Line.read?, hcut, Option.bind_some]
    simp only [hmark]

/-- What the references of a name point at. -/
def targetsOf (name : List Char) (refs : List Reference) : List RefTarget :=
  (refs.filter (·.name = String.ofList name)).map (·.target)

/-- The id on the line for a name, if it is not its peeled one. -/
def idOn? (name line : List Char) : Option ObjectId :=
  match Line.read? line with
  | some (.object n id) => if n = name then some id else none
  | _ => none

theorem targetsOf_append (name : List Char) (refs refs' : List Reference) :
    targetsOf name (refs ++ refs') = targetsOf name refs ++ targetsOf name refs' := by
  simp [targetsOf]

theorem targetsOf_of_ne {r : Reference} (h : r.name ≠ String.ofList name) :
    targetsOf name [r] = [] := by
  simp [targetsOf, h]

theorem targetsOf_self {r : Reference} (h : r.name = String.ofList name) :
    targetsOf name [r] = [r.target] := by
  simp [targetsOf, h]

/-- Peeling a tag leaves what references point at. -/
theorem targetsOf_peel {tag : String} (h : peel tag id refs = some refs') :
    targetsOf name refs' = targetsOf name refs := by
  induction refs generalizing refs' with
  | nil => cases h
  | cons r refs ih =>
    rw [peel] at h
    split_ifs at h
    · cases h
      by_cases hr : r.name = String.ofList name <;> simp [targetsOf, hr]
    · obtain ⟨rs, hrs, rfl⟩ := Option.map_eq_some_iff.mp h
      have hrest := ih hrs
      by_cases hr : r.name = String.ofList name <;> simpa [targetsOf, hr] using hrest

theorem addLine_cases (h : addLine refs line = .ok refs') :
    ∃ l, Line.read? line = some l ∧ l.addTo? refs = some refs' := by
  unfold addLine at h
  split at h
  · rename_i r hr
    cases h
    exact Option.bind_eq_some_iff.mp hr
  · cases h

/-- After a symbolic line for a name, that line is all that is known of it. -/
theorem targetsOf_symbolic (hl : Line.read? line = some (.symbolic name target))
    (h : addLine refs line = .ok refs') :
    targetsOf name refs' = [.symbolic (String.ofList target)] := by
  obtain ⟨l, hread, hadd⟩ := addLine_cases h
  obtain rfl := Option.some.inj (hl.symm.trans hread)
  cases hadd
  rw [targetsOf_append, targetsOf_self rfl]
  simp [targetsOf, List.filter_filter, Reference.ofSymbolic]

theorem any_isSymbolic (hk : .symbolic (String.ofList target) ∈ targetsOf name refs) :
    refs.any (fun r => r.name = String.ofList name && r.isSymbolic) = true := by
  obtain ⟨r, hr, ht⟩ := List.mem_map.mp hk
  obtain ⟨hr, hn⟩ := List.mem_filter.mp hr
  refine List.any_eq_true.mpr ⟨r, hr, ?_⟩
  simp [of_decide_eq_true hn, Reference.isSymbolic, Reference.symbolic?, ht]

/-- What a later line that is not symbolic adds: the id that it has for the name, unless the name
is `HEAD`. -/
def laterTargets (name : List Char) (ls : List (List Char)) : List RefTarget :=
  if String.ofList name = headName then [] else (ls.filterMap (idOn? name)).map .object

theorem laterTargets_cons (name line : List Char) (ls : List (List Char)) :
    laterTargets name (line :: ls) = laterTargets name [line] ++ laterTargets name ls := by
  unfold laterTargets
  split_ifs
  · rfl
  · rw [← List.map_append, ← List.filterMap_append, List.singleton_append]

theorem laterTargets_of_none (h : idOn? name line = none) : laterTargets name [line] = [] := by
  simp [laterTargets, h]

/-- A later line that is not symbolic leaves what is known of the name and adds to it. -/
theorem targetsOf_addLine (hk : .symbolic (String.ofList target) ∈ targetsOf name refs)
    (hl : ∀ t, Line.read? line ≠ some (.symbolic name t)) (h : addLine refs line = .ok refs') :
    targetsOf name refs' = targetsOf name refs ++ laterTargets name [line] := by
  obtain ⟨l, hread, hadd⟩ := addLine_cases h
  cases l with
  | symbolic n t =>
    -- the line clears another name
    have hne : String.ofList n ≠ String.ofList name := by
      intro hn
      obtain rfl := String.ofList_injective hn
      exact hl t hread
    cases hadd
    have hid : idOn? name line = none := by simp [idOn?, hread]
    have hkeep : targetsOf name (refs.filter (·.name ≠ String.ofList n)) = targetsOf name refs := by
      rw [targetsOf, List.filter_filter]
      congr 2
      funext r
      by_cases hr : r.name = String.ofList name <;> simp [hr, hne.symm]
    rw [targetsOf_append, targetsOf_of_ne hne, laterTargets_of_none hid, hkeep]
  | peeled n commit =>
    have hid : idOn? name line = none := by simp [idOn?, hread]
    rw [targetsOf_peel hadd, laterTargets_of_none hid, List.append_nil]
  | object n id =>
    by_cases hn : n = name
    · subst hn
      have hid : idOn? n line = some id := by simp [idOn?, hread]
      simp only [Line.addTo?, any_isSymbolic hk, and_true] at hadd
      split_ifs at hadd with hhead
      · cases hadd
        simp [laterTargets, hhead]
      · cases hadd
        rw [targetsOf_append, targetsOf_self rfl]
        simp [laterTargets, hhead, hid, Reference.ofId]
    · have hid : idOn? name line = none := by simp [idOn?, hread, hn]
      have hne : String.ofList n ≠ String.ofList name := fun he => hn (String.ofList_injective he)
      rw [laterTargets_of_none hid, List.append_nil]
      simp only [Line.addTo?] at hadd
      split_ifs at hadd
      · cases hadd
        rfl
      · cases hadd
        rw [targetsOf_append, targetsOf_of_ne hne, List.append_nil]

theorem bind_eq_ok {α β : Type} {x : Except GitError α} {f : α → Except GitError β} {b : β}
    (h : x >>= f = .ok b) : ∃ a, x = .ok a ∧ f a = .ok b := by
  cases x with
  | error e => cases h
  | ok a => exact ⟨a, rfl, h⟩

theorem targetsOf_foldlM (hk : .symbolic (String.ofList target) ∈ targetsOf name refs)
    (hl : ∀ line ∈ after, ∀ t, Line.read? line ≠ some (.symbolic name t))
    (h : after.foldlM addLine refs = .ok refs') :
    targetsOf name refs' = targetsOf name refs ++ laterTargets name after := by
  induction after generalizing refs with
  | nil =>
    cases h
    simp [laterTargets]
  | cons line after ih =>
    rw [List.foldlM_cons] at h
    obtain ⟨mid, hadd, h⟩ := bind_eq_ok h
    have hmid := targetsOf_addLine hk (hl line List.mem_cons_self) hadd
    have hkmid : .symbolic (String.ofList target) ∈ targetsOf name mid := by
      rw [hmid]
      exact List.mem_append_left _ hk
    rw [ih hkmid (fun l hm => hl l (List.mem_cons_of_mem line hm)) h, hmid,
      laterTargets_cons name line after, List.append_assoc]

/-- Of a name with symbolic lines a listing knows first what the last of them says. It is all that
is known, in one reference, exactly if the name is `HEAD` or no id for the name comes later: the
lines before do not matter. -/
theorem symbolic_line_wins_iff (h : parse text = .ok refs)
    (ht : contentLines text = before ++ symbolicLine raw name :: after)
    (hraw : '\t' ∉ raw)
    (hlast : ∀ line ∈ after, ∀ t, Line.read? line ≠ some (.symbolic name t)) :
    targetsOf name refs = .symbolic (String.ofList (trim raw)) :: laterTargets name after ∧
    ((∃ r, refs.filter (·.name = String.ofList name) = [r] ∧
        r.target = .symbolic (String.ofList (trim raw))) ↔
      String.ofList name = headName ∨ ∀ line ∈ after, idOn? name line = none) := by
  have htargets :
      targetsOf name refs = .symbolic (String.ofList (trim raw)) :: laterTargets name after := by
    rw [parse, ht, List.foldlM_append] at h
    obtain ⟨earlier, _, h⟩ := bind_eq_ok h
    rw [List.foldlM_cons] at h
    obtain ⟨mid, hline, h⟩ := bind_eq_ok h
    have hmid := targetsOf_symbolic (read?_eq_symbolic_iff.mpr ⟨raw, hraw, rfl, rfl⟩) hline
    rw [targetsOf_foldlM (by rw [hmid]; exact List.mem_cons_self) hlast h, hmid,
      List.singleton_append]
  refine ⟨htargets, ?_⟩
  have hlater : laterTargets name after = [] ↔
      String.ofList name = headName ∨ ∀ line ∈ after, idOn? name line = none := by
    unfold laterTargets
    split_ifs with hhead <;> simp [hhead, List.filterMap_eq_nil_iff]
  rw [← hlater]
  constructor
  · rintro ⟨r, hr, _⟩
    have hlen := congrArg List.length htargets
    simpa [targetsOf, hr] using hlen
  · intro hnil
    rw [hnil, targetsOf, List.map_eq_cons_iff] at htargets
    obtain ⟨r, l, hr, hrt, hl⟩ := htargets
    rw [List.map_eq_nil_iff] at hl
    exact ⟨r, by rw [hr, hl], hrt⟩

/-- The line for the id whose digits are all the same. -/
def idLine (digit : Char) (name : List Char) : List Char := List.replicate 40 digit ++ '\t' :: name

/-- Ids for `HEAD` come before and after its symbolic line. -/
def headListing : List Char :=
  idLine '1' headName.toList ++ '\n' :: symbolicLine "refs/heads/main".toList headName.toList ++
    '\n' :: idLine '2' headName.toList

theorem headListing_symbolic : ∃ refs, parse headListing = .ok refs ∧
    ∃ r, refs.filter (·.name = headName) = [r] ∧ r.target = .symbolic "refs/heads/main" := by
  obtain ⟨refs, hrefs⟩ : ∃ refs, parse headListing = .ok refs := by
    cases h : parse headListing with
    | ok refs => exact ⟨refs, rfl⟩
    | error e =>
      have hok : (parse headListing).toBool = true := by cbv
      rw [h] at hok
      cases hok
  have ht : contentLines headListing = [idLine '1' headName.toList] ++
      symbolicLine "refs/heads/main".toList headName.toList :: [idLine '2' headName.toList] := by
    cbv
  have hlast : ∀ line ∈ [idLine '2' headName.toList], ∀ t,
      Line.read? line ≠ some (.symbolic headName.toList t) := by
    intro line hl t hread
    obtain rfl := List.mem_singleton.mp hl
    obtain ⟨raw, _, he, _⟩ := read?_eq_symbolic_iff.mp hread
    cases he
  have htrim : String.ofList (trim "refs/heads/main".toList) = "refs/heads/main" := by decide
  have hwins := (symbolic_line_wins_iff hrefs ht (by decide) hlast).2.mpr (Or.inl (by decide))
  rw [htrim, String.ofList_toList] at hwins
  exact ⟨refs, hrefs, hwins⟩

def remoteHead : List Char := "refs/remotes/origin/HEAD".toList

def remoteHeadListing : List Char :=
  symbolicLine "refs/remotes/origin/main".toList remoteHead ++ '\n' :: idLine '1' remoteHead

/-- The id line of another symbolic reference is not left out. -/
theorem remoteHead_listed_twice : ∃ refs, parse remoteHeadListing = .ok refs ∧
    symbolicLine "refs/remotes/origin/main".toList remoteHead ∈ contentLines remoteHeadListing ∧
    ¬ ∃ r, refs.filter (·.name = String.ofList remoteHead) = [r] := by
  have hcount : (parse remoteHeadListing).toOption.map (fun refs =>
      (refs.filter (·.name = String.ofList remoteHead)).length) = some 2 := by cbv
  have hlines : contentLines remoteHeadListing =
      [symbolicLine "refs/remotes/origin/main".toList remoteHead, idLine '1' remoteHead] := by cbv
  cases h : parse remoteHeadListing with
  | error e =>
    rw [h] at hcount
    cases hcount
  | ok refs =>
    rw [h] at hcount
    refine ⟨refs, rfl, by simp [hlines], ?_⟩
    rintro ⟨r, hr⟩
    simp [Except.toOption, hr] at hcount

end Listing
end GitDrift.Git
