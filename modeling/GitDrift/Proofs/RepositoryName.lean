import GitDrift.Git.RepoUrl
import GitDrift.Proofs.PlainUrl
import Mathlib.Data.List.Basic

/-!
The name of a repository whose path is plain, at an address of either form. Slashes at the end of
the path do not count, and the suffix `.git` is no part of the name. The two forms part where the
suffix is all that the last segment holds: the ssh form leaves nothing of it, a URL keeps it.
-/
namespace GitDrift.Git.RepoUrl

open Text Url

/-- A path of plain segments. A segment in front of the last may be empty, so that two slashes
follow each other. -/
structure PlainPath where
  above : List (List Char)
  last : List Char
  plain_above : ∀ segment ∈ above, Plain segment
  plain_last : Plain last
  last_ne_nil : last ≠ []

namespace PlainPath

/-- The segments in front of the last, each with its slash. -/
def front (p : PlainPath) : List Char := p.above.flatMap (· ++ ['/'])

/-- The path with slashes at its end. -/
def text (p : PlainPath) (slashes : Nat) : List Char :=
  p.front ++ p.last ++ List.replicate slashes '/'

def sshAddress (p : PlainPath) (slashes : Nat) : String :=
  "git@github.com:" ++ String.ofList (p.text slashes)

def webAddress (p : PlainPath) (slashes : Nat) : String :=
  "https://github.com/" ++ String.ofList (p.text slashes)

end PlainPath

/-- A segment without the suffix, if it ends in it. -/
def stem (segment : List Char) : List Char := (beforeEnd? gitSuffix segment).getD segment

variable {segment front : List Char}

theorem stem_append_gitSuffix (s : List Char) : stem (s ++ gitSuffix) = s := by
  rw [stem, beforeEnd?_eq_some_iff.mpr rfl, Option.getD_some]

theorem stem_eq_self (h : ¬ gitSuffix <:+ segment) : stem segment = segment := by
  rw [stem, beforeEnd?_eq_none h, Option.getD_none]

theorem stem_eq_nil_iff (h : segment ≠ []) : stem segment = [] ↔ segment = gitSuffix := by
  by_cases hs : gitSuffix <:+ segment
  · obtain ⟨s, rfl⟩ := hs
    rw [stem_append_gitSuffix, List.append_left_eq_self]
  · rw [stem_eq_self hs]
    exact ⟨fun hnil => absurd hnil h, fun heq => absurd ⟨[], heq.symm⟩ hs⟩

theorem mem_of_mem_stem {c : Char} (h : c ∈ stem segment) : c ∈ segment := by
  by_cases hs : gitSuffix <:+ segment
  · obtain ⟨s, rfl⟩ := hs
    rw [stem_append_gitSuffix] at h
    exact List.mem_append_left _ h
  · rwa [stem_eq_self hs] at h

theorem toList_append_ofList (mark : String) (s : List Char) :
    (mark ++ String.ofList s).toList = mark.toList ++ s := by
  rw [String.toList_append, String.toList_ofList]

/-- The suffix holds no slash, so a path ends in it only where its last segment does. -/
theorem gitSuffix_suffix_append_iff (hfront : ∀ c ∈ front.getLast?, c = '/') :
    gitSuffix <:+ front ++ segment ↔ gitSuffix <:+ segment := by
  constructor
  · rintro ⟨pre, h⟩
    obtain ⟨cut, hfrontCut, hcut⟩ | ⟨cut, hpre, hcut⟩ := List.append_eq_append_iff.mp h
    · -- The cut is inside the suffix, behind the last slash of the front.
      rcases List.eq_nil_or_concat cut with rfl | ⟨s, c, rfl⟩
      · exact ⟨[], hcut⟩
      · have hc : c = '/' := hfront c (by simp [hfrontCut])
        have hmem : '/' ∈ gitSuffix := by simp [hcut, hc]
        exact absurd hmem (by decide)
    · exact ⟨cut, hcut.symm⟩
  · rintro ⟨s, rfl⟩
    exact ⟨front ++ s, List.append_assoc front s gitSuffix⟩

variable (p : PlainPath) (n : Nat)

namespace PlainPath

theorem front_getLast? : ∀ c ∈ p.front.getLast?, c = '/' := by
  intro c hc
  rcases List.eq_nil_or_concat p.above with hnil | ⟨above, s, habove⟩
  · simp [front, hnil] at hc
  · simpa [front, habove, eq_comm] using hc

/-- Slashes at the end of the path are dropped, and no more. -/
theorem dropSlashes_text : dropSlashes (p.text n) = p.front ++ p.last := by
  rw [dropSlashes, text, dropEndWhile_append_replicate (by decide)]
  refine dropEndWhile_eq_self fun c hc => decide_eq_false fun hslash => p.plain_last.slash_notMem ?_
  rw [List.getLast?_append_of_ne_nil _ p.last_ne_nil] at hc
  exact hslash ▸ List.mem_of_getLast? hc

theorem slash_notMem_stem : '/' ∉ stem p.last :=
  fun h => p.plain_last.slash_notMem (mem_of_mem_stem h)

theorem nameOfSshPath_text : nameOfSshPath (p.text n) = stem p.last := by
  have hpath : (beforeEnd? gitSuffix (p.front ++ p.last)).getD (p.front ++ p.last) =
      p.front ++ stem p.last := by
    by_cases hs : gitSuffix <:+ p.last
    · obtain ⟨s, hs⟩ := hs
      rw [← hs, stem_append_gitSuffix, ← List.append_assoc, beforeEnd?_eq_some_iff.mpr rfl,
        Option.getD_some]
    · have hfront := mt (gitSuffix_suffix_append_iff p.front_getLast?).mp hs
      rw [beforeEnd?_eq_none hfront, stem_eq_self hs, Option.getD_none]
  rw [nameOfSshPath, dropSlashes_text, hpath]
  exact afterLast_append p.front_getLast? p.slash_notMem_stem

theorem nameOfUrlPath_text :
    nameOfUrlPath (p.text n) = if stem p.last = [] then p.last else stem p.last := by
  have hname : afterLast '/' (dropSlashes (p.text n)) = p.last := by
    rw [dropSlashes_text, afterLast_append p.front_getLast? p.plain_last.slash_notMem]
  rw [nameOfUrlPath, hname, stem]
  rcases beforeEnd? gitSuffix p.last with - | - | - <;> simp [p.last_ne_nil]

/-- The path behind a slash, which is how a URL holds it. -/
def rooted : PlainPath where
  above := [] :: p.above
  last := p.last
  plain_above := by
    intro segment h
    rcases List.mem_cons.mp h with rfl | h
    · exact plain_nil
    · exact p.plain_above segment h
  plain_last := p.plain_last
  last_ne_nil := p.last_ne_nil

theorem text_rooted : p.rooted.text n = '/' :: p.text n := rfl

theorem pieces_text : pieces '/' (p.text n) = p.above ++ p.last :: List.replicate n [] := by
  have habove : ∀ segment ∈ p.above, '/' ∉ segment :=
    fun segment hs => (p.plain_above segment hs).slash_notMem
  rw [text, front, List.append_assoc, pieces_flatMap_append habove,
    pieces_append_replicate p.plain_last.slash_notMem]

theorem plainText : PlainText (p.text n) := by
  rw [PlainText, pieces_text]
  intro segment h
  rcases List.mem_append.mp h with h | h
  · exact p.plain_above segment h
  · rcases List.mem_cons.mp h with rfl | h
    · exact p.plain_last
    · exact (List.eq_of_mem_replicate h) ▸ plain_nil

theorem sshAddress_toList :
    (p.sshAddress n).toList = "git@github.com".toList ++ ':' :: p.text n := by
  have hmark : "git@github.com:".toList = "git@github.com".toList ++ [':'] := by decide +kernel
  have happend := toList_append_ofList "git@github.com:" (p.text n)
  rw [hmark, List.append_assoc] at happend
  exact happend

theorem webAddress_toList : (p.webAddress n).toList = webMark ++ p.text n :=
  toList_append_ofList "https://github.com/" (p.text n)

theorem repositoryName_sshAddress :
    repositoryName (p.sshAddress n) = .ok (String.ofList (stem p.last)) := by
  have hcolon : ':' ∉ p.text n := fun h => ((p.plainText n).ordinary _ h).ne_colon rfl
  have hpath : sshPath? (p.sshAddress n).toList = some (p.text n) := by
    rw [sshPath?, sshAddress_toList, pieces_append_cons (by decide), pieces_of_not_mem hcolon]
  have hmark : sshMark.isPrefixOf (p.sshAddress n).toList = true := by
    rw [sshAddress_toList]
    rfl
  rw [repositoryName, if_pos hmark, hpath]
  exact congrArg (fun name => Except.ok (String.ofList name)) (p.nameOfSshPath_text n)

theorem repositoryName_webAddress : repositoryName (p.webAddress n) =
    .ok (String.ofList (if stem p.last = [] then p.last else stem p.last)) := by
  have hmark : sshMark.isPrefixOf (p.webAddress n).toList = false := by
    rw [webAddress_toList]
    rfl
  have hname : nameOfUrlPath ('/' :: p.text n) =
      if stem p.last = [] then p.last else stem p.last := by
    rw [← text_rooted]
    exact p.rooted.nameOfUrlPath_text n
  rw [repositoryName, if_neg (by simp [hmark]), parseAbsolute, webAddress_toList,
    parse_webMark (p.plainText n), ← hname, Except.mapError, Except.map]

end PlainPath

/-- Both forms give a name, the same for any number of slashes at the end, and a URL's name is never
empty. The two names are one, the last segment without its suffix, unless that segment is nothing
but the suffix. -/
theorem repositoryName_same_iff : ∃ ssh web : String,
    (∀ n, repositoryName (p.sshAddress n) = .ok ssh ∧ repositoryName (p.webAddress n) = .ok web) ∧
      '/' ∉ ssh.toList ∧ '/' ∉ web.toList ∧ web ≠ "" ∧
      (ssh = web ↔ p.last ≠ gitSuffix) ∧ (ssh = "" ↔ p.last = gitSuffix) ∧
      (p.last ≠ gitSuffix → p.last = web.toList ++ gitSuffix ∨
        ¬ gitSuffix <:+ p.last ∧ p.last = web.toList) := by
  have hssh (n : Nat) := p.repositoryName_sshAddress n
  have hweb (n : Nat) := p.repositoryName_webAddress n
  by_cases hlast : p.last = gitSuffix
  · have hstem : stem p.last = [] := (stem_eq_nil_iff p.last_ne_nil).mpr hlast
    simp only [hstem, if_true] at hssh hweb
    refine ⟨_, _, fun n => ⟨hssh n, hweb n⟩, by simp, by simpa using p.plain_last.slash_notMem, ?_⟩
    rw [hlast]
    decide
  · have hstem : stem p.last ≠ [] := mt (stem_eq_nil_iff p.last_ne_nil).mp hlast
    simp only [hstem, if_false] at hweb
    have hslash : '/' ∉ (String.ofList (stem p.last)).toList := by simpa using p.slash_notMem_stem
    have hne : String.ofList (stem p.last) ≠ "" := by simpa using hstem
    refine ⟨_, _, fun n => ⟨hssh n, hweb n⟩, hslash, hslash, hne, by simp [hlast],
      by simp [hlast, hne], fun _ => ?_⟩
    rw [String.toList_ofList]
    by_cases hs : gitSuffix <:+ p.last
    · obtain ⟨s, hs⟩ := hs
      rw [← hs, stem_append_gitSuffix]
      exact .inl rfl
    · exact .inr ⟨hs, (stem_eq_self hs).symm⟩

/-- A repository below a group, with the suffix that is no part of its name. -/
def common : PlainPath where
  above := ["org".toList]
  last := "common.git".toList
  plain_above := by simpa using (⟨by decide, by decide, by decide⟩ : Plain "org".toList)
  plain_last := ⟨by decide, by decide, by decide⟩
  last_ne_nil := by decide

theorem common_named_once : ∀ n, repositoryName (common.sshAddress n) = .ok "common" ∧
    repositoryName (common.webAddress n) = .ok "common" := by
  obtain ⟨ssh, web, hnames, -, -, -, hsame, -, hstem⟩ := repositoryName_same_iff common
  have hlast : common.last ≠ gitSuffix := by decide
  have hsuffix : common.last = "common".toList ++ gitSuffix := by decide
  have hweb : web = "common" := by
    rcases hstem hlast with h | ⟨h, -⟩
    · exact String.toList_injective (List.append_cancel_right (h.symm.trans hsuffix))
    · exact absurd ⟨_, hsuffix.symm⟩ h
  rwa [hsame.mpr hlast, hweb] at hnames

/-- A repository that is named for nothing but the suffix. -/
def bareSuffix : PlainPath where
  above := ["org".toList]
  last := gitSuffix
  plain_above := common.plain_above
  plain_last := ⟨by decide, by decide, by decide⟩
  last_ne_nil := by decide

theorem bareSuffix_named_twice :
    repositoryName "git@github.com:org/.git" = .ok "" ∧
      repositoryName "https://github.com/org/.git" = .ok ".git" :=
  ⟨bareSuffix.repositoryName_sshAddress 0, bareSuffix.repositoryName_webAddress 0⟩

end GitDrift.Git.RepoUrl
