import GitDrift.Proofs.Cutting
import GitDrift.Url

/-!
URLs that are read as they are written. Where the segments of a path are made of characters that
have no other meaning in a URL, nothing is escaped and nothing taken back: the path is kept. Main
statement: `parse_webMark`.
-/
namespace GitDrift.Url

open Text

/-- Letters, digits and the three marks that have no meaning of their own in a path. -/
def plainChars : List Char :=
  "ABCDEFGHIJKLMNOPQRSTUVWXYZabcdefghijklmnopqrstuvwxyz0123456789_.-".toList

/-- A segment that is read as it is written. -/
structure Plain (segment : List Char) : Prop where
  chars : segment ⊆ plainChars
  ne_dot : segment ≠ ['.']
  ne_dots : segment ≠ ['.', '.']

theorem plain_nil : Plain [] := ⟨List.nil_subset plainChars, by simp, by simp⟩

variable {p : ReadPath} {s segment : List Char} {segments : List (List Char)}

/-- A character that stands for itself in front of a query, and ends no part of a URL but a
segment. -/
structure Ordinary (c : Char) : Prop where
  not_passedOver : isPassedOver c = false
  visible : 0x20 < c.toNat
  unescaped : isUnsafeInPath c = false
  ne_backslash : c ≠ '\\'
  ne_question : c ≠ '?'
  ne_hash : c ≠ '#'
  ne_colon : c ≠ ':'

theorem ordinary {c : Char} (h : c ∈ '/' :: plainChars) : Ordinary c := by
  have hall : ('/' :: plainChars).all (fun c => decide (isPassedOver c = false ∧ 0x20 < c.toNat ∧
      isUnsafeInPath c = false ∧ c ≠ '\\' ∧ c ≠ '?' ∧ c ≠ '#' ∧ c ≠ ':')) = true := by
    decide +kernel
  obtain ⟨h₁, h₂, h₃, h₄, h₅, h₆, h₇⟩ := of_decide_eq_true (List.all_eq_true.mp hall c h)
  exact ⟨h₁, h₂, h₃, h₄, h₅, h₆, h₇⟩

theorem clean_eq_self (h : ∀ c ∈ s, isPassedOver c = false) : clean s = s :=
  List.filter_eq_self.mpr fun c hc => by rw [h c hc]; rfl

theorem trimmed_eq_self (h : ∀ c ∈ s, 0x20 < c.toNat) : trimmed s = s := by
  have hinner (c : Char) (hc : c ∈ s) : decide (c.toNat ≤ 0x20) = false :=
    decide_eq_false (Nat.not_le.mpr (h c hc))
  rw [trimmed, dropWhile_eq_self fun c hc => hinner c (List.mem_of_mem_head? hc)]
  exact dropEndWhile_eq_self fun c hc => hinner c (List.mem_of_getLast? hc)

theorem percentEncode_eq_self {p : Char → Bool} (h : ∀ c ∈ s, p c = false) :
    percentEncode p s = s := by
  induction s with
  | nil => rfl
  | cons c s ih =>
    have hrest := ih fun d hd => h d (List.mem_cons_of_mem c hd)
    rw [percentEncode, List.flatMap_cons, if_neg (by simp [h c List.mem_cons_self])]
    exact congrArg (c :: ·) hrest

/-- Without a percent sign only a dot is a dot. -/
theorem afterDot?_eq_some_iff {rest : List Char} (h : '%' ∉ s) :
    afterDot? s = some rest ↔ s = '.' :: rest := by
  unfold afterDot?
  split
  · simp
  · simp at h
  · next hdot _ => simpa using fun heq => hdot rest heq

namespace Plain

theorem slash_notMem (h : Plain segment) : '/' ∉ segment :=
  fun hm => absurd (h.chars hm) (by decide +kernel)

theorem percent_notMem (h : Plain segment) : '%' ∉ segment :=
  fun hm => absurd (h.chars hm) (by decide +kernel)

theorem isSingleDot_eq_false (h : Plain segment) : isSingleDot segment = false := by
  rw [isSingleDot, decide_eq_false_iff_not, afterDot?_eq_some_iff h.percent_notMem]
  exact h.ne_dot

theorem isDoubleDot_eq_false (h : Plain segment) : isDoubleDot segment = false := by
  rw [isDoubleDot, decide_eq_false_iff_not, Option.bind_eq_some_iff]
  rintro ⟨rest, hrest, hend⟩
  rw [afterDot?_eq_some_iff h.percent_notMem] at hrest
  have hpercent : '%' ∉ rest := fun hm => h.percent_notMem (hrest ▸ List.mem_cons_of_mem _ hm)
  rw [afterDot?_eq_some_iff hpercent] at hend
  exact h.ne_dots (hend ▸ hrest)

theorem ordinary (h : Plain segment) : ∀ c ∈ segment, Ordinary c :=
  fun _ hc => Url.ordinary (List.mem_cons_of_mem '/' (h.chars hc))

/-- Nothing in a plain segment is passed over or escaped. -/
theorem percentEncode_filter (h : Plain segment) :
    percentEncode isUnsafeInPath (segment.filter fun c => !isPassedOver c) = segment := by
  rw [← clean, clean_eq_self fun c hc => (h.ordinary c hc).not_passedOver,
    percentEncode_eq_self fun c hc => (h.ordinary c hc).unescaped]

theorem addSegment (h : Plain segment) (p : ReadPath) (last : Bool) :
    p.addSegment .special last segment = { p with segments := p.segments ++ [segment] } := by
  have happend : p.append .special segment = { p with segments := p.segments ++ [segment] } := by
    unfold ReadPath.append
    split <;> rfl
  unfold ReadPath.addSegment
  simp only [h.percentEncode_filter, h.isDoubleDot_eq_false, h.isSingleDot_eq_false, happend]
  rfl

end Plain

/-- Plain segments are kept, one by one. -/
theorem addSegments_plain (h : ∀ s ∈ segments, Plain s) (p : ReadPath) :
    ReadPath.addSegments .special p segments = { p with segments := p.segments ++ segments } := by
  fun_induction ReadPath.addSegments .special p segments with
  | case1 p => rw [List.append_nil]
  | case2 p s => rw [(h s List.mem_cons_self).addSegment]
  | case3 p s rest _ ih =>
    rw [ih fun t ht => h t (List.mem_cons_of_mem s ht),
      (h s List.mem_cons_self).addSegment, List.append_assoc, List.singleton_append]

/-- A path that is read as it is written: its segments between slashes are plain. -/
def PlainText (s : List Char) : Prop := ∀ segment ∈ pieces '/' s, Plain segment

namespace PlainText

theorem ordinary (h : PlainText s) : ∀ c ∈ s, Ordinary c := by
  intro c hc
  have hmem : c ∈ (pieces '/' s).flatMap ('/' :: ·) := by
    rw [flatMap_pieces]
    exact List.mem_cons_of_mem _ hc
  obtain ⟨segment, hsegment, hc⟩ := List.mem_flatMap.mp hmem
  rcases List.mem_cons.mp hc with rfl | hc
  · exact Url.ordinary List.mem_cons_self
  · exact (h segment hsegment).ordinary c hc

theorem beforeQuery_eq (h : PlainText s) : beforeQuery s = s := by
  rw [beforeQuery, List.takeWhile_eq_self_iff]
  intro c hc
  simp [(h.ordinary c hc).ne_question, (h.ordinary c hc).ne_hash]

theorem pathPieces_eq (h : PlainText s) : pathPieces .special s = pieces '/' s := by
  have hmap : s.map (fun c => if c = '\\' then '/' else c) = s := by
    rw [List.map_congr_left fun c hc => if_neg (h.ordinary c hc).ne_backslash, List.map_id']
  rw [pathPieces, hmap, ite_self]

/-- A plain path is kept as it is. -/
theorem text_readPath (h : PlainText s) : (readPath .special s).text .special = '/' :: s := by
  rw [readPath, h.beforeQuery_eq, h.pathPieces_eq, addSegments_plain h]
  exact flatMap_pieces '/' s

end PlainText

/-- A domain in ASCII form that is no address is its own host. -/
theorem domainHost_eq_self {host : List Char} (hbracket : host.head? ≠ some '[') (hne : host ≠ [])
    (hascii : (decode? (percentDecode host)).bind Domain.toAscii? = some host)
    (hnumber : endsInNumber host = false) : domainHost host = .ok host := by
  unfold domainHost
  split
  · simp at hbracket
  · rw [hascii]
    cases host with
    | nil => exact absurd rfl hne
    | cons c s => simp only [hnumber, Bool.false_eq_true, if_false]

/-- The host of the addresses that are read here, and what they start with. -/
def forge : List Char := "github.com".toList
def webMark : List Char := "https://github.com/".toList

theorem domainHost_forge : domainHost forge = .ok forge :=
  domainHost_eq_self (by decide) (by decide) (by decide +kernel) (by decide +kernel)

/-- User and port are not given, and the path starts behind the host. -/
theorem afterSlashes_forge (scheme s : List Char) :
    afterSlashes scheme .special (forge ++ '/' :: s) =
      .ok ⟨scheme, some forge, (readPath .special s).text .special⟩ := by
  have htake : (forge ++ '/' :: s).takeWhile (fun c => !endsAuthority .special c) = forge := rfl
  have hdrop : (forge ++ '/' :: s).dropWhile (fun c => !endsAuthority .special c) = '/' :: s := rfl
  have hat : cutAtLastAt? forge = none := by decide
  have hspan : spanHost false forge = (forge, []) := by decide
  have hhost : host? .special forge = .ok (some forge) := by
    rw [host?, if_neg (by decide), if_pos rfl, domainHost_forge]
    rfl
  simp only [afterSlashes, htake, hdrop, hat, hspan, hhost]
  rfl

/-- An address of the host with a plain path is read as it is written. -/
theorem parse_webMark (h : PlainText s) :
    parse (webMark ++ s) = .ok ⟨"https".toList, some forge, '/' :: s⟩ := by
  have hmark : webMark.all (fun c => decide (isPassedOver c = false ∧ 0x20 < c.toNat)) = true := by
    decide
  have hshown : ∀ c ∈ webMark ++ s, isPassedOver c = false ∧ 0x20 < c.toNat := by
    intro c hc
    rcases List.mem_append.mp hc with hc | hc
    · exact of_decide_eq_true (List.all_eq_true.mp hmark c hc)
    · exact ⟨(h.ordinary c hc).not_passedOver, (h.ordinary c hc).visible⟩
  have hclean : clean (trimmed (webMark ++ s)) = webMark ++ s := by
    rw [trimmed_eq_self fun c hc => (hshown c hc).2, clean_eq_self fun c hc => (hshown c hc).1]
  have hscheme : scheme? (webMark ++ s) = some ("https".toList, "//github.com/".toList ++ s) := rfl
  have hkind : kindOf "https".toList = .special := by decide +kernel
  have hslashes : ("//github.com/".toList ++ s).dropWhile isSlash = forge ++ '/' :: s := rfl
  simp only [parse, hclean, hscheme, hkind, hslashes]
  rw [afterSlashes_forge, h.text_readPath]

end GitDrift.Url
