import GitDrift.Proofs.Listing
import Mathlib.Data.List.TakeWhile

/-!
Listings that are written and read back. References that can be listed are what their lines are read
as, in their order, whichever way the lines end.
-/
namespace GitDrift

namespace Text

variable {s line text : List Char} {c : Char}

theorem trimEnd_append_singleton (s : List Char) (c : Char) :
    trimEnd (s ++ [c]) = if isBlank c then trimEnd s else s ++ [c] :=
  dropEndWhile_append_singleton isBlank s c

/-- A text whose last character is not blank has no trailing blanks. -/
theorem trimEnd_eq_self (h : ∀ c ∈ s.getLast?, isBlank c = false) : trimEnd s = s :=
  dropEndWhile_eq_self h

theorem trim_eq_self (hhead : ∀ c ∈ s.head?, isBlank c = false)
    (hlast : ∀ c ∈ s.getLast?, isBlank c = false) : trim s = s := by
  rw [trim, dropWhile_eq_self hhead, trimEnd_eq_self hlast]

theorem mem_dropWhile {p : Char → Bool} (hc : c ∈ s) (hp : p c = false) : c ∈ s.dropWhile p := by
  rw [← List.takeWhile_append_dropWhile (p := p) (l := s), List.mem_append] at hc
  refine hc.resolve_left fun h => ?_
  rw [List.mem_takeWhile_imp h] at hp
  cases hp

/-- Trimming takes nothing away but blanks. -/
theorem mem_trim (hc : c ∈ s) (hb : isBlank c = false) : c ∈ trim s := by
  have hdrop := List.mem_reverse.mpr (mem_dropWhile hc hb)
  exact List.mem_reverse.mpr (mem_dropWhile hdrop hb)

/-- A return at the end of a line is one more trailing blank. -/
theorem trimEnd_dropReturn (line : List Char) : trimEnd (dropReturn line) = trimEnd line := by
  unfold dropReturn
  cases h : beforeEnd? ['\r'] line with
  | none => rfl
  | some pre =>
    have hblank : isBlank '\r' = true := by decide
    rw [beforeEnd?_eq_some_iff.mp h, trimEnd_append_singleton, hblank]
    rfl

theorem linesFrom_line (h : '\n' ∉ line) (read text : List Char) :
    linesFrom read (line ++ text) = linesFrom (line.reverse ++ read) text := by
  induction line generalizing read with
  | nil => rfl
  | cons c line ih =>
    obtain ⟨hc, hline⟩ : '\n' ≠ c ∧ '\n' ∉ line := by simpa using h
    rw [List.cons_append, linesFrom, if_neg (Ne.symm hc), ih hline]
    simp

theorem linesFrom_append (h : '\n' ∉ line) (read text : List Char) :
    linesFrom read (line ++ '\n' :: text) = dropReturn (read.reverse ++ line) :: lines text := by
  rw [linesFrom_line h, linesFrom, if_pos rfl]
  simp [lines]

end Text

namespace Git.Listing

open Text

/-- A text that is made of lines, each ended by a line feed, with a return before it or without. -/
inductive Ended : List (List Char) → List Char → Prop
  | nil : Ended [] []
  | feed {ls : List (List Char)} {text : List Char} (line : List Char) (h : Ended ls text) :
      Ended (line :: ls) (line ++ '\n' :: text)
  | returnFeed {ls : List (List Char)} {text : List Char} (line : List Char) (h : Ended ls text) :
      Ended (line :: ls) (line ++ '\r' :: '\n' :: text)

variable {refs known : List Reference} {r : Reference} {l : Line}
  {line text name hash left target : List Char} {ls : List (List Char)} {id commit : ObjectId}

theorem contentLines_append (h : '\n' ∉ line) (text : List Char) :
    contentLines (line ++ '\n' :: text) = [trimEnd line].filter (· ≠ []) ++ contentLines text := by
  rw [contentLines, lines, linesFrom_append h, List.map_cons, trimEnd_dropReturn, List.reverse_nil,
    List.nil_append, ← List.singleton_append, List.filter_append, contentLines]

/-- What a listing says does not depend on how its lines end. -/
theorem contentLines_of_ended (h : Ended ls text) (hl : ∀ line ∈ ls, '\n' ∉ line) :
    contentLines text = (ls.map trimEnd).filter (· ≠ []) := by
  induction h with
  | nil => rfl
  | feed line h ih =>
    rw [contentLines_append (hl line List.mem_cons_self),
      ih fun l hmem => hl l (List.mem_cons_of_mem line hmem), List.map_cons,
      ← List.filter_append, List.singleton_append]
  | @returnFeed ls text line h ih =>
    have hline : '\n' ∉ line ++ ['\r'] := by simpa using hl line List.mem_cons_self
    have hblank : isBlank '\r' = true := by decide
    have happ := contentLines_append hline text
    rw [List.append_assoc, List.singleton_append, trimEnd_append_singleton, hblank, if_pos rfl,
      ih fun l hmem => hl l (List.mem_cons_of_mem line hmem)] at happ
    rw [happ, List.map_cons, ← List.filter_append, List.singleton_append]

/-- A character that an id is read from is neither blank nor a colon. -/
theorem hash_char {c : Char} (h : IsIdDigit (lowerHex c)) : isBlank c = false ∧ c ≠ ':' := by
  have hrange : (48 ≤ c.toNat ∧ c.toNat ≤ 57) ∨ (65 ≤ c.toNat ∧ c.toNat ≤ 70) ∨
      (97 ≤ c.toNat ∧ c.toNat ≤ 102) := by
    unfold lowerHex at h
    split_ifs at h with hc
    · exact Or.inr (Or.inl hc)
    · rcases h with h | h
      · exact Or.inl h
      · exact Or.inr (Or.inr h)
  constructor
  · simp only [isBlank, Bool.or_eq_false_iff, Bool.and_eq_false_iff, beq_eq_false_iff_ne,
      decide_eq_false_iff_not]
    omega
  · rintro rfl
    revert hrange
    decide

theorem hash_chars (h : ObjectId.parse? hash = some id) :
    ∀ c ∈ hash, isBlank c = false ∧ c ≠ ':' := by
  intro c hc
  have hdigit : lowerHex c ∈ id.digits := by
    rw [← ObjectId.parse?_eq_some_iff.mp h]
    exact List.mem_map_of_mem hc
  exact hash_char (id.digits_ok _ hdigit)

theorem lowerHex_of_digit {c : Char} (h : IsIdDigit c) : lowerHex c = c := by
  have hrange : c.toNat ≤ 57 ∨ 97 ≤ c.toNat := by
    rcases h with h | h
    · exact Or.inl h.2
    · exact Or.inr h.1
  unfold lowerHex
  rw [if_neg]
  rintro ⟨hlow, hhigh⟩
  have hlow : 65 ≤ c.toNat := hlow
  have hhigh : c.toNat ≤ 70 := hhigh
  omega

theorem parse?_digits (id : ObjectId) : ObjectId.parse? id.digits = some id := by
  rw [ObjectId.parse?_eq_some_iff]
  exact (List.map_congr_left fun c hc => lowerHex_of_digit (id.digits_ok c hc)).trans
    (List.map_id' _)

/-- The line that gives a name its id. -/
def hashLine (hash name : List Char) : List Char := hash ++ '\t' :: name

/-- What a line says that gives a name an id. -/
def Line.ofId (name : List Char) (id : ObjectId) : Line :=
  match beforeEnd? peeledMark name with
  | some tag => .peeled tag id
  | none => .object name id

theorem Line.ofId_peeled (tag : List Char) (id : ObjectId) :
    Line.ofId (tag ++ peeledMark) id = .peeled tag id := by
  rw [Line.ofId, beforeEnd?_eq_some_iff.mpr rfl]

theorem Line.ofId_object (h : ¬ peeledMark <:+ name) (id : ObjectId) :
    Line.ofId name id = .object name id := by
  rw [Line.ofId, beforeEnd?_eq_none h]

/-- An id column holds no mark of a symbolic line, even behind blanks. -/
theorem afterStart?_symbolicMark (h : ObjectId.parse? (trim left) = some id) :
    afterStart? symbolicMark left = none := by
  cases ha : afterStart? symbolicMark left with
  | none => rfl
  | some rest =>
    rw [afterStart?_eq_some_iff.mp ha] at h
    have hcolon : ':' ∈ trim (symbolicMark ++ rest) :=
      mem_trim (by simp [symbolicMark]) (by decide)
    exact absurd rfl (hash_chars h ':' hcolon).2

theorem read?_idLine (htab : '\t' ∉ left) (h : ObjectId.parse? (trim left) = some id)
    (name : List Char) : Line.read? (hashLine left name) = some (Line.ofId name id) := by
  have hcut : cutAt? '\t' (hashLine left name) = some (left, name) :=
    cutAt?_eq_some_iff.mpr ⟨htab, rfl⟩
  rw [Line.read?, hcut, Option.bind_some]
  simp only [afterStart?_symbolicMark h, h]
  rfl

theorem hash_trim (h : ObjectId.parse? hash = some id) : trim hash = hash :=
  trim_eq_self (fun c hc => (hash_chars h c (List.mem_of_mem_head? hc)).1)
    fun c hc => (hash_chars h c (List.mem_of_getLast? hc)).1

theorem blank_notMem_hash {c : Char} (h : ObjectId.parse? hash = some id)
    (hc : isBlank c = true) : c ∉ hash := by
  intro hmem
  rw [(hash_chars h c hmem).1] at hc
  cases hc

theorem feed_notMem_hash (h : ObjectId.parse? hash = some id) : '\n' ∉ hash :=
  blank_notMem_hash h (by decide)

theorem read?_hashLine (h : ObjectId.parse? hash = some id) (name : List Char) :
    Line.read? (hashLine hash name) = some (Line.ofId name id) :=
  read?_idLine (blank_notMem_hash h (by decide)) (by rwa [hash_trim h]) name

theorem read?_object (h : ObjectId.parse? hash = some id) (hn : ¬ peeledMark <:+ name) :
    Line.read? (hashLine hash name) = some (.object name id) := by
  rw [read?_hashLine h, Line.ofId_object hn]

theorem read?_peeled (h : ObjectId.parse? hash = some id) (tag : List Char) :
    Line.read? (hashLine hash (tag ++ peeledMark)) = some (.peeled tag id) := by
  rw [read?_hashLine h, Line.ofId_peeled]

/-- A text that is read back as the target of a symbolic line. -/
structure Pointable (target : List Char) : Prop where
  tab : '\t' ∉ target
  feed : '\n' ∉ target
  first : ∀ c ∈ target.head?, isBlank c = false
  last : ∀ c ∈ target.getLast?, isBlank c = false

/-- A reference that can be listed: its name stands at the end of a line and is not taken for that
of a peeled commit, and only `HEAD` may be symbolic. -/
structure Listable (r : Reference) : Prop where
  name_ne : r.name ≠ ""
  feed : '\n' ∉ r.name.toList
  last : ∀ c ∈ r.name.toList.getLast?, isBlank c = false
  unmarked : ¬ peeledMark <:+ r.name.toList
  symbolic : ∀ target, r.target = .symbolic target →
    r.name = headName ∧ r.peeled = none ∧ Pointable target.toList

/-- The lines that a reference is listed by. Behind a symbolic one stands the id that it leads to,
and behind a tag the commit that it peels to. -/
def linesOf (hash : List Char) (r : Reference) : List (List Char) :=
  let name := r.name.toList
  match r.target, r.peeled with
  | .symbolic target, _ => [symbolicLine target.toList name, hashLine hash name]
  | .object id, none => [hashLine id.digits name]
  | .object id, some commit =>
    [hashLine id.digits name, hashLine commit.digits (name ++ peeledMark)]

/-- A line that ends in a name has nothing to trim. -/
theorem trimEnd_named (hr : Listable r) (pre : List Char) :
    trimEnd (pre ++ '\t' :: r.name.toList) = pre ++ '\t' :: r.name.toList := by
  have hne : r.name.toList ≠ [] := fun h => hr.name_ne (String.toList_eq_nil_iff.mp h)
  refine trimEnd_eq_self fun c hc => hr.last c ?_
  rwa [List.append_cons, List.getLast?_append_of_ne_nil _ hne] at hc

theorem trimEnd_marked (pre : List Char) : trimEnd (pre ++ peeledMark) = pre ++ peeledMark := by
  refine trimEnd_eq_self fun c hc => ?_
  have hlast : (pre ++ peeledMark).getLast? = some '\x7d' := by
    rw [List.getLast?_append_of_ne_nil _ (by simp [peeledMark])]
    rfl
  obtain rfl : '\x7d' = c := Option.some.inj (hlast.symm.trans hc)
  decide

/-- The lines of a reference are lines, and say something. -/
theorem linesOf_line (hr : Listable r) (hh : ObjectId.parse? hash = some id)
    (hl : line ∈ linesOf hash r) : '\n' ∉ line ∧ trimEnd line = line ∧ line ≠ [] := by
  have hnamed {hash' : List Char} {id' : ObjectId} (hh' : ObjectId.parse? hash' = some id') :
      '\n' ∉ hashLine hash' r.name.toList := by
    simp [hashLine, feed_notMem_hash hh', hr.feed]
  unfold linesOf at hl
  split at hl
  · rename_i target ht
    obtain ⟨_, _, hp⟩ := hr.symbolic target ht
    rcases List.mem_pair.mp hl with rfl | rfl
    · refine ⟨?_, trimEnd_named hr _, by simp [symbolicLine]⟩
      simp [symbolicLine, symbolicMark, hp.feed, hr.feed]
    · exact ⟨hnamed hh, trimEnd_named hr _, by simp [hashLine]⟩
  · obtain rfl := List.mem_singleton.mp hl
    exact ⟨hnamed (parse?_digits _), trimEnd_named hr _, by simp [hashLine]⟩
  · rename_i commit _ _
    rcases List.mem_pair.mp hl with rfl | rfl
    · exact ⟨hnamed (parse?_digits _), trimEnd_named hr _, by simp [hashLine]⟩
    · refine ⟨?_, ?_, by simp [hashLine]⟩
      · simp [hashLine, feed_notMem_hash (parse?_digits commit), hr.feed, peeledMark]
      · have hmark := trimEnd_marked (commit.digits ++ '\t' :: r.name.toList)
        rwa [List.append_assoc, List.cons_append] at hmark

theorem addLine_of_read (hl : Line.read? line = some l) (ha : l.addTo? known = some refs) :
    addLine known line = .ok refs := by
  rw [addLine, hl, Option.bind_some, ha]

/-- A peeled commit is recorded at the one reference of its name. -/
theorem peel_append (hnew : r.name ∉ known.map (·.name)) (commit : ObjectId) :
    peel r.name commit (known ++ [r]) = some (known ++ [{ r with peeled := some commit }]) := by
  induction known with
  | nil => simp [peel]
  | cons k known ih =>
    obtain ⟨hk, hknown⟩ : r.name ≠ k.name ∧ r.name ∉ known.map (·.name) := by simpa using hnew
    rw [List.cons_append, peel, if_neg (Ne.symm hk), ih hknown]
    rfl

theorem addTo?_object (hnew : r.name ∉ known.map (·.name)) (id : ObjectId) :
    (Line.object r.name.toList id).addTo? known = some (known ++ [.ofId r.name id]) := by
  have hany : known.any (fun k => k.name = r.name && k.isSymbolic) = false := by
    rw [List.any_eq_false]
    intro k hk
    have hne : k.name ≠ r.name := fun he => hnew (he ▸ List.mem_map_of_mem hk)
    simp [hne]
  simp [Line.addTo?, hany]

theorem addTo?_peeled (hnew : r.name ∉ known.map (·.name)) (commit : ObjectId) :
    (Line.peeled r.name.toList commit).addTo? (known ++ [r]) =
      some (known ++ [{ r with peeled := some commit }]) := by
  rw [Line.addTo?, String.ofList_toList]
  exact peel_append hnew commit

theorem addTo?_symbolic (hnew : r.name ∉ known.map (·.name)) (target : List Char) :
    (Line.symbolic r.name.toList target).addTo? known =
      some (known ++ [.ofSymbolic r.name (String.ofList target)]) := by
  have hkeep : known.filter (·.name ≠ r.name) = known := by
    refine List.filter_eq_self.mpr fun k hk => decide_eq_true ?_
    rintro he
    exact hnew (he ▸ List.mem_map_of_mem hk)
  rw [Line.addTo?, String.ofList_toList]
  simp only [hkeep]

/-- The id of a symbolic `HEAD` is left out. -/
theorem addTo?_head (known : List Reference) (target : String) (id : ObjectId) :
    (Line.object headName.toList id).addTo? (known ++ [.ofSymbolic headName target]) =
      some (known ++ [.ofSymbolic headName target]) := by
  simp [Line.addTo?, Reference.ofSymbolic, Reference.isSymbolic, Reference.symbolic?]

theorem foldlM_addLine_cons (h : addLine known line = .ok refs) (ls : List (List Char)) :
    (line :: ls).foldlM addLine known = ls.foldlM addLine refs := by
  rw [List.foldlM_cons, h]
  rfl

/-- The lines of a reference whose name is not known yet add it to those that are known. -/
theorem foldlM_linesOf (hr : Listable r) (hh : ObjectId.parse? hash = some id)
    (hnew : r.name ∉ known.map (·.name)) :
    (linesOf hash r).foldlM addLine known = .ok (known ++ [r]) := by
  obtain ⟨name, target, peeled⟩ := r
  cases target with
  | symbolic target =>
    obtain ⟨rfl, rfl, hp⟩ := hr.symbolic target rfl
    have hread : Line.read? (symbolicLine target.toList headName.toList) =
        some (.symbolic headName.toList target.toList) :=
      read?_eq_symbolic_iff.mpr
        ⟨target.toList, hp.tab, rfl, (trim_eq_self hp.first hp.last).symm⟩
    have hsymbolic := addLine_of_read hread (addTo?_symbolic hnew target.toList)
    rw [String.ofList_toList] at hsymbolic
    have hhead := addLine_of_read (read?_object hh hr.unmarked)
      (addTo?_head known target id)
    rw [linesOf, foldlM_addLine_cons hsymbolic, foldlM_addLine_cons hhead]
    rfl
  | object i =>
    have hobject := addLine_of_read (read?_object (parse?_digits i) hr.unmarked)
      (addTo?_object hnew i)
    cases peeled with
    | none =>
      rw [linesOf, foldlM_addLine_cons hobject]
      rfl
    | some commit =>
      have hpeeled := addLine_of_read (read?_peeled (parse?_digits commit) name.toList)
        (addTo?_peeled (r := .ofId name i) hnew commit)
      rw [linesOf, foldlM_addLine_cons hobject, foldlM_addLine_cons hpeeled]
      rfl

theorem foldlM_written (known : List Reference) (hr : ∀ r ∈ refs, Listable r)
    (hh : ObjectId.parse? hash = some id) (hn : ((known ++ refs).map (·.name)).Nodup) :
    (refs.flatMap (linesOf hash)).foldlM addLine known = .ok (known ++ refs) := by
  induction refs generalizing known with
  | nil => simp [pure, Except.pure]
  | cons r refs ih =>
    have hnew : r.name ∉ known.map (·.name) := by
      rw [List.map_append, List.nodup_append] at hn
      intro hmem
      exact hn.2.2 r.name hmem r.name (by simp) rfl
    rw [List.append_cons] at hn ⊢
    rw [List.flatMap_cons, List.foldlM_append, foldlM_linesOf (hr r List.mem_cons_self) hh hnew]
    exact ih (known ++ [r]) (fun q hq => hr q (List.mem_cons_of_mem r hq)) hn

/-- References of distinct names are read back from the lines that they are listed by, in their
order. It does not matter how the lines end, nor which id stands behind a symbolic `HEAD`. -/
theorem parse_written (hn : (refs.map (·.name)).Nodup) (hr : ∀ r ∈ refs, Listable r)
    (hh : ObjectId.parse? hash = some id) (ht : Ended (refs.flatMap (linesOf hash)) text) :
    parse text = .ok refs := by
  have hline : ∀ line ∈ refs.flatMap (linesOf hash),
      '\n' ∉ line ∧ trimEnd line = line ∧ line ≠ [] := by
    intro line hl
    obtain ⟨r, hmem, hl⟩ := List.mem_flatMap.mp hl
    exact linesOf_line (hr r hmem) hh hl
  have htrim : (refs.flatMap (linesOf hash)).map trimEnd = refs.flatMap (linesOf hash) :=
    (List.map_congr_left fun line hl => (hline line hl).2.1).trans (List.map_id' _)
  have hsome : (refs.flatMap (linesOf hash)).filter (· ≠ []) = refs.flatMap (linesOf hash) :=
    List.filter_eq_self.mpr fun line hl => decide_eq_true (hline line hl).2.2
  rw [parse, contentLines_of_ended ht fun line hl => (hline line hl).1, htrim, hsome]
  exact foldlM_written [] hr hh hn

/-- The id of forty times one digit. -/
def repeatedId (digit : Char) (h : IsIdDigit digit) : ObjectId :=
  ⟨List.replicate 40 digit, Or.inl List.length_replicate,
    fun _ hc => List.eq_of_mem_replicate hc ▸ h⟩

/-- A symbolic `HEAD`, a branch and an annotated tag. -/
def sampleRefs : List Reference :=
  [.ofSymbolic headName "refs/heads/main", .ofId "refs/heads/main" (repeatedId '1' (by decide)),
    ⟨"refs/tags/v1.0", .object (repeatedId '2' (by decide)), some (repeatedId 'c' (by decide))⟩]

/-- The lines of the sample, with ends of both kinds and upper-case digits. -/
def sampleText : List Char :=
  symbolicLine "refs/heads/main".toList headName.toList ++ '\n' ::
  (idLine 'A' headName.toList ++ '\r' :: '\n' ::
  (idLine '1' "refs/heads/main".toList ++ '\n' ::
  (idLine '2' "refs/tags/v1.0".toList ++ '\r' :: '\n' ::
  (idLine 'c' "refs/tags/v1.0^\x7b\x7d".toList ++ ['\n']))))

theorem listable_sampleRefs : ∀ r ∈ sampleRefs, Listable r := by
  have hblank {o : Option Char} {a : Char} (ho : o = some a) (ha : isBlank a = false) :
      ∀ c ∈ o, isBlank c = false := by
    rintro c hc
    rwa [← Option.some.inj (ho.symm.trans hc)]
  have hmain : ∀ c ∈ "refs/heads/main".toList.getLast?, isBlank c = false :=
    hblank (a := 'n') (by decide) (by decide)
  intro r hr
  simp only [sampleRefs, List.mem_cons, List.not_mem_nil, or_false] at hr
  rcases hr with rfl | rfl | rfl
  · refine ⟨by decide, by decide, hblank (a := 'D') (by decide) (by decide), by decide,
      fun target ht => ?_⟩
    cases ht
    exact ⟨rfl, rfl, by decide, by decide, hblank (a := 'r') (by decide) (by decide), hmain⟩
  · exact ⟨by decide, by decide, hmain, by decide, fun target ht => by cases ht⟩
  · exact ⟨by decide, by decide, hblank (a := '0') (by decide) (by decide), by decide,
      fun target ht => by cases ht⟩

theorem parse_sampleText : (sampleRefs.map (·.name)).Nodup ∧ (∀ r ∈ sampleRefs, Listable r) ∧
    Ended (sampleRefs.flatMap (linesOf (List.replicate 40 'A'))) sampleText ∧
    parse sampleText = .ok sampleRefs := by
  have hn : (sampleRefs.map (·.name)).Nodup := by decide
  have hh : ObjectId.parse? (List.replicate 40 'A') = some (repeatedId 'a' (by decide)) :=
    ObjectId.parse?_eq_some_iff.mpr (by decide)
  have ht : Ended (sampleRefs.flatMap (linesOf (List.replicate 40 'A'))) sampleText :=
    .feed _ (.returnFeed _ (.feed _ (.returnFeed _ (.feed _ .nil))))
  exact ⟨hn, listable_sampleRefs, ht, parse_written hn listable_sampleRefs hh ht⟩

end Git.Listing
end GitDrift
