import GitDrift.Proofs.Comparison
import GitDrift.Proofs.ListingGrammar
import Mathlib.Logic.Relation

/-!
Texts that differ in style only: in the case of the digits of ids, in blanks around ids, in blanks
and returns at the ends of lines, and in blank lines. Where one of them is a listing the others are
too, of the same references in the same order, and no comparison can tell them apart.
-/
namespace GitDrift

namespace Text

variable {s t line before after blanks : List Char}

theorem trimEnd_append (s t : List Char) :
    trimEnd (s ++ t) = if trimEnd t = [] then trimEnd s else s ++ trimEnd t := by
  unfold trimEnd dropEndWhile
  rw [List.reverse_append, List.dropWhile_append]
  simp only [List.isEmpty_iff, List.reverse_eq_nil_iff]
  split_ifs
  · rfl
  · rw [List.reverse_append, List.reverse_reverse]

theorem trimEnd_append_blanks (h : ∀ c ∈ blanks, isBlank c = true) (s : List Char) :
    trimEnd (s ++ blanks) = trimEnd s :=
  dropEndWhile_append_of_pos h s

theorem trimEnd_blanks (h : ∀ c ∈ blanks, isBlank c = true) : trimEnd blanks = [] :=
  trimEnd_append_blanks h []

theorem trim_blanks_append (h : ∀ c ∈ blanks, isBlank c = true) (s : List Char) :
    trim (blanks ++ s) = trim s := by
  rw [trim, List.dropWhile_append_of_pos h, trim]

theorem trim_append_blanks (h : ∀ c ∈ blanks, isBlank c = true) (s : List Char) :
    trim (s ++ blanks) = trim s := by
  rw [trim, trim, List.dropWhile_append]
  split_ifs with hs
  · rw [List.isEmpty_iff.mp hs, List.dropWhile_eq_nil_iff.mpr h]
  · exact trimEnd_append_blanks h _

/-- Behind the text a line begins. -/
def Begins (before : List Char) : Prop := ∀ c ∈ before.getLast?, c = '\n'

/-- Before the text a line ends. -/
def Ends (after : List Char) : Prop := ∀ c ∈ after.head?, c = '\n'

theorem begins_nil : Begins [] := by
  rintro c ⟨⟩

theorem begins_feed (s : List Char) : Begins (s ++ ['\n']) := by
  intro c hc
  rw [List.getLast?_concat] at hc
  exact (Option.some.inj hc).symm

/-- A text is what stands before its last line, and that line. -/
theorem exists_lastLine (s : List Char) : ∃ before line, s = before ++ line ∧ Begins before ∧
    '\n' ∉ line := by
  induction s using List.reverseRecOn with
  | nil => exact ⟨[], [], rfl, begins_nil, List.not_mem_nil⟩
  | append_singleton s c ih =>
    by_cases hc : c = '\n'
    · subst hc
      exact ⟨s ++ ['\n'], [], (List.append_nil _).symm, begins_feed s, List.not_mem_nil⟩
    · obtain ⟨before, line, rfl, hbefore, hline⟩ := ih
      exact ⟨before, line ++ [c], List.append_assoc _ _ _, hbefore, by simp [hline, Ne.symm hc]⟩

theorem linesFrom_feed (read before rest : List Char) : linesFrom read (before ++ '\n' :: rest) =
    linesFrom read (before ++ ['\n']) ++ lines rest := by
  induction before generalizing read with
  | nil => rfl
  | cons c before ih =>
    simp only [List.cons_append, linesFrom]
    split_ifs
    · rw [ih, List.cons_append]
    · exact ih (c :: read)

theorem lines_append (h : Begins before) (rest : List Char) :
    lines (before ++ rest) = lines before ++ lines rest := by
  rcases List.eq_nil_or_concat before with rfl | ⟨s, c, rfl⟩
  · rfl
  · rw [List.concat_eq_append] at h ⊢
    obtain rfl : c = '\n' := h c (by simp)
    rw [List.append_assoc]
    exact linesFrom_feed [] s rest

/-- Without a line feed all of a text is one line. -/
theorem lines_notMem (h : '\n' ∉ line) (hne : line ≠ []) : lines line = [line] := by
  have hlines := linesFrom_line h [] []
  rwa [List.append_nil, List.append_nil, linesFrom, if_neg (by simpa using hne),
    List.reverse_reverse] at hlines

end Text

namespace Git.Listing

open Text

variable {line line' before after blanks pre post hash hash' name text text' : List Char}
  {refs refs' known : List Reference} {id : ObjectId} {ls ls' : List (List Char)}

/-- Blanks within a line. -/
def Padding (s : List Char) : Prop := ∀ c ∈ s, isBlank c = true ∧ c ≠ '\n'

/-- A line and a restyled one. Only a line with an id has a column that may be restyled. -/
inductive RestyledLine : List Char → List Char → Prop
  /-- Digits of an id are in the other case. -/
  | recased {hash hash' : List Char} (hfull : IsFullId hash)
      (hcase : hash'.map lowerHex = hash.map lowerHex) (name : List Char) :
      RestyledLine (hashLine hash name) (hashLine hash' name)
  | spaced {hash pre post : List Char} (hfull : IsFullId hash) (hpre : Padding pre)
      (hpost : Padding post) (htab : '\t' ∉ pre ++ post) (name : List Char) :
      RestyledLine (hashLine hash name) (hashLine (pre ++ hash ++ post) name)
  | trailed {blanks : List Char} (line : List Char) (h : Padding blanks) :
      RestyledLine line (line ++ blanks)

/-- A text and one that is restyled at one place: a line is, or a line feed gets a return, or a
blank line is put in before a line or behind one. -/
inductive Restyled : List Char → List Char → Prop
  | line {before line line' after : List Char} (hbefore : Begins before) (hfeed : '\n' ∉ line)
      (h : RestyledLine line line') (hafter : Ends after) :
      Restyled (before ++ (line ++ after)) (before ++ (line' ++ after))
  | returned (before after : List Char) :
      Restyled (before ++ '\n' :: after) (before ++ '\r' :: '\n' :: after)
  | blankBefore {before blanks : List Char} (hbefore : Begins before) (h : Padding blanks)
      (after : List Char) : Restyled (before ++ after) (before ++ (blanks ++ '\n' :: after))
  | blankBehind {blanks after : List Char} (before : List Char) (h : Padding blanks)
      (hafter : Ends after) : Restyled (before ++ after) (before ++ '\n' :: (blanks ++ after))

/-- The texts differ in style only: one becomes the other by restyling, forth and back. -/
def SameButForStyle : List Char → List Char → Prop := Relation.EqvGen Restyled

/-- What a line says. A blank one says nothing, and one that cannot be read says `none`. -/
def said (line : List Char) : List (Option Line) :=
  ([trimEnd line].filter (· ≠ [])).map Line.read?

/-- What the lines of a text say. -/
def readings (text : List Char) : List (Option Line) := (contentLines text).map Line.read?

theorem said_of_trimEnd (h : trimEnd line = trimEnd line') : said line = said line' := by
  rw [said, h, said]

theorem Padding.blank (h : Padding blanks) : ∀ c ∈ blanks, isBlank c = true :=
  fun c hc => (h c hc).1

theorem Padding.feed_notMem (h : Padding blanks) : '\n' ∉ blanks := fun hmem => (h _ hmem).2 rfl

theorem padding_nil : Padding [] := by simp [Padding]

theorem said_padding (h : Padding blanks) : said blanks = [] := by
  rw [said, trimEnd_blanks h.blank]
  rfl

theorem said_append_padding (h : Padding blanks) (line : List Char) :
    said (line ++ blanks) = said line :=
  said_of_trimEnd (trimEnd_append_blanks h.blank line)

theorem said_of_ne (h : trimEnd line ≠ []) : said line = [Line.read? (trimEnd line)] := by
  simp [said, h]

theorem read?_eq_none (h : '\t' ∉ line) : Line.read? line = none := by
  have hcut : cutAt? '\t' line = none := by
    cases hc : cutAt? '\t' line with
    | none => rfl
    | some parts =>
      obtain ⟨_, rfl⟩ := cutAt?_eq_some_iff.mp hc
      simp at h
  rw [Line.read?, hcut, Option.bind_none]

/-- A name of blanks belongs to the end of its line, and so does the tab before it. -/
theorem trimEnd_hashLine (left name : List Char) : trimEnd (hashLine left name) =
    if trimEnd name = [] then trimEnd left else hashLine left (trimEnd name) := by
  have htab : trimEnd ['\t'] = [] := by decide
  have hname := trimEnd_append ['\t'] name
  rw [htab, List.singleton_append] at hname
  rw [hashLine, trimEnd_append, hname]
  split_ifs <;> simp_all [hashLine]

/-- What an id line says hangs on its id and its name, not on the blanks around them. -/
theorem said_idLine (hid : ObjectId.parse? hash = some id) (hpre : Padding pre)
    (hpost : Padding post) (htab : '\t' ∉ pre ++ post) (name : List Char) :
    said (hashLine (pre ++ hash ++ post) name) =
      [if trimEnd name = [] then none else some (Line.ofId (trimEnd name) id)] := by
  obtain ⟨htabpre, htabpost⟩ : '\t' ∉ pre ∧ '\t' ∉ post := by simpa using htab
  have htabhash : '\t' ∉ hash := blank_notMem_hash hid (by decide)
  have hends : trimEnd hash = hash :=
    trimEnd_eq_self fun c hc => (hash_chars hid c (List.mem_of_getLast? hc)).1
  have hne : hash ≠ [] := by
    rintro rfl
    have hlength := (exists_parse?_iff.mp ⟨id, hid⟩).1
    revert hlength
    decide
  have htrim : trim (pre ++ hash ++ post) = hash := by
    rw [trim_append_blanks hpost.blank, trim_blanks_append hpre.blank, hash_trim hid]
  have hleft : trimEnd (pre ++ hash ++ post) = pre ++ hash := by
    rw [trimEnd_append_blanks hpost.blank, trimEnd_append, hends, if_neg hne]
  have hline := trimEnd_hashLine (pre ++ hash ++ post) name
  split_ifs at hline ⊢ with hname
  · rw [hleft] at hline
    have hsaid := said_of_ne (hline ▸ List.append_ne_nil_of_right_ne_nil pre hne)
    rw [hsaid, hline, read?_eq_none (by simp [htabpre, htabhash])]
  · have hsome : hashLine (pre ++ hash ++ post) (trimEnd name) ≠ [] := by simp [hashLine]
    rw [said_of_ne (hline ▸ hsome), hline, read?_idLine _ (htrim ▸ hid)]
    simp [htabpre, htabhash, htabpost]

theorem said_hashLine (hid : ObjectId.parse? hash = some id) (name : List Char) :
    said (hashLine hash name) =
      [if trimEnd name = [] then none else some (Line.ofId (trimEnd name) id)] := by
  have hbare := said_idLine hid padding_nil padding_nil List.not_mem_nil name
  rwa [List.nil_append, List.append_nil] at hbare

theorem parse?_recased (hid : ObjectId.parse? hash = some id)
    (hcase : hash'.map lowerHex = hash.map lowerHex) : ObjectId.parse? hash' = some id :=
  ObjectId.parse?_eq_some_iff.mpr (hcase.trans (ObjectId.parse?_eq_some_iff.mp hid))

/-- Restyling a line leaves what it says. -/
theorem said_restyledLine (h : RestyledLine line line') : said line = said line' := by
  cases h with
  | recased hfull hcase name =>
    obtain ⟨id, hid⟩ := exists_parse?_iff.mpr hfull
    rw [said_hashLine hid, said_hashLine (parse?_recased hid hcase)]
  | spaced hfull hpre hpost htab name =>
    obtain ⟨id, hid⟩ := exists_parse?_iff.mpr hfull
    rw [said_hashLine hid, said_idLine hid hpre hpost htab]
  | trailed line h => exact (said_append_padding h line).symm

/-- A restyled line is one line. -/
theorem feed_notMem_restyledLine (h : RestyledLine line line') (hfeed : '\n' ∉ line) :
    '\n' ∉ line' := by
  cases h with
  | recased hfull hcase name =>
    obtain ⟨id, hid⟩ := exists_parse?_iff.mpr hfull
    have hhash' := feed_notMem_hash (parse?_recased hid hcase)
    have hname : '\n' ∉ name := by simpa [hashLine, feed_notMem_hash hid] using hfeed
    simp [hashLine, hhash', hname]
  | spaced hfull hpre hpost htab name =>
    simpa [hashLine, hpre.feed_notMem, hpost.feed_notMem] using hfeed
  | trailed line h => simpa [h.feed_notMem] using hfeed

theorem readings_append (h : Begins before) (text : List Char) :
    readings (before ++ text) = readings before ++ readings text := by
  simp [readings, contentLines, lines_append h]

theorem readings_feed (hline : '\n' ∉ line) (text : List Char) :
    readings (line ++ '\n' :: text) = said line ++ readings text := by
  rw [readings, contentLines_append hline, List.map_append, said, readings]

/-- A blank line before a line says nothing. -/
theorem readings_blankBefore (h : Padding blanks) (text : List Char) :
    readings (blanks ++ '\n' :: text) = readings text := by
  rw [readings_feed h.feed_notMem, said_padding h, List.nil_append]

theorem readings_line (hline : '\n' ∉ line) (hafter : Ends after) :
    readings (line ++ after) = said line ++ readings after := by
  cases after with
  | nil =>
    rw [List.append_nil]
    by_cases hne : line = []
    · subst hne
      rfl
    · rw [readings, contentLines, lines_notMem hline hne]
      exact (List.append_nil _).symm
  | cons c after =>
    obtain rfl : c = '\n' := hafter c rfl
    have hempty := readings_blankBefore padding_nil after
    rw [List.nil_append] at hempty
    rw [readings_feed hline, hempty]

/-- What a text says is what is said before a line, on it and after it. -/
theorem readings_around (hbefore : Begins before) (hline : '\n' ∉ line) (hafter : Ends after) :
    readings (before ++ (line ++ after)) = readings before ++ (said line ++ readings after) := by
  rw [readings_append hbefore, readings_line hline hafter]

theorem ends_feed (s : List Char) : Ends ('\n' :: s) := by
  rintro c ⟨⟩
  rfl

/-- A blank line behind a line says nothing. -/
theorem readings_blankBehind (h : Padding blanks) (hafter : Ends after) :
    readings ('\n' :: (blanks ++ after)) = readings after := by
  have hfirst := readings_blankBefore padding_nil (blanks ++ after)
  rw [List.nil_append] at hfirst
  rw [hfirst, readings_line h.feed_notMem hafter, said_padding h, List.nil_append]

/-- Restyling a text leaves what its lines say. -/
theorem readings_restyled (h : Restyled text text') : readings text = readings text' := by
  cases h with
  | line hbefore hfeed h hafter =>
    rw [readings_around hbefore hfeed hafter, said_restyledLine h,
      readings_around hbefore (feed_notMem_restyledLine h hfeed) hafter]
  | returned before after =>
    -- a return is one more blank at the end of the line before it
    obtain ⟨before, line, rfl, hbefore, hline⟩ := exists_lastLine before
    have hreturn : Padding ['\r'] := by simp [Padding, isBlank]
    have hline' : '\n' ∉ line ++ ['\r'] := by simp [hline]
    rw [List.append_assoc, List.append_assoc, List.append_cons line '\r',
      readings_around hbefore hline (ends_feed after),
      readings_around hbefore hline' (ends_feed after), said_append_padding hreturn]
  | blankBefore hbefore h after =>
    rw [readings_append hbefore, readings_append hbefore, readings_blankBefore h]
  | blankBehind before h hafter =>
    obtain ⟨before, line, rfl, hbefore, hline⟩ := exists_lastLine before
    rw [List.append_assoc, List.append_assoc, readings_around hbefore hline hafter,
      readings_around hbefore hline (ends_feed _), readings_blankBehind h hafter]

theorem readings_sameButForStyle (h : SameButForStyle text text') :
    readings text = readings text' := by
  induction h with
  | rel _ _ h => exact readings_restyled h
  | refl _ => rfl
  | symm _ _ _ ih => exact ih.symm
  | trans _ _ _ _ _ ih ih' => exact ih.trans ih'

/-- Lines that say the same are taken alike. -/
theorem foldlM_of_read? (hread : ls.map Line.read? = ls'.map Line.read?)
    (h : ls.foldlM addLine known = .ok refs) : ls'.foldlM addLine known = .ok refs := by
  induction ls generalizing ls' known with
  | nil =>
    obtain rfl := List.map_eq_nil_iff.mp hread.symm
    exact h
  | cons line ls ih =>
    obtain ⟨line', rest, rfl, hline, hrest⟩ := List.map_eq_cons_iff.mp hread.symm
    rw [List.foldlM_cons] at h
    obtain ⟨mid, hmid, h⟩ := bind_eq_ok h
    obtain ⟨l, hl, hadd⟩ := addLine_cases hmid
    rw [foldlM_addLine_cons (addLine_of_read (hline.trans hl) hadd)]
    exact ih hrest.symm h

theorem parse_sameButForStyle (hstyle : SameButForStyle text text') (h : parse text = .ok refs) :
    parse text' = .ok refs :=
  foldlM_of_read? (readings_sameButForStyle hstyle) h

end Git.Listing

namespace Drift

open Git Git.Listing Text

variable {key : PatternKey} {c : GitConfig} {texts : Side → List Char}

/-- Where one revision is tracked in a text and in a restyled one, no drift is found. -/
theorem run_start_ne_drift (hstyle : SameButForStyle (texts .origin) (texts .target))
    (hc : c.originRevision = c.targetRevision) :
    ((Detection.start key (.ok c)).run fun side _ => parse (texts side)).1 ≠ .ok true := by
  obtain ⟨_, _, hdecides⟩ := exists_decides key (.ok c) fun side _ => parse (texts side)
  rw [hdecides.run_eq]
  rintro rfl
  cases hdecides with
  | compared hconf hl hr h =>
    obtain ⟨⟨⟩, -⟩ := hconf
    have hsame := Except.ok.inj ((parse_sameButForStyle hstyle hl.1).symm.trans hr.1)
    generalize hd : (Except.ok true : Except DriftError Bool) = result at h
    cases h with
    | origin h => cases hd
    | target ho h => cases hd
    | commits ho ht =>
      rw [hsame, hc] at ho
      have hone := (trackedCommit_eq_iff.mpr ho).symm.trans (trackedCommit_eq_iff.mpr ht)
      cases hone
      simp at hd

/-- Style makes no difference. Texts that differ in style only are listings of the same references,
comparisons of them come out the same, and between them no drift is found. -/
theorem insensitive_to_style :
    (∀ text text' refs, SameButForStyle text text' → parse text = .ok refs →
      parse text' = .ok refs) ∧
    (∀ key config (texts texts' : Side → List Char),
      (∀ side, SameButForStyle (texts side) (texts' side)) →
      (∀ side, ∃ refs, parse (texts side) = .ok refs) →
      (Detection.start key config).run (fun side _ => parse (texts' side)) =
        (Detection.start key config).run fun side _ => parse (texts side)) ∧
    ∀ key c (texts : Side → List Char), SameButForStyle (texts .origin) (texts .target) →
      c.originRevision = c.targetRevision →
      ((Detection.start key (.ok c)).run fun side _ => parse (texts side)).1 ≠ .ok true := by
  refine ⟨fun _ _ _ => parse_sameButForStyle, ?_, fun _ _ _ => run_start_ne_drift⟩
  intro key config texts texts' hstyle hparse
  have hsame (side : Side) : parse (texts' side) = parse (texts side) := by
    obtain ⟨refs, hrefs⟩ := hparse side
    rw [hrefs, parse_sameButForStyle (hstyle side) hrefs]
  simp only [hsame]

def mainBranch : List Char := "refs/heads/main".toList

/-- The id of a branch, written with care. -/
def tidyText : List Char := hashLine (List.replicate 40 'a') mainBranch ++ ['\n']

/-- The line with the same id in capitals, and with spaces around it. -/
def spacedLine : List Char := hashLine ([' '] ++ List.replicate 40 'A' ++ [' ', ' ']) mainBranch

/-- The same between blank lines, with blanks wherever they may stand. -/
def untidyText : List Char :=
  ['\t'] ++ '\n' :: (spacedLine ++ [' '] ++ '\r' :: '\n' :: (['\x0c'] ++ ['\n']))

theorem tidyText_untidyText : SameButForStyle tidyText untidyText := by
  have hfull {d : Char} (h : IsHexDigit d) : IsFullId (List.replicate 40 d) :=
    ⟨Or.inl List.length_replicate, fun _ hc => List.eq_of_mem_replicate hc ▸ h⟩
  have hsmall : IsFullId (List.replicate 40 'a') := hfull (Or.inr (Or.inl (by decide)))
  have hcapital : IsFullId (List.replicate 40 'A') := hfull (Or.inr (Or.inr (by decide)))
  have hspace : Padding [' '] := by simp [Padding, isBlank]
  have htab : Padding ['\t'] := by simp [Padding, isBlank]
  have hform : Padding ['\x0c'] := by simp [Padding, isBlank]
  have hspaces : Padding [' ', ' '] := by simp [Padding, isBlank]
  have hcase : (List.replicate 40 'A').map lowerHex = (List.replicate 40 'a').map lowerHex := by
    decide
  have hrecased := Restyled.line begins_nil (by decide) (.recased hsmall hcase mainBranch)
    (ends_feed [])
  have hspaced := Restyled.line begins_nil (by decide)
    (.spaced hcapital hspace hspaces (by decide) mainBranch) (ends_feed [])
  have htrailed := Restyled.line begins_nil (by decide) (.trailed spacedLine hspace) (ends_feed [])
  have hreturned := Restyled.returned (spacedLine ++ [' ']) []
  have hbefore := Restyled.blankBefore begins_nil htab (spacedLine ++ [' '] ++ ['\r', '\n'])
  have hbehind := Restyled.blankBehind (['\t'] ++ '\n' :: (spacedLine ++ [' '] ++ ['\r'])) hform
    (ends_feed [])
  exact .trans _ _ _ (.rel _ _ hrecased) (.trans _ _ _ (.rel _ _ hspaced)
    (.trans _ _ _ (.rel _ _ htrailed) (.trans _ _ _ (.rel _ _ hreturned)
      (.trans _ _ _ (.rel _ _ hbefore) (.rel _ _ hbehind)))))

/-- The origin is listed by the tidy text, the target by the untidy one. -/
def styledTexts : Side → List Char
  | .origin => tidyText
  | .target => untidyText

/-- Both sides track the branch. -/
def mainConfig : GitConfig :=
  { originRepo := "https://origin", originRevision := "main",
    targetRepo := "https://target", targetRevision := "main" }

theorem styledTexts_in_sync : SameButForStyle tidyText untidyText ∧
    parse untidyText = .ok [.ofId "refs/heads/main" (repeatedId 'a' (by decide))] ∧
    (Detection.start ⟨"mcg", "patterns"⟩ (.ok mainConfig)).run (fun side _ =>
      parse (styledTexts side)) =
        (.ok false, [(.origin, "https://origin"), (.target, "https://target")]) ∧
    ((Detection.start ⟨"mcg", "patterns"⟩ (.ok mainConfig)).run fun side _ =>
      parse (styledTexts side)).1 ≠ .ok true := by
  obtain ⟨hsame, hrun, hsync⟩ := insensitive_to_style
  have hparse : parse tidyText = .ok [.ofId "refs/heads/main" (repeatedId 'a' (by decide))] := by
    cbv
  have hstyle (side : Side) : SameButForStyle tidyText (styledTexts side) := by
    cases side with
    | origin => exact .refl _
    | target => exact tidyText_untidyText
  refine ⟨tidyText_untidyText, hsame _ _ _ tidyText_untidyText hparse, ?_,
    hsync _ mainConfig styledTexts tidyText_untidyText rfl⟩
  rw [hrun _ _ (fun _ => tidyText) styledTexts hstyle fun _ => ⟨_, hparse⟩]
  simp only [hparse]
  decide

end Drift
end GitDrift
