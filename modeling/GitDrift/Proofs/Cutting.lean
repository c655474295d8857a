import GitDrift.Text.Blank
import Mathlib.Data.List.TakeWhile

/-!
Texts that are cut: at their start, at their end, and at a character.
-/
namespace GitDrift.Text

variable {s t pre post : List Char} {c : Char} {p : Char → Bool}

theorem afterStart?_eq_some_iff {rest : List Char} :
    afterStart? pre s = some rest ↔ s = pre ++ rest := by
  unfold afterStart?
  constructor
  · intro h
    split_ifs at h with hpre
    obtain ⟨t, rfl⟩ := List.isPrefixOf_iff_prefix.mp hpre
    simpa using h
  · rintro rfl
    simp

theorem beforeEnd?_eq_some_iff : beforeEnd? post s = some pre ↔ s = pre ++ post := by
  unfold beforeEnd?
  rw [Option.map_eq_some_iff]
  constructor
  · rintro ⟨t, ht, rfl⟩
    have hs := congrArg List.reverse (afterStart?_eq_some_iff.mp ht)
    simpa using hs
  · rintro rfl
    exact ⟨pre.reverse, afterStart?_eq_some_iff.mpr (by simp), by simp⟩

theorem beforeEnd?_eq_none (h : ¬ post <:+ s) : beforeEnd? post s = none := by
  cases hb : beforeEnd? post s with
  | none => rfl
  | some pre => exact absurd ⟨pre, (beforeEnd?_eq_some_iff.mp hb).symm⟩ h

/-- A text whose first character stays is kept whole. -/
theorem dropWhile_eq_self (h : ∀ c ∈ s.head?, p c = false) : s.dropWhile p = s := by
  cases s with
  | nil => rfl
  | cons c s => rw [List.dropWhile_cons, h c rfl]; rfl

theorem dropEndWhile_append_singleton (p : Char → Bool) (s : List Char) (c : Char) :
    dropEndWhile p (s ++ [c]) = if p c then dropEndWhile p s else s ++ [c] := by
  unfold dropEndWhile
  rw [List.reverse_append, List.reverse_singleton, List.singleton_append, List.dropWhile_cons]
  split_ifs with hc
  · rfl
  · simp

/-- A text whose last character stays is kept whole. -/
theorem dropEndWhile_eq_self (h : ∀ c ∈ s.getLast?, p c = false) : dropEndWhile p s = s := by
  rcases List.eq_nil_or_concat s with rfl | ⟨s, c, rfl⟩
  · rfl
  · have hc : p c = false := h c (by simp)
    rw [List.concat_eq_append, dropEndWhile_append_singleton, hc]
    rfl

theorem dropEndWhile_append_of_pos (h : ∀ c ∈ t, p c = true) (s : List Char) :
    dropEndWhile p (s ++ t) = dropEndWhile p s := by
  have hreverse : ∀ c ∈ t.reverse, p c = true := fun c hc => h c (List.mem_reverse.mp hc)
  rw [dropEndWhile, List.reverse_append, List.dropWhile_append_of_pos hreverse, dropEndWhile]

theorem dropEndWhile_append_replicate (h : p c) (s : List Char) (n : Nat) :
    dropEndWhile p (s ++ List.replicate n c) = dropEndWhile p s :=
  dropEndWhile_append_of_pos (fun _ hd => List.eq_of_mem_replicate hd ▸ h) s

theorem cutAt?_eq_some_iff {left right : List Char} :
    cutAt? c s = some (left, right) ↔ c ∉ left ∧ s = left ++ c :: right := by
  induction s generalizing left right with
  | nil => simp [cutAt?]
  | cons d s ih =>
    rw [cutAt?]
    cases left with
    | nil =>
      split_ifs with hd
      · simp [hd]
      · simp [hd]
    | cons e left =>
      split_ifs with hd
      · simp +contextual [hd]
      · constructor
        · intro h
          obtain ⟨⟨l, r⟩, hcut, he⟩ := Option.map_eq_some_iff.mp h
          obtain ⟨hnot, hs⟩ := ih.mp hcut
          cases he
          exact ⟨by simp [Ne.symm hd, hnot], by rw [hs, List.cons_append]⟩
        · rintro ⟨hnot, h⟩
          obtain ⟨rfl, hs⟩ := List.cons.inj h
          have hcut := ih.mpr ⟨fun hmem => hnot (List.mem_cons_of_mem d hmem), hs⟩
          rw [hcut, Option.map_some]

theorem pieces_of_not_mem (h : c ∉ s) : pieces c s = [s] := by
  induction s with
  | nil => rfl
  | cons d s ih =>
    obtain ⟨hd, hs⟩ : c ≠ d ∧ c ∉ s := by simpa using h
    rw [pieces, if_neg (Ne.symm hd), ih hs]

theorem pieces_append_cons (h : c ∉ s) (rest : List Char) :
    pieces c (s ++ c :: rest) = s :: pieces c rest := by
  induction s with
  | nil => rw [List.nil_append, pieces, if_pos rfl]
  | cons d s ih =>
    obtain ⟨hd, hs⟩ : c ≠ d ∧ c ∉ s := by simpa using h
    rw [List.cons_append, pieces, if_neg (Ne.symm hd), ih hs]

theorem pieces_flatMap_append {parts : List (List Char)} (h : ∀ part ∈ parts, c ∉ part)
    (rest : List Char) :
    pieces c (parts.flatMap (· ++ [c]) ++ rest) = parts ++ pieces c rest := by
  induction parts with
  | nil => rfl
  | cons part parts ih =>
    rw [List.flatMap_cons, List.append_assoc, List.append_assoc, List.singleton_append,
      pieces_append_cons (h part List.mem_cons_self),
      ih fun q hq => h q (List.mem_cons_of_mem part hq), List.cons_append]

theorem pieces_append_replicate (h : c ∉ s) (n : Nat) :
    pieces c (s ++ List.replicate n c) = s :: List.replicate n [] := by
  induction n generalizing s with
  | zero => rw [List.replicate_zero, List.append_nil, pieces_of_not_mem h, List.replicate_zero]
  | succ n ih =>
    have hrest := ih (s := []) List.not_mem_nil
    rw [List.nil_append] at hrest
    rw [List.replicate_succ, pieces_append_cons h, hrest, List.replicate_succ]

/-- The pieces, each behind the character that divides them, make the text again. -/
theorem flatMap_pieces (c : Char) (s : List Char) : (pieces c s).flatMap (c :: ·) = c :: s := by
  induction s with
  | nil => rfl
  | cons d s ih =>
    by_cases hd : d = c
    · rw [pieces, if_pos hd, List.flatMap_cons, ih, hd]
      rfl
    · rw [pieces, if_neg hd]
      cases hp : pieces c s with
      | nil => simp [hp] at ih
      | cons p ps =>
        rw [hp, List.flatMap_cons, List.cons_append] at ih
        rw [List.flatMap_cons, List.cons_append, List.cons_append, (List.cons.inj ih).2]

/-- What follows the last `c` is the part without `c` behind one that ends in it or is empty. -/
theorem afterLast_append (hs : ∀ d ∈ s.getLast?, d = c) (ht : c ∉ t) :
    afterLast c (s ++ t) = t := by
  have hkept : ∀ d ∈ t.reverse, decide (d ≠ c) = true := by
    intro d hd
    have hne : d ≠ c := fun he => ht (he ▸ List.mem_reverse.mp hd)
    simpa using hne
  have hstop : s.reverse.takeWhile (· ≠ c) = [] := by
    rcases List.eq_nil_or_concat s with rfl | ⟨s, d, rfl⟩
    · rfl
    · have hd : d = c := hs d (by simp)
      simp [hd]
  rw [afterLast, List.reverse_append, List.takeWhile_append_of_pos hkept, hstop,
    List.append_nil, List.reverse_reverse]

end GitDrift.Text
