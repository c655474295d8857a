import GitDrift.Json.Printer
import GitDrift.Proofs.Passing

/-!
What is written is read back: the text of a value is read as that value, as long as its numbers are
whole and can be told from doubles, and brackets are not opened too deep.
-/
namespace GitDrift.Json

open Reader Text

variable {c c' : Cursor} {rest acc s : List Char} {ch : Char} {n : ℕ} {j : Json}

/-- A character that stands for itself joins those that were read. -/
theorem reads_readStringFrom_plain {v : String} (h : c.rest = ch :: rest)
    (hch : isPlain ch = true) : Reads (readStringFrom n acc) c v c' ↔
      Reads (readStringFrom n (ch :: acc)) c.next v c' := by
  cases n with
  | zero => simp [readStringFrom]
  | succ n =>
    have hnext : c.next.rest = rest := by rw [Cursor.rest_next, h, List.tail_cons]
    have htake : c.rest.takeWhile isPlain = ch :: rest.takeWhile isPlain := by
      rw [h, List.takeWhile_cons_of_pos hch]
    simp only [readStringFrom, reads_takeWhile_bind, reads_head?_bind, htake, hnext,
      List.length_cons, ← Cursor.skip_next, List.reverse_cons, List.append_assoc,
      List.singleton_append]

/-- A character that stands for itself is written as it is. -/
theorem writeChar_of_plain (h : isPlain ch = true) : writeChar ch = [ch] := by
  have hne (d : Char) (hd : isPlain d = false) : ch ≠ d := by
    rintro rfl
    simp [hd] at h
  have hge : ¬ ch.toNat < 0x20 := by
    simp only [isPlain, Bool.and_eq_true, decide_eq_true_eq] at h
    exact Nat.not_lt.mpr h.2
  simp only [writeChar, hne _ (show isPlain '"' = false by decide),
    hne _ (show isPlain '\\' = false by decide), hne _ (show isPlain '\x08' = false by decide),
    hne _ (show isPlain '\t' = false by decide), hne _ (show isPlain '\n' = false by decide),
    hne _ (show isPlain '\x0c' = false by decide), hne _ (show isPlain '\r' = false by decide),
    hge, if_false]

/-- Another one is written as an escape, by a letter or by its code unit. -/
theorem writeChar_of_not_plain (h : isPlain ch = false) :
    (∃ letter, letter ≠ 'u' ∧ escaped? letter = some ch ∧ writeChar ch = ['\\', letter]) ∨
      (ch.toNat < 0x20 ∧ writeChar ch = unitEscape ch.toNat) := by
  unfold writeChar
  split_ifs with h₁ h₂ h₃ h₄ h₅ h₆ h₇ h₈
  · exact .inl ⟨'"', by decide, by rw [h₁]; rfl, rfl⟩
  · exact .inl ⟨'\\', by decide, by rw [h₂]; rfl, rfl⟩
  · exact .inl ⟨'b', by decide, by rw [h₃]; rfl, rfl⟩
  · exact .inl ⟨'t', by decide, by rw [h₄]; rfl, rfl⟩
  · exact .inl ⟨'n', by decide, by rw [h₅]; rfl, rfl⟩
  · exact .inl ⟨'f', by decide, by rw [h₆]; rfl, rfl⟩
  · exact .inl ⟨'r', by decide, by rw [h₇]; rfl, rfl⟩
  · exact .inr ⟨h₈, rfl⟩
  · simp [isPlain, h₁, h₂, Nat.not_lt.mp h₈] at h

theorem hexDigit?_hexChar : ∀ d < 16, hexDigit? (hexChar d) = some d := by decide

/-- The digits of an escape are those of its code unit. -/
theorem reads_readUnit (hn : n < 0x10000) (h : c.rest = (unitEscape n).drop 2 ++ rest) :
    Reads readUnit c n (c.skip 4) := by
  have hdigits : (c.rest.take 4).mapM hexDigit? =
      some [n / 4096 % 16, n / 256 % 16, n / 16 % 16, n % 16] := by
    simp [h, unitEscape, hexDigit?_hexChar, Nat.mod_lt]
  have hvalue : ((n / 4096 % 16 * 16 + n / 256 % 16) * 16 + n / 16 % 16) * 16 + n % 16 = n := by
    omega
  simp only [Reads, readUnit, hdigits, hvalue]

/-- An escape is read as the character that it was written for. -/
theorem reads_escape (hch : isPlain ch = false) (h : c.rest = writeChar ch ++ rest) :
    c.rest.head? = some '\\' ∧
      ∃ c', Reads (readEscape readCodePoint id) c.next ch c' ∧ c'.rest = rest := by
  rcases writeChar_of_not_plain hch with ⟨letter, hu, hletter, hw⟩ | ⟨hlt, hw⟩
  · rw [hw] at h
    have hnext : c.next.rest = letter :: rest := by simp [Cursor.rest_next, h]
    refine ⟨by simp [h], c.next.next, ?_, by simp [Cursor.rest_next, h]⟩
    simp only [readEscape, reads_head?_bind, hnext, List.head?_cons]
    split <;> simp_all
  · rw [hw] at h
    have hnext : c.next.next.rest = (unitEscape ch.toNat).drop 2 ++ rest := by
      simp [Cursor.rest_next, h, unitEscape]
    refine ⟨by simp [h, unitEscape], c.next.next.skip 4, ?_, ?_⟩
    · have hread : Reads readCodePoint c.next.next ch (c.next.next.skip 4) :=
        reads_bind.mpr ⟨ch.toNat, _, reads_readUnit (by omega) hnext, by simp; omega⟩
      have hhead : c.next.rest.head? = some 'u' := by simp [Cursor.rest_next, h, unitEscape]
      simpa [readEscape, hhead] using hread
    · rw [Cursor.rest_skip, hnext]
      rfl

theorem writeChar_ne_nil (ch : Char) : writeChar ch ≠ [] := by
  unfold writeChar
  split_ifs <;> simp [unitEscape]

theorem takeWhile_isPlain_of_head? (h : c.rest.head? = some ch) (hch : isPlain ch = false) :
    c.rest.takeWhile isPlain = [] := by
  obtain ⟨l, hl⟩ : ∃ l, c.rest = ch :: l := by
    cases hc : c.rest <;> simp_all
  rw [hl]
  exact List.takeWhile_cons_of_neg (by simp [hch])

/-- The rest of a string is read up to its closing quote. -/
theorem reads_readStringFrom (acc : List Char) (h : c.rest = s.flatMap writeChar ++ '"' :: rest)
    (hn : c.rest.length ≤ n) :
    ∃ c', Reads (readStringFrom n acc) c (String.ofList (acc.reverse ++ s)) c' ∧
      c'.rest = rest := by
  induction s generalizing acc c n with
  | nil =>
    obtain ⟨n, rfl⟩ : ∃ k, n = k + 1 := ⟨n - 1, by simp [h] at hn; omega⟩
    have hquote : c.rest.head? = some '"' := by simp [h]
    refine ⟨c.next, ?_, by simp [Cursor.rest_next, h]⟩
    simp [readStringFrom, takeWhile_isPlain_of_head? hquote (by decide), hquote]
  | cons ch s ih =>
    rw [List.flatMap_cons, List.append_assoc] at h
    cases hch : isPlain ch with
    | true =>
      rw [writeChar_of_plain hch, List.singleton_append] at h
      have hnext : c.next.rest = s.flatMap writeChar ++ '"' :: rest := by
        rw [Cursor.rest_next, h, List.tail_cons]
      obtain ⟨c', hread, hrest⟩ := ih (ch :: acc) hnext
        (Nat.le_trans c.length_rest_next_le hn)
      exact ⟨c', by simpa using (reads_readStringFrom_plain h hch).mpr hread, hrest⟩
    | false =>
      obtain ⟨hslash, c₁, hescape, hrest₁⟩ := reads_escape hch h
      have hlength : c.rest.length = (writeChar ch).length + c₁.rest.length := by
        rw [h, hrest₁, List.length_append]
      have hpos := List.length_pos_iff.mpr (writeChar_ne_nil ch)
      obtain ⟨n, rfl⟩ : ∃ k, n = k + 1 := ⟨n - 1, by omega⟩
      obtain ⟨c', hread, hrest⟩ := ih (ch :: acc) hrest₁ (n := n) (by omega)
      refine ⟨c', ?_, hrest⟩
      simp only [readStringFrom, reads_takeWhile_bind, reads_head?_bind,
        takeWhile_isPlain_of_head? hslash (by decide), List.length_nil, Cursor.skip_zero, hslash,
        List.reverse_nil, List.nil_append, reads_next_bind]
      exact reads_bind.mpr ⟨ch, c₁, hescape, by simpa using hread⟩

theorem toList_writeString (s : String) :
    (writeString s).toList = '"' :: (s.toList.flatMap writeChar ++ ['"']) := by
  simp [writeString]

/-- A string is read as it was written. -/
theorem reads_writeString {s : String} (h : c.rest = (writeString s).toList ++ rest)
    (hc : c.Valid) : ∃ c', Reads readString c s c' ∧ c'.rest = rest := by
  have hnext : c.next.rest = s.toList.flatMap writeChar ++ '"' :: rest := by
    simp [Cursor.rest_next, h, toList_writeString]
  have hlt : c.next.rest.length < c.next.bound := hc.next
  obtain ⟨c', hread, hrest⟩ : ∃ c', Reads (readStringFrom c.bound []) c.next
      (String.ofList ([].reverse ++ s.toList)) c' ∧ c'.rest = rest :=
    reads_readStringFrom [] hnext (by simpa using hlt.le)
  rw [List.reverse_nil, List.nil_append, String.ofList_toList] at hread
  exact ⟨c', by simpa [readString] using hread, hrest⟩

/-- The character of a decimal digit. -/
theorem digit?_ofNat : ∀ d < 10, digit? (Char.ofNat (48 + d)) = some d := by decide

theorem isDigit_ofNat : ∀ d < 10, (Char.ofNat (48 + d)).isDigit = true := by decide

theorem digits?_snoc {l : List Char} {d : Char} {x : ℕ} (h : digits? l = some x) :
    digits? (l ++ [d]) = (digit? d).map (10 * x + ·) := by
  cases l with
  | nil => cases h
  | cons a l =>
    simp only [digits?, List.cons_append] at h ⊢
    rw [← List.cons_append, List.foldlM_append, h]
    simp

theorem digits?_decimalDigits (n : ℕ) : digits? (decimalDigits n) = some n := by
  induction n using decimalDigits.induct with
  | case1 n h =>
    rw [decimalDigits, if_pos h]
    simp [digits?, digit?_ofNat n h]
  | case2 n h ih =>
    rw [decimalDigits, if_neg h, digits?_snoc ih, digit?_ofNat _ (Nat.mod_lt n (by decide)),
      Option.map_some, Nat.div_add_mod]

theorem decimalDigits_isDigit (n : ℕ) : ∀ d ∈ decimalDigits n, d.isDigit = true := by
  induction n using decimalDigits.induct with
  | case1 n h =>
    rw [decimalDigits, if_pos h]
    simpa using isDigit_ofNat n h
  | case2 n h ih =>
    rw [decimalDigits, if_neg h]
    simpa [or_imp, forall_and] using ⟨ih, isDigit_ofNat _ (Nat.mod_lt n (by decide))⟩

theorem decimalDigits_ne_nil (n : ℕ) : decimalDigits n ≠ [] := by
  intro h
  have hvalue := digits?_decimalDigits n
  rw [h] at hvalue
  cases hvalue

/-- Only zero is written with a zero ahead. -/
theorem eq_zero_of_head? {n : ℕ} (h : (decimalDigits n).head? = some '0') : n = 0 := by
  induction n using decimalDigits.induct with
  | case1 n hn =>
    rw [decimalDigits, if_pos hn, List.head?_cons, Option.some_inj] at h
    have hdigit : ∀ d < 10, Char.ofNat (48 + d) = '0' → d = 0 := by decide
    exact hdigit n hn h
  | case2 n hn ih =>
    rw [decimalDigits, if_neg hn, List.head?_append,
      Option.or_of_isSome (List.isSome_head?.mpr (decimalDigits_ne_nil _))] at h
    have hzero : n / 10 = 0 := ih h
    omega

theorem head?_decimalDigits (n : ℕ) (rest : List Char) :
    ∃ d, (decimalDigits n ++ rest).head? = some d ∧ d.isDigit = true ∧ (d = '0' → n = 0) := by
  obtain ⟨d, l, hl⟩ := List.exists_cons_of_ne_nil (decimalDigits_ne_nil n)
  refine ⟨d, by rw [hl]; rfl, decimalDigits_isDigit n d (by simp [hl]), ?_⟩
  rintro rfl
  exact eq_zero_of_head? (by rw [hl]; rfl)

/-- What follows a value: nothing, a comma or a closing bracket. -/
def Ends (rest : List Char) : Prop := ∀ ch, rest.head? = some ch → ch = ',' ∨ ch = ']' ∨ ch = '\x7d'

theorem Ends.not_digit (h : Ends rest) : ∀ ch, rest.head? = some ch → ch.isDigit = false := by
  intro ch hch
  rcases h ch hch with rfl | rfl | rfl <;> rfl

theorem takeWhile_digits (n : ℕ) (h : Ends rest) :
    (decimalDigits n ++ rest).takeWhile Char.isDigit = decimalDigits n := by
  rw [List.takeWhile_append_of_pos (decimalDigits_isDigit n)]
  have hnil : rest.takeWhile Char.isDigit = [] := by
    cases rest with
    | nil => rfl
    | cons ch rest => exact List.takeWhile_cons_of_neg (by simp [h.not_digit ch rfl])
  rw [hnil, List.append_nil]

/-- A whole number is read in parts: its sign, its digits, and nothing that belongs to a fraction or
an exponent. -/
theorem reads_readNumeral {e : Fault} {negative : Bool} {whole : List Char} {c₁ c₂ : Cursor}
    (hsign : c.rest.head? = some '-' ∧ negative = true ∧ c.next = c₁ ∨
      c.rest.head? ≠ some '-' ∧ negative = false ∧ c = c₁)
    (hwhole : c₁.rest.head? = some '0' ∧ whole = ['0'] ∧ c₁.next = c₂ ∨
      c₁.rest.head? ≠ some '0' ∧ Reads (readDigits e) c₁ whole c₂)
    (hdigit : ∀ ch, c₂.rest.head? = some ch → ch.isDigit = false)
    (hdot : c₂.rest.head? ≠ some '.')
    (hexponent : Reads (readExponent e) c₂ none c₂) :
    Reads (readNumeral e) c ⟨negative, whole, [], none⟩ c₂ := by
  have hany : c₂.rest.head?.any Char.isDigit = false := by
    cases hd : c₂.rest.head? with
    | none => rfl
    | some ch => exact hdigit ch hd
  rcases hsign with ⟨hminus, rfl, rfl⟩ | ⟨hminus, rfl, rfl⟩ <;>
    rcases hwhole with ⟨hzero, rfl, rfl⟩ | ⟨hzero, hdigits⟩
  · simpa [readNumeral, hminus, hzero] using ⟨hany, .inr ⟨hdot, hexponent⟩⟩
  · simpa [readNumeral, hminus, hzero] using
      ⟨whole, c₂, hdigits, fun _ => hany, .inr ⟨hdot, hexponent, rfl⟩⟩
  · simpa [readNumeral, hzero] using ⟨hany, .inr ⟨hdot, hexponent⟩⟩
  · simpa [readNumeral, hminus, hzero] using
      ⟨whole, c₂, hdigits, fun _ => hany, .inr ⟨hdot, hexponent, rfl⟩⟩

/-- Whole numbers that are told from doubles when they are read. -/
def IsWord (m : ℤ) : Prop := -0x8000000000000000 ≤ m ∧ m < 0x10000000000000000

theorem toList_ofInt (m : ℤ) :
    (ofInt m).toList = (if m < 0 then ['-'] else []) ++ decimalDigits m.natAbs := by
  unfold ofInt ofNat
  split_ifs <;> simp

theorem number_of_word {m : ℤ} (h : IsWord m) :
    (Numeral.mk (m < 0) (decimalDigits m.natAbs) [] none).number = .ok (.whole m) := by
  obtain ⟨hlo, hhi⟩ := h
  by_cases hm : m < 0
  · have hfits : 0 < m.natAbs ∧ m.natAbs ≤ 0x8000000000000000 := by omega
    have hvalue : -(m.natAbs : ℤ) = m := by omega
    generalize m.natAbs = n at hfits hvalue ⊢
    simp [Numeral.number, digits?_decimalDigits, hm, hfits, hvalue]
  · have hfits : m.natAbs < 0x10000000000000000 := by omega
    have hvalue : (m.natAbs : ℤ) = m := by omega
    generalize m.natAbs = n at hfits hvalue ⊢
    simp [Numeral.number, digits?_decimalDigits, hm, hfits, hvalue]

/-- The digits of a number are read up to what ends it. -/
theorem reads_decimalDigits {e : Fault} {m : ℕ} (h : c.rest = decimalDigits m ++ rest)
    (hrest : Ends rest) :
    c.rest.head? = some '0' ∧ decimalDigits m = ['0'] ∧ c.next = c.skip (decimalDigits m).length ∨
      c.rest.head? ≠ some '0' ∧
        Reads (readDigits e) c (decimalDigits m) (c.skip (decimalDigits m).length) := by
  by_cases hm : m = 0
  · have hzero : decimalDigits m = ['0'] := by
      rw [hm, decimalDigits]
      rfl
    left
    rw [h, hzero]
    exact ⟨rfl, rfl, rfl⟩
  · right
    obtain ⟨d, hd, _, hzero⟩ := head?_decimalDigits m rest
    refine ⟨fun hhead => hm (hzero ?_), reads_readDigits.mpr ⟨?_, decimalDigits_ne_nil m, rfl⟩⟩
    · simpa [h, hd] using hhead
    · rw [h, takeWhile_digits m hrest]

/-- A whole number is read as it was written. -/
theorem reads_ofInt {m : ℤ} (hm : IsWord m) (h : c.rest = (ofInt m).toList ++ rest)
    (hrest : Ends rest) : ∃ c', Reads readNumber c (.whole m) c' ∧ c'.rest = rest := by
  obtain ⟨c₁, hsign, h₁⟩ : ∃ c₁, (c.rest.head? = some '-' ∧ decide (m < 0) = true ∧ c.next = c₁ ∨
      c.rest.head? ≠ some '-' ∧ decide (m < 0) = false ∧ c = c₁) ∧
      c₁.rest = decimalDigits m.natAbs ++ rest := by
    rw [toList_ofInt] at h
    split_ifs at h with hneg
    · exact ⟨c.next, .inl ⟨by simp [h], by simpa using hneg, rfl⟩, by simp [Cursor.rest_next, h]⟩
    · obtain ⟨d, hd, hdigit, _⟩ := head?_decimalDigits m.natAbs rest
      refine ⟨c, .inr ⟨fun hminus => ?_, by simpa using hneg, rfl⟩, by simpa using h⟩
      obtain rfl : d = '-' := by simpa [h, hd] using hminus
      cases hdigit
  have hbehind : (c₁.skip (decimalDigits m.natAbs).length).rest = rest := by
    simp [Cursor.rest_skip, h₁]
  have hnot {ch : Char} (hch : ch ≠ ',' ∧ ch ≠ ']' ∧ ch ≠ '\x7d') : rest.head? ≠ some ch :=
    fun hd => by simpa [hch] using hrest ch hd
  refine ⟨_, reads_bind.mpr ⟨_, _, reads_readNumeral hsign (reads_decimalDigits h₁ hrest) ?_ ?_ ?_,
    by simp [number_of_word hm]⟩, hbehind⟩
  · rw [hbehind]
    exact hrest.not_digit
  · rw [hbehind]
    exact hnot (by decide)
  · simp [readExponent, hbehind, hnot (show 'e' ≠ ',' ∧ 'e' ≠ ']' ∧ 'e' ≠ '\x7d' by decide),
      hnot (show 'E' ≠ ',' ∧ 'E' ≠ ']' ∧ 'E' ≠ '\x7d' by decide)]

/-- The values that are read back: numbers are whole, and brackets are opened at most so deep. -/
inductive Fits : ℕ → Json → Prop
  | null (n : ℕ) : Fits n .null
  | bool (n : ℕ) (b : Bool) : Fits n (.bool b)
  | num (n : ℕ) {m : ℤ} (h : IsWord m) : Fits n (.num (.whole m))
  | str (n : ℕ) (s : String) : Fits n (.str s)
  | arr {n : ℕ} {items : List Json} (h : ∀ j ∈ items, Fits n j) : Fits (n + 1) (.arr items)
  | obj {n : ℕ} {fields : Fields} (h : ∀ f ∈ fields, Fits n f.2) : Fits (n + 1) (.obj fields)

theorem toList_render_num (m : ℤ) : (num (.whole m)).render.toList = (ofInt m).toList := by
  rw [render, Number.text]

theorem head?_ofInt (m : ℤ) (rest : List Char) :
    ∃ ch, ((ofInt m).toList ++ rest).head? = some ch ∧ (ch = '-' || ch.isDigit) = true := by
  rw [toList_ofInt]
  split_ifs
  · exact ⟨'-', by simp, by decide⟩
  · obtain ⟨d, hd, hdigit, _⟩ := head?_decimalDigits m.natAbs rest
    exact ⟨d, by simpa using hd, by simp [hdigit]⟩

/-- A value begins with a character that is neither a blank nor the end of an array. -/
theorem head?_render (h : Fits n j) (rest : List Char) :
    ∃ ch, (j.render.toList ++ rest).head? = some ch ∧ Cursor.isBlank ch = false ∧ ch ≠ ']' := by
  cases h with
  | null => exact ⟨'n', by simp [render], by decide, by decide⟩
  | bool _ b => cases b <;> exact ⟨_, by simp [render]; rfl, by decide, by decide⟩
  | @num _ m h =>
    obtain ⟨ch, hch, hlead⟩ := head?_ofInt m rest
    refine ⟨ch, by rwa [toList_render_num], ?_, ?_⟩
    · simp only [Cursor.isBlank, Bool.or_eq_false_iff, decide_eq_false_iff_not]
      refine ⟨⟨⟨?_, ?_⟩, ?_⟩, ?_⟩ <;> rintro rfl <;> cases hlead
    · rintro rfl
      cases hlead
  | str => exact ⟨'"', by simp [render, toList_writeString], by decide, by decide⟩
  | arr => exact ⟨'[', by simp [render], by decide, by decide⟩
  | obj => exact ⟨'\x7b', by simp [render], by decide, by decide⟩

theorem past_of_head? {ch : Char} (h : c.rest.head? = some ch) (hch : Cursor.isBlank ch = false) :
    c.past = c := by
  refine Cursor.past_eq_self fun d hd => ?_
  obtain rfl : ch = d := by simpa [h] using hd
  exact hch

/-- The text of a value is read as that value up to its end. -/
def ReadBack (n : ℕ) (j : Json) : Prop :=
  ∀ c rest, c.rest = j.render.toList ++ rest → Ends rest → c.Valid → n ≤ c.levels →
    ∃ c', Reads (readValueFrom (n + 1)) c j c' ∧ c'.rest = rest

/-- The text of a member is met where it begins, and behind it the next one is met. -/
theorem ReadBack.member (hj : ReadBack n j) (hfits : Fits n j)
    (h : c.rest = j.render.toList ++ rest) (hrest : Ends rest) (hc : c.Valid) (hl : n ≤ c.levels) :
    c.past = c ∧ (∃ ch, c.rest.head? = some ch ∧ ch ≠ ']') ∧
      ∃ c', Reads (readValueFrom (n + 1)) c j c' ∧ c'.rest = rest ∧ c'.Valid ∧ n ≤ c'.levels := by
  obtain ⟨ch, hhead, hblank, hne⟩ := head?_render hfits rest
  rw [← h] at hhead
  obtain ⟨c', hread, hend⟩ := hj c rest h hrest hc hl
  have hpass := passes_value hread hc
  exact ⟨past_of_head? hhead hblank, ⟨ch, hhead, hne⟩, c', hread, hend, hc.passes hpass,
    hpass.levels_eq.symm ▸ hl⟩

/-! Items of arrays. -/

/-- Items behind the first one, each behind a comma. -/
def furtherItems (items : List Json) : List Char := items.flatMap fun j => ',' :: j.render.toList

theorem toList_renderItems (j : Json) (items : List Json) :
    (renderItems (j :: items)).toList = j.render.toList ++ furtherItems items := by
  induction items generalizing j with
  | nil => simp [renderItems, furtherItems]
  | cons k items ih => simp [renderItems, ih, furtherItems]

theorem ends_furtherItems (items : List Json) (rest : List Char) :
    Ends (furtherItems items ++ ']' :: rest) := by
  intro ch hch
  cases items with
  | nil => exact .inr (.inl (by simpa [furtherItems, eq_comm] using hch))
  | cons => exact .inl (by simpa [furtherItems, eq_comm] using hch)

theorem items_stop {item : Reader Json} {first : Bool} (h : c.rest = ']' :: rest) :
    ∃ c', Items item first c [] c' ∧ c'.rest = rest := by
  have hhead : c.rest.head? = some ']' := by rw [h, List.head?_cons]
  have hpast : c.past = c := past_of_head? hhead (by decide)
  refine ⟨c.past.next, .stop (reads_nextItem_false.mpr ⟨by rw [hpast, hhead], rfl⟩), ?_⟩
  rw [hpast, Cursor.rest_next, h, List.tail_cons]

theorem reads_furtherItems {items : List Json} (h : ∀ j ∈ items, Fits n j ∧ ReadBack n j)
    (hc : c.rest = furtherItems items ++ ']' :: rest) (hv : c.Valid) (hl : n ≤ c.levels) :
    ∃ c', Items (readValueFrom (n + 1)) false c items c' ∧ c'.rest = rest := by
  induction items generalizing c with
  | nil => exact items_stop hc
  | cons j items ih =>
    obtain ⟨⟨hfits, hj⟩, hitems⟩ := List.forall_mem_cons.mp h
    have hcomma : c.rest.head? = some ',' := by simp [hc, furtherItems]
    have hpast : c.past = c := past_of_head? hcomma (by decide)
    have hnext : c.next.rest = j.render.toList ++ (furtherItems items ++ ']' :: rest) := by
      simp [Cursor.rest_next, hc, furtherItems]
    obtain ⟨hpast', hhead, c₁, hread, hrest, hv₁, hl₁⟩ :=
      hj.member hfits hnext (ends_furtherItems items rest) hv.next (by simpa using hl)
    have hmore : Reads (nextItem false) c true c.next :=
      reads_nextItem_true.mpr
        ⟨.inr ⟨rfl, by rw [hpast, hcomma], by rw [hpast, hpast']⟩, hhead⟩
    obtain ⟨c', hgo, hend⟩ := ih hitems hrest hv₁ hl₁
    exact ⟨c', .item hmore hread hgo, hend⟩

theorem reads_renderItems {items : List Json} (h : ∀ j ∈ items, Fits n j ∧ ReadBack n j)
    (hc : c.rest = (renderItems items).toList ++ ']' :: rest) (hv : c.Valid) (hl : n ≤ c.levels) :
    ∃ c', Items (readValueFrom (n + 1)) true c items c' ∧ c'.rest = rest := by
  cases items with
  | nil => exact items_stop (by simpa [renderItems] using hc)
  | cons j items =>
    obtain ⟨⟨hfits, hj⟩, hitems⟩ := List.forall_mem_cons.mp h
    rw [toList_renderItems, List.append_assoc] at hc
    obtain ⟨hpast, hhead, c₁, hread, hrest, hv₁, hl₁⟩ :=
      hj.member hfits hc (ends_furtherItems items rest) hv hl
    obtain ⟨c', hgo, hend⟩ := reads_furtherItems hitems hrest hv₁ hl₁
    exact ⟨c', .item (reads_nextItem_true.mpr ⟨.inl ⟨rfl, hpast⟩, hhead⟩) hread hgo, hend⟩

/-! Fields of objects. -/

/-- A field as it is written. -/
def writtenField (f : String × Json) : List Char :=
  (writeString f.1).toList ++ ':' :: f.2.render.toList

/-- Fields behind the first one, each behind a comma. -/
def furtherFields (fields : Fields) : List Char := fields.flatMap fun f => ',' :: writtenField f

theorem toList_renderFields (f : String × Json) (fields : Fields) :
    (renderFields (f :: fields)).toList = writtenField f ++ furtherFields fields := by
  induction fields generalizing f with
  | nil => simp [renderFields, furtherFields, writtenField]
  | cons g fields ih => simp [renderFields, ih, furtherFields, writtenField]

theorem ends_furtherFields (fields : Fields) (rest : List Char) :
    Ends (furtherFields fields ++ '\x7d' :: rest) := by
  intro ch hch
  cases fields with
  | nil => exact .inr (.inr (by simpa [furtherFields, eq_comm] using hch))
  | cons => exact .inl (by simpa [furtherFields, eq_comm] using hch)

theorem members_stop {value : Reader Json} {first : Bool} (h : c.rest = '\x7d' :: rest) :
    ∃ c', Members value first c [] c' ∧ c'.rest = rest := by
  have hhead : c.rest.head? = some '\x7d' := by rw [h, List.head?_cons]
  have hpast : c.past = c := past_of_head? hhead (by decide)
  refine ⟨c.past.next, .stop (reads_nextKey?_none.mpr ⟨by rw [hpast, hhead], rfl⟩), ?_⟩
  rw [hpast, Cursor.rest_next, h, List.tail_cons]

/-- A field is read from its name on. -/
theorem reads_writtenField {f : String × Json} (hfits : Fits n f.2) (hf : ReadBack n f.2)
    (h : c.rest = writtenField f ++ rest) (hrest : Ends rest) (hc : c.Valid) (hl : n ≤ c.levels) :
    c.past = c ∧ c.rest.head? = some '"' ∧ ∃ c₁ c₂ c', Reads readString c f.1 c₁ ∧
      Reads readColon c₁ () c₂ ∧ Reads (readValueFrom (n + 1)) c₂ f.2 c' ∧ c'.rest = rest ∧
        c'.Valid ∧ n ≤ c'.levels := by
  rw [writtenField, List.append_assoc, List.cons_append] at h
  have hquote : c.rest.head? = some '"' := by simp [h, toList_writeString]
  obtain ⟨c₁, hname, hcolon⟩ := reads_writeString h hc
  have hpass := Moves.skipString.passes (passes_string hname hc)
  have hhead : c₁.rest.head? = some ':' := by rw [hcolon, List.head?_cons]
  have hpast : c₁.past = c₁ := past_of_head? hhead (by decide)
  have hnext : c₁.next.rest = f.2.render.toList ++ rest := by
    rw [Cursor.rest_next, hcolon, List.tail_cons]
  obtain ⟨_, _, c', hread, hend, hv, hl'⟩ := hf.member hfits hnext hrest (hc.passes hpass).next
    (by simpa [hpass.levels_eq] using hl)
  exact ⟨past_of_head? hquote (by decide), hquote, c₁, c₁.next, c', hname,
    reads_readColon.mpr ⟨by rw [hpast, hhead], by rw [hpast]⟩, hread, hend, hv, hl'⟩

theorem reads_furtherFields {fields : Fields} (h : ∀ f ∈ fields, Fits n f.2 ∧ ReadBack n f.2)
    (hc : c.rest = furtherFields fields ++ '\x7d' :: rest) (hv : c.Valid) (hl : n ≤ c.levels) :
    ∃ c', Members (readValueFrom (n + 1)) false c fields c' ∧ c'.rest = rest := by
  induction fields generalizing c with
  | nil => exact members_stop hc
  | cons f fields ih =>
    obtain ⟨⟨hfits, hf⟩, hfields⟩ := List.forall_mem_cons.mp h
    have hcomma : c.rest.head? = some ',' := by simp [hc, furtherFields]
    have hpast : c.past = c := past_of_head? hcomma (by decide)
    have hnext : c.next.rest = writtenField f ++ (furtherFields fields ++ '\x7d' :: rest) := by
      simp [Cursor.rest_next, hc, furtherFields]
    obtain ⟨hpast', hquote, c₁, c₂, c₃, hname, hcolon, hread, hrest, hv₁, hl₁⟩ :=
      reads_writtenField hfits hf hnext (ends_furtherFields fields rest) hv.next (by simpa using hl)
    have hmore : Reads (nextKey? false) c (some f.1) c₁ :=
      reads_nextKey?_some.mpr
        ⟨c.next, .inr ⟨rfl, by rw [hpast, hcomma], by rw [hpast, hpast']⟩, hquote, hname⟩
    obtain ⟨c', hgo, hend⟩ := ih hfields hrest hv₁ hl₁
    exact ⟨c', .member hmore hcolon hread hgo, hend⟩

theorem reads_renderFields {fields : Fields} (h : ∀ f ∈ fields, Fits n f.2 ∧ ReadBack n f.2)
    (hc : c.rest = (renderFields fields).toList ++ '\x7d' :: rest) (hv : c.Valid)
    (hl : n ≤ c.levels) :
    ∃ c', Members (readValueFrom (n + 1)) true c fields c' ∧ c'.rest = rest := by
  cases fields with
  | nil => exact members_stop (by simpa [renderFields] using hc)
  | cons f fields =>
    obtain ⟨⟨hfits, hf⟩, hfields⟩ := List.forall_mem_cons.mp h
    rw [toList_renderFields, List.append_assoc] at hc
    obtain ⟨hpast, hquote, c₁, c₂, c₃, hname, hcolon, hread, hrest, hv₁, hl₁⟩ :=
      reads_writtenField hfits hf hc (ends_furtherFields fields rest) hv hl
    obtain ⟨c', hgo, hend⟩ := reads_furtherFields hfields hrest hv₁ hl₁
    have hmore : Reads (nextKey? true) c (some f.1) c₁ :=
      reads_nextKey?_some.mpr ⟨c, .inl ⟨rfl, hpast⟩, hquote, hname⟩
    exact ⟨c', .member hmore hcolon hread hgo, hend⟩

theorem reads_word {word : List Char} (h : c.rest = word ++ rest) :
    ∃ c', Reads (readWord word ()) c () c' ∧ c'.rest = rest := by
  induction word generalizing c with
  | nil => exact ⟨c, by simp [readWord], h⟩
  | cons w word ih =>
    obtain ⟨c', hread, hrest⟩ := ih (c := c.next) (by simp [Cursor.rest_next, h])
    exact ⟨c', by simpa [readWord, h] using hread, hrest⟩

/-- Of the text within brackets, each item takes at least one character. -/
theorem length_le_renderItems {items : List Json} (h : ∀ j ∈ items, Fits n j) :
    items.length ≤ (renderItems items).toList.length := by
  have hfurther (items : List Json) : items.length ≤ (furtherItems items).length := by
    induction items with
    | nil => exact Nat.le_refl _
    | cons j items ih => simp [furtherItems] at ih ⊢; omega
  cases items with
  | nil => exact Nat.zero_le _
  | cons j items =>
    obtain ⟨ch, hch, _⟩ := head?_render (h j List.mem_cons_self) []
    have hpos : 0 < j.render.toList.length := by
      rw [List.append_nil] at hch
      exact List.length_pos_of_mem (List.mem_of_mem_head? hch)
    have hle := hfurther items
    rw [toList_renderItems, List.length_append, List.length_cons]
    omega

theorem length_le_renderFields (fields : Fields) :
    fields.length ≤ (renderFields fields).toList.length := by
  have hfurther (fields : Fields) : fields.length ≤ (furtherFields fields).length := by
    induction fields with
    | nil => exact Nat.le_refl _
    | cons f fields ih => simp [furtherFields] at ih ⊢; omega
  cases fields with
  | nil => exact Nat.zero_le _
  | cons f fields =>
    have hle := hfurther fields
    rw [toList_renderFields, List.length_append, List.length_cons]
    simp only [writtenField, List.length_append, List.length_cons]
    omega

/-- A value that is one of the words `null`, `true` and `false`. -/
theorem readBack_word {ch : Char} {word : List Char} (hrender : j.render.toList = ch :: word)
    (hch : Cursor.isBlank ch = false)
    (hvalue : ∀ c c', c.rest.head? = some ch → Reads (readWord word ()) c.next () c' →
      ValueAt n c j c') : ReadBack n j := by
  intro c rest h _ hc _
  have hhead : c.rest.head? = some ch := by simp [h, hrender]
  have hpast : c.past = c := past_of_head? hhead hch
  have hword : c.next.rest = word ++ rest := by simp [Cursor.rest_next, h, hrender]
  obtain ⟨c', hread, hrest⟩ := reads_word hword
  exact ⟨c', reads_readValueFrom.mpr (hpast.symm ▸ hvalue c c' hhead hread), hrest⟩

theorem readBack_num {m : ℤ} (hm : IsWord m) : ReadBack n (.num (.whole m)) := by
  intro c rest h hends hc _
  obtain ⟨ch, hch, hblank, _⟩ := head?_render (Fits.num n hm) rest
  obtain ⟨_, hch', hlead⟩ := head?_ofInt _ rest
  rw [← h] at hch
  rw [toList_render_num] at h
  rw [← h, hch, Option.some_inj] at hch'
  subst hch'
  have hpast : c.past = c := past_of_head? hch hblank
  obtain ⟨c', hread, hrest⟩ := reads_ofInt hm h hends
  exact ⟨c', reads_readValueFrom.mpr (hpast.symm ▸ .num hch hlead hread), hrest⟩

theorem readBack_str (s : String) : ReadBack n (.str s) := by
  intro c rest h hends hc _
  have hhead : c.rest.head? = some '"' := by simp [h, render, toList_writeString]
  have hpast : c.past = c := past_of_head? hhead (by decide)
  obtain ⟨c', hread, hrest⟩ := reads_writeString (by rwa [render] at h) hc
  exact ⟨c', reads_readValueFrom.mpr (hpast.symm ▸ .str hhead hread), hrest⟩

theorem readBack_arr {items : List Json} (hfits : ∀ j ∈ items, Fits n j)
    (hitems : ∀ j ∈ items, ReadBack n j) : ReadBack (n + 1) (.arr items) := by
  intro c rest h hends hc hl
  have hhead : c.rest.head? = some '[' := by simp [h, render]
  have hpast : c.past = c := past_of_head? hhead (by decide)
  have hinside : c.inside.rest = (renderItems items).toList ++ ']' :: rest := by
    simp [Cursor.inside, Cursor.rest_next, h, render]
  obtain ⟨c', hread, hrest⟩ := reads_renderItems (fun j hj => ⟨hfits j hj, hitems j hj⟩) hinside
    hc.inside (Nat.le_sub_one_of_lt hl)
  have hlt : items.length < c.bound := calc
    items.length ≤ (renderItems items).toList.length := length_le_renderItems hfits
    _ ≤ c.inside.rest.length := by rw [hinside, List.length_append]; exact Nat.le_add_right _ _
    _ < c.inside.bound := hc.inside
    _ = c.bound := Cursor.bound_next c
  have hvalue : ValueAt (n + 1) c (.arr items) (c'.within c.levels) :=
    .arr hhead (by omega) hlt hread
  exact ⟨c'.within c.levels, reads_readValueFrom.mpr (hpast.symm ▸ hvalue), hrest⟩

theorem readBack_obj {fields : Fields} (hfits : ∀ f ∈ fields, Fits n f.2)
    (hfields : ∀ f ∈ fields, ReadBack n f.2) : ReadBack (n + 1) (.obj fields) := by
  intro c rest h hends hc hl
  have hhead : c.rest.head? = some '\x7b' := by simp [h, render]
  have hpast : c.past = c := past_of_head? hhead (by decide)
  have hinside : c.inside.rest = (renderFields fields).toList ++ '\x7d' :: rest := by
    simp [Cursor.inside, Cursor.rest_next, h, render]
  obtain ⟨c', hread, hrest⟩ := reads_renderFields (fun f hf => ⟨hfits f hf, hfields f hf⟩) hinside
    hc.inside (Nat.le_sub_one_of_lt hl)
  have hlt : fields.length < c.bound := calc
    fields.length ≤ (renderFields fields).toList.length := length_le_renderFields fields
    _ ≤ c.inside.rest.length := by rw [hinside, List.length_append]; exact Nat.le_add_right _ _
    _ < c.inside.bound := hc.inside
    _ = c.bound := Cursor.bound_next c
  have hvalue : ValueAt (n + 1) c (.obj fields) (c'.within c.levels) :=
    .obj hhead (by omega) hlt hread
  exact ⟨c'.within c.levels, reads_readValueFrom.mpr (hpast.symm ▸ hvalue), hrest⟩

theorem readBack (h : Fits n j) : ReadBack n j := by
  induction h with
  | null => exact readBack_word (by simp [render]) (by decide) fun _ _ => .null
  | bool n b =>
    cases b with
    | true => exact readBack_word (by simp [render]) (by decide) fun _ _ => .yes
    | false => exact readBack_word (by simp [render]) (by decide) fun _ _ => .no
  | num n hm => exact readBack_num hm
  | str n s => exact readBack_str s
  | arr hfits ih => exact readBack_arr hfits ih
  | obj hfits ih => exact readBack_obj hfits ih

theorem Fits.mono {m : ℕ} (h : Fits n j) (hm : n ≤ m) : Fits m j := by
  induction h generalizing m with
  | null => exact .null m
  | bool _ b => exact .bool m b
  | num _ h => exact .num m h
  | str _ s => exact .str m s
  | arr _ ih =>
    obtain ⟨m, rfl⟩ : ∃ k, m = k + 1 := ⟨m - 1, by omega⟩
    exact .arr fun j hj => ih j hj (Nat.le_of_succ_le_succ hm)
  | obj _ ih =>
    obtain ⟨m, rfl⟩ : ∃ k, m = k + 1 := ⟨m - 1, by omega⟩
    exact .obj fun f hf => ih f hf (Nat.le_of_succ_le_succ hm)

/-- A value is read from its text. -/
theorem readText_render (h : Fits 127 j) : readText readValue j.render = .ok j := by
  obtain ⟨c', hread, hrest⟩ := readBack h (.start j.render) []
    (by rw [List.append_nil]; rfl) nofun (Cursor.valid_start _) (Nat.le_refl 127)
  refine readText_eq_ok.mpr ⟨c', hread, ?_⟩
  rw [Cursor.rest_past, hrest]
  rfl

end GitDrift.Json
