import GitDrift.Proofs.Reading

/-!
What can be read can be passed. Passing a value goes as far as reading it does, however many
brackets may still be opened.
-/
namespace GitDrift.Json

open Reader

variable {α β : Type} {r x : Reader α} {f : α → Reader β} {c c' d : Cursor} {a : α} {j : Json}
  {first : Bool} {k m n : ℕ}

/-- Reading goes on by some characters, and does so wherever the same text follows. -/
def Moves (r : Reader α) : Prop :=
  ∀ c a c', Reads r c a c' → ∃ k, c.skip k = c' ∧
    ∀ d : Cursor, d.rest = c.rest → d.bound = c.bound → Reads r d a (d.skip k)

theorem Cursor.rest_skip_congr (h : d.rest = c.rest) (k : ℕ) :
    (d.skip k).rest = (c.skip k).rest := by
  rw [Cursor.rest_skip, Cursor.rest_skip, h]

namespace Moves

theorem pure (a : α) : Moves (Pure.pure a) := by
  intro c a' c' h
  obtain ⟨rfl, rfl⟩ := reads_pure.mp h
  exact ⟨0, rfl, fun d _ _ => by simp⟩

theorem fault (e : Fault) : Moves (Reader.fault e : Reader α) := nofun

theorem faultNext (e : Fault) : Moves (Reader.faultNext e : Reader α) := nofun

theorem next : Moves Reader.next := by
  intro c u c' h
  exact ⟨1, reads_next.mp h, fun d _ _ => by simp [Cursor.skip_succ]⟩

theorem head? : Moves Reader.head? := by
  intro c o c' h
  obtain ⟨rfl, rfl⟩ := reads_head?.mp h
  exact ⟨0, rfl, fun d hrest _ => reads_head?.mpr ⟨by rw [hrest], rfl⟩⟩

theorem takeWhile (p : Char → Bool) : Moves (Reader.takeWhile p) := by
  intro c s c' h
  obtain ⟨rfl, rfl⟩ := reads_takeWhile.mp h
  exact ⟨_, rfl, fun d hrest _ => reads_takeWhile.mpr ⟨by rw [hrest], by rw [hrest]⟩⟩

theorem bind (hx : Moves x) (hf : ∀ a, Moves (f a)) : Moves (x >>= f) := by
  intro c b c' h
  obtain ⟨a, c₁, ha, hb⟩ := reads_bind.mp h
  obtain ⟨k, rfl, hk⟩ := hx _ _ _ ha
  obtain ⟨l, rfl, hl⟩ := hf a _ _ _ hb
  refine ⟨k + l, (Cursor.skip_skip k l c).symm, fun d hrest hbound => ?_⟩
  rw [← Cursor.skip_skip]
  exact reads_bind.mpr ⟨a, _, hk d hrest hbound,
    hl _ (Cursor.rest_skip_congr hrest k) (by simpa using hbound)⟩

theorem peek? : Moves Reader.peek? := (takeWhile _).bind fun _ => head?

theorem map {g : α → β} (hx : Moves x) : Moves (g <$> x) := by
  rw [map_eq_pure_bind]
  exact hx.bind fun a => pure (g a)

theorem seqRight {y : Reader β} (hx : Moves x) (hy : Moves y) : Moves (x *> y) := by
  rw [seqRight_eq_bind]
  exact hx.bind fun _ => hy

theorem discard (hx : Moves x) : Moves (discard x) := hx.map

theorem readWord (word : List Char) (a : α) : Moves (Json.readWord word a) := by
  induction word with
  | nil => exact pure a
  | cons w word ih =>
    refine head?.bind fun o => ?_
    cases o with
    | none => exact fault _
    | some ch =>
      dsimp only
      split_ifs
      · exact next.bind fun _ => ih
      · exact (faultNext _).bind fun _ => ih

theorem readUnit : Moves Json.readUnit := by
  intro c n c' h
  unfold Reads Json.readUnit at h
  refine ⟨4, ?_, fun d hrest _ => ?_⟩
  · dsimp only at h
    split at h <;> grind
  · unfold Reads Json.readUnit
    rw [hrest]
    dsimp only at h ⊢
    split at h <;> grind

theorem readEscape {unit : Reader α} {letter : Char → α} (hunit : Moves unit) :
    Moves (Json.readEscape unit letter) := by
  refine head?.bind fun o => ?_
  split
  · exact fault _
  · exact next.bind fun _ => hunit
  · split
    · exact next.bind fun _ => pure _
    · exact faultNext _

theorem skipStringRest (n : ℕ) : Moves (Json.skipStringRest n) := by
  induction n with
  | zero => exact fault _
  | succ n ih =>
    refine (takeWhile _).bind fun _ => head?.bind fun o => ?_
    split
    · exact fault _
    · exact next
    · exact next.bind fun _ => (readEscape readUnit.discard).bind fun _ => ih
    · exact fault _

theorem skipString : Moves Json.skipString := by
  intro c u c' h
  obtain ⟨k, hk, hmove⟩ := next.bind (fun _ => skipStringRest c.bound) _ _ _
    (show Reads (Reader.next >>= fun _ => Json.skipStringRest c.bound) c u c' by
      simpa [Json.skipString] using h)
  refine ⟨k, hk, fun d hrest hbound => ?_⟩
  simpa [Json.skipString, hbound] using hmove d hrest hbound

theorem ite {q : Prop} [Decidable q] {y : Reader α} (hx : Moves x) (hy : Moves y) :
    Moves (if q then x else y) := by
  split_ifs
  · exact hx
  · exact hy

theorem readDigits (e : Fault) : Moves (Json.readDigits e) := by
  refine (takeWhile _).bind fun ds => ite ?_ (pure ds)
  exact head?.bind fun o => ite ((fault e).bind fun _ => pure ds)
    ((faultNext _).bind fun _ => pure ds)

theorem readExponent (e : Fault) : Moves (Json.readExponent e) := by
  refine head?.bind fun o => ite ?_ (pure none)
  refine next.bind fun _ => head?.bind fun sign => ite ?_ ?_
  · exact next.bind fun _ => (readDigits e).bind fun ds => pure _
  · exact (readDigits e).bind fun ds => pure _

theorem readNumeral (e : Fault) : Moves (Json.readNumeral e) := by
  refine head?.bind fun sign => ite (next.bind fun _ => ?_) ?_
  all_goals
    refine head?.bind fun zero => ite ((next.seqRight (pure _)).bind fun whole => ?_)
      ((readDigits e).bind fun whole => ?_)
  all_goals refine head?.bind fun more => ite ((faultNext _).bind fun _ => ?_) ?_
  all_goals
    refine head?.bind fun dot => ite ((next.seqRight (readDigits e)).bind fun fraction => ?_)
      ((pure []).bind fun fraction => ?_)
  all_goals exact (readExponent e).bind fun x => pure _

theorem skipNumber : Moves Json.skipNumber := (readNumeral _).discard

theorem readColon : Moves Json.readColon := by
  refine peek?.bind fun o => ?_
  split
  · exact fault _
  · exact next
  · exact faultNext _

theorem length_rest_le (hr : Moves r) (h : Reads r c a c') : c'.rest.length ≤ c.rest.length := by
  obtain ⟨k, rfl, _⟩ := hr _ _ _ h
  rw [Cursor.rest_skip, List.length_drop]
  exact Nat.sub_le _ _

end Moves

theorem reads_discard : Reads (discard x) c () c' ↔ ∃ a, Reads x c a c' := by
  change Reads ((fun _ => ()) <$> x) c () c' ↔ _
  simp

/-- Digits are read up to the first character that is none. -/
theorem reads_readDigits {e : Fault} {ds : List Char} : Reads (readDigits e) c ds c' ↔
    c.rest.takeWhile Char.isDigit = ds ∧ ds ≠ [] ∧ c.skip ds.length = c' := by
  simp only [readDigits, reads_takeWhile_bind]
  generalize c.rest.takeWhile Char.isDigit = digits
  cases digits with
  | nil => simpa using fun h hne => absurd h hne
  | cons d digits =>
    simp only [List.isEmpty_cons, Bool.false_eq_true, if_false, reads_pure]
    refine and_congr_right fun h => ?_
    simp [← h]

/-- A number is passed as it is read. -/
theorem passes_number {m : Number} (h : Reads readNumber c m c') : Reads skipNumber c () c' := by
  obtain ⟨numeral, c₁, hn, h⟩ := reads_bind.mp h
  have hend : c₁ = c' := by
    split at h
    · exact (reads_pure.mp h).2
    · cases h
  refine reads_discard.mpr ⟨numeral, ?_⟩
  rw [← hend]
  simpa [readNumeral, readExponent, reads_readDigits] using hn

/-- Passes an escape behind its backslash. -/
abbrev skipEscape : Reader Unit := readEscape (discard readUnit) fun _ => ()

@[simp] theorem reads_readPairMark {mark : Char} {u : Unit} :
    Reads (readPairMark mark) c u c' ↔ c.rest.head? = some mark ∧ c.next = c' := by
  simp only [readPairMark, reads_head?_bind]
  cases c.rest.head? <;> simp

/-- An escape is passed as it is read, or it is a pair and is passed as two. -/
theorem passes_escape {ch : Char} (h : Reads (readEscape readCodePoint id) c ch c') :
    Reads skipEscape c () c' ∨
      ∃ c₁, Reads skipEscape c () c₁ ∧ c₁.rest.head? = some '\\' ∧
        Reads skipEscape c₁.next () c' := by
  simp only [skipEscape, readEscape, reads_head?_bind] at h ⊢
  split at h
  · simp at h
  · obtain ⟨hi, c₁, hhi, h⟩ := reads_bind.mp (reads_next_bind.mp h)
    rcases reads_ite.mp h with ⟨_, h⟩ | ⟨_, h⟩
    · obtain ⟨_, rfl⟩ := reads_pure.mp h
      exact .inl (by simpa [reads_discard] using ⟨hi, hhi⟩)
    · obtain ⟨_, h⟩ := (reads_ite.mp h).resolve_left fun h => not_reads_fault_bind _ h.2
      obtain ⟨_, _, hmark, h⟩ := reads_bind.mp h
      obtain ⟨hslash, rfl⟩ := reads_readPairMark.mp hmark
      obtain ⟨_, _, hmark, h⟩ := reads_bind.mp h
      obtain ⟨hu, rfl⟩ := reads_readPairMark.mp hmark
      obtain ⟨lo, c₂, hlo, h⟩ := reads_bind.mp h
      obtain ⟨_, h⟩ := (reads_ite.mp h).resolve_left fun h => not_reads_fault_bind _ h.2
      obtain ⟨_, rfl⟩ := reads_pure.mp h
      exact .inr ⟨c₁, by simpa [reads_discard] using ⟨hi, hhi⟩, hslash, by
        simpa [hu, reads_discard] using ⟨lo, hlo⟩⟩
  · left
    split at h <;> simp_all

theorem skipStringRest_of_escape (hslash : c.rest.head? = some '\\') {c₁ : Cursor}
    (hescape : Reads skipEscape c.next () c₁) (h : Reads (skipStringRest n) c₁ () c') :
    Reads (skipStringRest (n + 1)) c () c' := by
  obtain ⟨rest, hrest⟩ : ∃ rest, c.rest = '\\' :: rest := by
    cases hc : c.rest <;> simp_all
  have hplain : c.rest.takeWhile isPlain = [] := by
    rw [hrest]
    exact List.takeWhile_cons_of_neg (by decide)
  simp only [skipStringRest, reads_takeWhile_bind, reads_head?_bind, hplain, List.length_nil,
    Cursor.skip_zero, hslash, reads_next_bind]
  exact reads_bind.mpr ⟨(), c₁, hescape, h⟩

/-- A string is passed as it is read. -/
theorem passes_stringRest {acc : List Char} {s : String} (h : Reads (readStringFrom n acc) c s c')
    (hm : c.rest.length < m) : Reads (skipStringRest m) c () c' := by
  induction n generalizing acc c m with
  | zero => simp [readStringFrom] at h
  | succ n ih =>
    obtain ⟨m, rfl⟩ : ∃ k, m = k + 1 := ⟨m - 1, by omega⟩
    have hmoves : Moves skipEscape := Moves.readEscape Moves.readUnit.discard
    simp only [readStringFrom, skipStringRest, reads_takeWhile_bind, reads_head?_bind] at h ⊢
    split at h
    · simp at h
    · simp_all
    · rename_i hslash
      have hlength := Cursor.length_rest_next hslash
      rw [Cursor.rest_skip, List.length_drop] at hlength
      obtain ⟨ch, c₁, hescape, h⟩ := reads_bind.mp (reads_next_bind.mp h)
      simp only [reads_next_bind]
      rcases passes_escape hescape with hpass | ⟨c₂, hpass, hslash', hpass'⟩
      · have hle := hmoves.length_rest_le hpass
        exact reads_bind.mpr ⟨(), c₁, hpass, ih h (by omega)⟩
      · -- the second half of a pair takes a round of its own
        have hle := hmoves.length_rest_le hpass
        have hle' := hmoves.length_rest_le hpass'
        have hlength' := Cursor.length_rest_next hslash'
        obtain ⟨m, rfl⟩ : ∃ k, m = k + 1 := ⟨m - 1, by omega⟩
        exact reads_bind.mpr ⟨(), c₂, hpass,
          skipStringRest_of_escape hslash' hpass' (ih h (by omega))⟩
    · simp at h

theorem passes_string {s : String} (h : Reads readString c s c') (hc : c.Valid) :
    Reads skipString c () c' := by
  simp only [readString, skipString, reads_next_bind, reads_get_bind] at h ⊢
  exact passes_stringRest h (by
    have hle := Cursor.length_rest_next_le c
    have hlt : c.rest.length < c.bound := hc
    rw [Cursor.bound_next]
    omega)

/-- A reader goes from one cursor to another, and as far wherever the same text follows. -/
def Passes (pass : Reader Unit) (c c' : Cursor) : Prop :=
  ∃ k, c.skip k = c' ∧
    ∀ d : Cursor, d.rest = c.rest → d.bound = c.bound → Reads pass d () (d.skip k)

theorem Moves.passes {pass : Reader Unit} (hp : Moves pass) (h : Reads pass c () c') :
    Passes pass c c' :=
  hp _ _ _ h

namespace Passes

variable {pass then_ : Reader Unit} {c₁ : Cursor}

theorem length_rest_le (h : Passes pass c c') : c'.rest.length ≤ c.rest.length := by
  obtain ⟨k, rfl, _⟩ := h
  rw [Cursor.rest_skip, List.length_drop]
  exact Nat.sub_le _ _

theorem reads (h : Passes pass c c') : Reads pass c () c' := by
  obtain ⟨k, rfl, hk⟩ := h
  exact hk c rfl rfl

theorem bound_eq (h : Passes pass c c') : c'.bound = c.bound := by
  obtain ⟨k, rfl, _⟩ := h
  exact Cursor.bound_skip k c

theorem levels_eq (h : Passes pass c c') : c'.levels = c.levels := by
  obtain ⟨k, rfl, _⟩ := h
  exact Cursor.levels_skip k c

theorem pure (c : Cursor) : Passes (Pure.pure ()) c c := (Moves.pure ()).passes (by simp)

theorem next (c : Cursor) : Passes Reader.next c c.next := Moves.next.passes (by simp)

theorem bind (h : Passes pass c c₁) (h' : Passes then_ c₁ c') :
    Passes (pass >>= fun _ => then_) c c' := by
  obtain ⟨k, rfl, hk⟩ := h
  obtain ⟨l, rfl, hl⟩ := h'
  refine ⟨k + l, (Cursor.skip_skip k l c).symm, fun d hrest hbound => ?_⟩
  rw [← Cursor.skip_skip]
  exact reads_bind.mpr ⟨(), _, hk d hrest hbound,
    hl _ (Cursor.rest_skip_congr hrest k) (by simpa using hbound)⟩

theorem seqRight (h : Passes pass c c₁) (h' : Passes then_ c₁ c') :
    Passes (pass *> then_) c c' := by
  rw [seqRight_eq_bind]
  exact h.bind h'

theorem peek {f : Option Char → Reader Unit} (h : Passes (f c.past.rest.head?) c.past c') :
    Passes (peek? >>= f) c c' := by
  obtain ⟨k, hk, hpass⟩ := h
  refine ⟨(c.rest.takeWhile Cursor.isBlank).length + k, ?_, fun d hrest hbound => ?_⟩
  · rw [← Cursor.skip_skip]
    exact hk
  · have hpast : d.past = d.skip (c.rest.takeWhile Cursor.isBlank).length := by
      rw [Cursor.past, hrest]
    rw [← Cursor.skip_skip, ← hpast, reads_peek?_bind]
    have hsame : d.past.rest = c.past.rest := by rw [Cursor.rest_past, Cursor.rest_past, hrest]
    rw [hsame]
    exact hpass _ hsame (by simpa using hbound)

theorem bound {f : ℕ → Reader Unit} (h : Passes (f c.bound) c c') :
    Passes (get >>= fun s => f s.bound) c c' := by
  obtain ⟨k, hk, hpass⟩ := h
  exact ⟨k, hk, fun d hrest hbound => by simpa [hbound] using hpass d hrest hbound⟩

/-- How many brackets may be opened does not matter. -/
theorem within (h : Passes pass c c') (l : ℕ) : Passes pass (c.within l) (c'.within l) := by
  obtain ⟨k, rfl, hk⟩ := h
  exact ⟨k, Cursor.skip_within l k c, fun d hrest hbound => hk d hrest hbound⟩

end Passes

/-- Members are passed one after another, with commas between them, up to a closing bracket. -/
inductive Rounds (b : Brackets) (member : Reader Unit) : Bool → ℕ → Cursor → Cursor → Prop
  | stop {first : Bool} {c : Cursor} (h : c.past.rest.head? = some b.close) :
      Rounds b member first 0 c c.past.next
  | begin {n : ℕ} {c c₁ c' : Cursor} {ch : Char} (h : c.past.rest.head? = some ch)
      (hch : ch ≠ b.close) (hm : Passes member c.past c₁) (hrest : Rounds b member false n c₁ c') :
      Rounds b member true (n + 1) c c'
  | more {n : ℕ} {c c₁ c' : Cursor} (h : c.past.rest.head? = some ',')
      (hm : Passes member c.past.next c₁) (hrest : Rounds b member false n c₁ c') :
      Rounds b member false (n + 1) c c'

section Rounds

variable {b : Brackets} {member : Reader Unit}

theorem Rounds.within (h : Rounds b member first k c c') (l : ℕ) :
    Rounds b member first k (c.within l) (c'.within l) := by
  induction h with
  | stop h =>
    rw [← Cursor.next_within, ← Cursor.past_within]
    exact .stop (by rwa [Cursor.past_within])
  | begin h hch hm _ ih =>
    have hm := hm.within l
    rw [← Cursor.past_within] at hm
    exact .begin (by rwa [Cursor.past_within]) hch hm ih
  | more h hm _ ih =>
    have hm := hm.within l
    rw [← Cursor.next_within, ← Cursor.past_within] at hm
    exact .more (by rwa [Cursor.past_within]) hm ih

theorem passes_skipMembersFrom {c₁ : Cursor} (hm : Passes member c c₁)
    (h : Rounds b member false k c₁ c') (hk : k < n) (hb : b.close ≠ ',') :
    Passes (skipMembersFrom b member n) c c' := by
  induction n generalizing k c c₁ with
  | zero => omega
  | succ n ih =>
    refine hm.bind (.peek ?_)
    cases h with
    | stop h =>
      simp only [h, ne_eq, not_true_eq_false, decide_false, Bool.and_false, Bool.false_eq_true,
        if_false, hb]
      exact (Passes.next _).bind (.pure _)
    | more h hm hrest =>
      simp only [h, ne_eq, not_true_eq_false, decide_false, Bool.false_and, Bool.false_eq_true,
        if_false, if_true]
      exact (Passes.next _).bind (ih hm hrest (by omega))

/-- Brackets are passed with the members within them. -/
theorem passes_skipMembers (h : Rounds b member true k c.inside c') (hk : k < c.bound)
    (hb : b.close ≠ ',') : Passes (skipMembers b member) c (c'.within c.levels) := by
  have hnext : c.inside.within c.levels = c.next := by
    rw [Cursor.inside, Cursor.within_within, ← Cursor.levels_next, Cursor.within_levels]
  have hrounds := h.within c.levels
  rw [hnext] at hrounds
  refine (Passes.next c).bind (.peek ?_)
  generalize c'.within c.levels = c' at hrounds ⊢
  cases hrounds with
  | stop h =>
    simp only [h, if_true]
    exact .next _
  | begin h hch hm hrest =>
    simp only [h, hch, if_false]
    exact .bound (passes_skipMembersFrom hm hrest (by simpa using Nat.lt_of_succ_lt hk) hb)

end Rounds

theorem Cursor.Valid.of_le (h : c.Valid) (hle : c'.rest.length ≤ c.rest.length)
    (hb : c'.bound = c.bound) : c'.Valid := by
  unfold Cursor.Valid at h ⊢
  omega

theorem Cursor.Valid.past (h : c.Valid) : c.past.Valid := h.of_le c.length_rest_past_le (by simp)

theorem Cursor.Valid.next (h : c.Valid) : c.next.Valid := h.of_le c.length_rest_next_le (by simp)

theorem Cursor.Valid.passes {pass : Reader Unit} (h : c.Valid) (hp : Passes pass c c') : c'.Valid :=
  h.of_le hp.length_rest_le hp.bound_eq

/-- So few characters are left that fuel for them is enough. -/
def Cursor.Within (m : ℕ) (c : Cursor) : Prop := c.rest.length < m ∧ c.Valid

namespace Cursor.Within

theorem of_le (h : c.Within m) (hle : c'.rest.length ≤ c.rest.length) (hb : c'.bound = c.bound) :
    c'.Within m := by
  exact ⟨Nat.lt_of_le_of_lt hle h.1, h.2.of_le hle hb⟩

theorem past (h : c.Within m) : c.past.Within m := h.of_le c.length_rest_past_le (by simp)

theorem next (h : c.Within m) : c.next.Within m := h.of_le c.length_rest_next_le (by simp)

theorem passes {pass : Reader Unit} (h : c.Within m) (hp : Passes pass c c') : c'.Within m :=
  h.of_le hp.length_rest_le hp.bound_eq

/-- Within brackets there is less. -/
theorem inside {ch : Char} (h : c.Within (m + 1)) (hhead : c.rest.head? = some ch) :
    c.inside.Within m := by
  have hlength := length_rest_next hhead
  unfold Cursor.Within Cursor.Valid at h ⊢
  simp only [Cursor.inside, rest_within, bound_within, bound_next]
  omega

end Cursor.Within

/-- What is read as a value is passed with so much fuel. -/
def Passed (n m : ℕ) : Prop :=
  ∀ c j c', Reads (readValueFrom n) c j c' → c.Within m → Passes (skipValueFrom m) c c'

theorem rounds_of_items {items : List Json} (hpass : Passed n m)
    (h : Items (readValueFrom n) first c items c') (hc : c.Within m) :
    Rounds square (skipValueFrom m) first items.length c c' := by
  induction h with
  | stop h =>
    obtain ⟨hhead, rfl⟩ := reads_nextItem_false.mp h
    exact .stop hhead
  | @item first c c₁ c₂ c' j items h ha hrest ih =>
    obtain ⟨⟨rfl, rfl⟩ | ⟨rfl, hcomma, rfl⟩, ch, hhead, hch⟩ := reads_nextItem_true.mp h
    · have hitem := hpass _ _ _ ha hc.past
      exact .begin hhead hch hitem (ih (hc.past.passes hitem))
    · have hitem := hpass _ _ _ (reads_past.mp ha) hc.past.next
      exact .more hcomma hitem (ih (hc.past.next.passes hitem))

theorem passes_skipKey {name : String} {c₁ : Cursor} (h : c.past.rest.head? = some '"')
    (hs : Reads readString c.past name c₁) (hcolon : Reads readColon c₁ () c') (hc : c.past.Valid) :
    Passes skipKey c c' := by
  refine .peek ?_
  rw [h]
  exact (Moves.skipString.passes (passes_string hs hc)).bind (Moves.readColon.passes hcolon)

theorem rounds_of_members {fields : Fields} (hpass : Passed n m)
    (h : Members (readValueFrom n) first c fields c') (hc : c.Within m) :
    Rounds curly (skipKey *> skipValueFrom m) first fields.length c c' := by
  induction h with
  | stop h =>
    obtain ⟨hhead, rfl⟩ := reads_nextKey?_none.mp h
    exact .stop hhead
  | @member first c c₁ c₂ c₃ c' name j fields h hcolon ha hrest ih =>
    obtain ⟨c₀, ⟨rfl, rfl⟩ | ⟨rfl, hcomma, rfl⟩, hhead, hs⟩ := reads_nextKey?_some.mp h
    · have hkey : Passes skipKey c.past c₂ :=
        passes_skipKey (by simpa using hhead) (by simpa using hs) hcolon (by simpa using hc.past.2)
      have hvalue := hpass _ _ _ ha (hc.past.passes hkey)
      have hmember := hkey.seqRight hvalue
      exact .begin hhead (by decide) hmember (ih (hc.past.passes hmember))
    · have hkey : Passes skipKey c.past.next c₂ :=
        passes_skipKey hhead hs hcolon hc.past.next.past.2
      have hvalue := hpass _ _ _ ha (hc.past.next.passes hkey)
      have hmember := hkey.seqRight hvalue
      exact .more hcomma hmember (ih (hc.past.next.passes hmember))

theorem passes_word {word : List Char} {ch : Char} {v : Json} (h : c.rest.head? = some ch)
    (hv : ∀ d : Cursor, d.rest.head? = some ch → ∀ d', Reads (readWord word v) d.next v d' →
      Reads readScalar d v d') (hw : Reads (readWord word ()) c.next () c') :
    Passes (discard readScalar) c c' := by
  obtain ⟨k, hk, hmove⟩ := (Moves.next.bind fun _ => Moves.readWord word v) c v c'
    (by simpa using reads_readWord.mpr ⟨hw, rfl⟩)
  refine ⟨k, hk, fun d hrest hbound => reads_discard.mpr ⟨v, hv d (by rw [hrest, h]) _ ?_⟩⟩
  simpa using hmove d hrest hbound

theorem passes_valueFrom : Passed n m := by
  induction n generalizing m with
  | zero => simp [Passed, readValueFrom]
  | succ n ih =>
    intro c j c' h hc
    obtain ⟨m, rfl⟩ : ∃ k, m = k + 1 := ⟨m - 1, by have := hc.1; omega⟩
    refine .peek ?_
    cases reads_readValueFrom.mp h with
    | null hhead hw =>
      rw [hhead]
      exact passes_word hhead (fun d hd d' h => by simpa [readScalar, hd] using h) hw
    | yes hhead hw =>
      rw [hhead]
      exact passes_word hhead (fun d hd d' h => by simpa [readScalar, hd] using h) hw
    | no hhead hw =>
      rw [hhead]
      exact passes_word hhead (fun d hd d' h => by simpa [readScalar, hd] using h) hw
    | str hhead hs =>
      rw [hhead]
      exact Moves.skipString.passes (passes_string hs hc.past.2)
    | num hhead hch hn =>
      have hne := lead_of_number hch
      rw [hhead]
      split
      · simp_all
      · simp_all
      · simp_all
      · simp_all
      · have hnum := Moves.skipNumber.passes (passes_number hn)
        simp_all
    | arr hhead hl hlt hi =>
      rw [hhead]
      exact passes_skipMembers (rounds_of_items ih hi (hc.past.inside hhead)) hlt (by decide)
    | obj hhead hl hlt hf =>
      rw [hhead]
      exact passes_skipMembers (rounds_of_members ih hf (hc.past.inside hhead)) hlt (by decide)

/-- A value is passed as it is read. -/
theorem passes_value (h : Reads (readValueFrom n) c j c') (hc : c.Valid) :
    Passes skipValue c c' :=
  .bound (passes_valueFrom c j c' h ⟨hc, hc⟩)

theorem Cursor.Valid.nextItem (hc : c.Valid) {more : Bool} (h : Reads (nextItem first) c more c') :
    c'.Valid := by
  cases more with
  | false => exact (reads_nextItem_false.mp h).2 ▸ hc.past
  | true =>
    obtain ⟨⟨_, rfl⟩ | ⟨_, _, rfl⟩, _⟩ := reads_nextItem_true.mp h
    · exact hc.past
    · exact hc.past.next.past

theorem Cursor.Valid.nextKey? (hc : c.Valid) {name : String}
    (h : Reads (nextKey? first) c (some name) c') : c'.Valid := by
  have hstring {c₁ : Cursor} (hc₁ : c₁.Valid) (hs : Reads readString c₁ name c') : c'.Valid :=
    hc₁.passes (Moves.skipString.passes (passes_string hs hc₁))
  obtain ⟨c₁, ⟨_, rfl⟩ | ⟨_, _, rfl⟩, _, hs⟩ := reads_nextKey?_some.mp h
  · exact hstring hc.past hs
  · exact hstring hc.past.next.past hs

theorem Cursor.Valid.readColon (hc : c.Valid) (h : Reads readColon c () c') : c'.Valid :=
  hc.passes (Moves.readColon.passes h)

theorem Cursor.Valid.value (hc : c.Valid) (h : Reads (readValueFrom n) c j c') : c'.Valid :=
  hc.passes (passes_value h hc)

theorem Cursor.Valid.inside (hc : c.Valid) : c.inside.Valid := hc.next

end GitDrift.Json
