import GitDrift.Json.Reader
import Mathlib.Data.List.TakeWhile
import Mathlib.Tactic.Simproc.ExistsAndEq

/-!
What readers read. Each reader of JSON is described by the cursors at which it succeeds, by what it
reads there and by the cursor behind that; loops over members are described without their fuel.
-/
namespace GitDrift.Json

open Reader

variable {α β σ : Type} {r x : Reader α} {f : α → Reader β} {c c' c₁ : Cursor} {a a' : α} {b : β}
  {p : Char → Bool}

namespace Cursor

/-- More can be read than the text has characters left. -/
def Valid (c : Cursor) : Prop := c.rest.length < c.bound

theorem rest_next (c : Cursor) : c.next.rest = c.rest.tail := by
  unfold next
  split
  · rename_i h
    rw [h, List.tail_nil]
  · rename_i h
    split <;> rw [h, List.tail_cons]

@[simp] theorem bound_next (c : Cursor) : c.next.bound = c.bound := by
  unfold next
  split
  · rfl
  · split <;> rfl

@[simp] theorem levels_next (c : Cursor) : c.next.levels = c.levels := by
  unfold next
  split
  · rfl
  · split <;> rfl

@[simp] theorem skip_zero (c : Cursor) : c.skip 0 = c := rfl

theorem skip_succ (n : ℕ) (c : Cursor) : c.skip (n + 1) = (c.skip n).next := rfl

theorem skip_skip (m n : ℕ) (c : Cursor) : (c.skip m).skip n = c.skip (m + n) := by
  induction n with
  | zero => rfl
  | succ n ih => rw [skip_succ, ih, ← Nat.add_assoc, skip_succ]

theorem skip_next (n : ℕ) (c : Cursor) : c.next.skip n = c.skip (n + 1) := by
  rw [Nat.add_comm, ← skip_skip]
  rfl

theorem rest_skip (n : ℕ) (c : Cursor) : (c.skip n).rest = c.rest.drop n := by
  induction n with
  | zero => rfl
  | succ n ih => rw [skip_succ, rest_next, ih, List.tail_drop]

@[simp] theorem bound_skip (n : ℕ) (c : Cursor) : (c.skip n).bound = c.bound := by
  induction n with
  | zero => rfl
  | succ n ih => rw [skip_succ, bound_next, ih]

@[simp] theorem levels_skip (n : ℕ) (c : Cursor) : (c.skip n).levels = c.levels := by
  induction n with
  | zero => rfl
  | succ n ih => rw [skip_succ, levels_next, ih]

/-- The cursor where so many brackets may be opened. -/
def within (levels : ℕ) (c : Cursor) : Cursor := { c with levels }

@[simp] theorem rest_within (n : ℕ) (c : Cursor) : (c.within n).rest = c.rest := rfl

@[simp] theorem bound_within (n : ℕ) (c : Cursor) : (c.within n).bound = c.bound := rfl

@[simp] theorem levels_within (n : ℕ) (c : Cursor) : (c.within n).levels = n := rfl

@[simp] theorem within_within (m n : ℕ) (c : Cursor) : (c.within m).within n = c.within n := rfl

@[simp] theorem within_levels (c : Cursor) : c.within c.levels = c := rfl

theorem next_within (n : ℕ) (c : Cursor) : (c.within n).next = c.next.within n := by
  obtain ⟨rest, bound, line, column, levels⟩ := c
  cases rest with
  | nil => rfl
  | cons ch rest =>
    simp only [next, within]
    split <;> rfl

theorem skip_within (m n : ℕ) (c : Cursor) : (c.within m).skip n = (c.skip n).within m := by
  induction n with
  | zero => rfl
  | succ n ih => rw [skip_succ, ih, next_within, skip_succ]

/-- A blank between tokens. -/
def isBlank (ch : Char) : Bool := ch = ' ' || ch = '\n' || ch = '\t' || ch = '\r'

/-- The cursor behind blanks. -/
def past (c : Cursor) : Cursor := c.skip (c.rest.takeWhile isBlank).length

theorem drop_takeWhile_length {α : Type} (p : α → Bool) (l : List α) :
    l.drop (l.takeWhile p).length = l.dropWhile p := by
  induction l with
  | nil => rfl
  | cons a l ih => by_cases h : p a <;> simp [h, ih]

theorem rest_past (c : Cursor) : c.past.rest = c.rest.dropWhile isBlank := by
  rw [past, rest_skip, drop_takeWhile_length]

theorem past_eq_self (h : ∀ ch, c.rest.head? = some ch → isBlank ch = false) : c.past = c := by
  unfold past
  cases hc : c.rest with
  | nil => rfl
  | cons ch rest =>
    have hch : isBlank ch = false := h ch (by rw [hc, List.head?_cons])
    simp [hch]

@[simp] theorem past_past (c : Cursor) : c.past.past = c.past := by
  apply past_eq_self
  intro ch hch
  rw [rest_past] at hch
  simpa [hch] using List.head?_dropWhile_not isBlank c.rest

@[simp] theorem bound_past (c : Cursor) : c.past.bound = c.bound := bound_skip _ c

@[simp] theorem levels_past (c : Cursor) : c.past.levels = c.levels := levels_skip _ c

theorem past_within (n : ℕ) (c : Cursor) : (c.within n).past = c.past.within n :=
  skip_within _ _ c

theorem length_rest_past_le (c : Cursor) : c.past.rest.length ≤ c.rest.length := by
  rw [past, rest_skip, List.length_drop]
  exact Nat.sub_le _ _

theorem length_rest_next_le (c : Cursor) : c.next.rest.length ≤ c.rest.length := by
  rw [rest_next, List.length_tail]
  exact Nat.sub_le _ _

theorem length_rest_next {ch : Char} (h : c.rest.head? = some ch) :
    c.next.rest.length + 1 = c.rest.length := by
  rw [rest_next]
  cases hc : c.rest with
  | nil =>
    rw [hc] at h
    cases h
  | cons _ rest => rfl

end Cursor

/-- The reader succeeds at a cursor, with a value and a cursor behind it. -/
def Reads (r : Reader α) (c : Cursor) (a : α) (c' : Cursor) : Prop := r c = .ok (a, c')

theorem Reads.unique {c₂ : Cursor} (h : Reads r c a c₁) (h' : Reads r c a' c₂) :
    a = a' ∧ c₁ = c₂ := by
  simpa using Except.ok.inj (h.symm.trans h')

@[simp low] theorem reads_bind :
    Reads (x >>= f) c b c' ↔ ∃ a c₁, Reads x c a c₁ ∧ Reads (f a) c₁ b c' := by
  unfold Reads
  change (x c).bind (fun y => f y.1 y.2) = _ ↔ _
  cases hx : x c with
  | error e => simp [Except.bind]
  | ok y =>
    obtain ⟨a, c₁⟩ := y
    simp only [Except.bind, Except.ok.injEq, Prod.mk.injEq]
    exact ⟨fun h => ⟨a, c₁, ⟨rfl, rfl⟩, h⟩, fun ⟨_, _, ⟨ha, hc⟩, h⟩ => ha ▸ hc ▸ h⟩

@[simp] theorem reads_pure : Reads (pure a) c a' c' ↔ a = a' ∧ c = c' := by
  unfold Reads
  change (Except.ok (a, c) : Except ReadError _) = _ ↔ _
  simp

@[simp] theorem reads_map {g : α → β} :
    Reads (g <$> x) c b c' ↔ ∃ a, Reads x c a c' ∧ g a = b := by
  rw [map_eq_pure_bind, reads_bind]
  simp only [reads_pure]
  constructor
  · rintro ⟨a, c₁, h, hb, rfl⟩
    exact ⟨a, h, hb⟩
  · rintro ⟨a, h, hb⟩
    exact ⟨a, c', h, hb, rfl⟩

@[simp] theorem reads_seqRight {y : Reader β} :
    Reads (x *> y) c b c' ↔ ∃ a c₁, Reads x c a c₁ ∧ Reads y c₁ b c' := by
  rw [seqRight_eq_bind, reads_bind]

@[simp] theorem reads_ite {q : Prop} [Decidable q] {y : Reader α} :
    Reads (if q then x else y) c a c' ↔ (q ∧ Reads x c a c') ∨ (¬ q ∧ Reads y c a c') := by
  split_ifs with h <;> simp [h]

@[simp] theorem not_reads_fault (e : Fault) : ¬ Reads (fault e) c a c' := nofun

@[simp] theorem not_reads_faultNext (e : Fault) : ¬ Reads (faultNext e) c a c' := nofun

@[simp] theorem not_reads_faultNext_bind (e : Fault) :
    ¬ Reads (faultNext e >>= f) c b c' := nofun

@[simp] theorem not_reads_fault_bind (e : Fault) : ¬ Reads (fault e >>= f) c b c' := nofun

@[simp] theorem reads_modify {g : Cursor → Cursor} {u : PUnit} :
    Reads (modify g) c u c' ↔ g c = c' := by
  unfold Reads
  change (Except.ok ((), g c) : Except ReadError _) = _ ↔ _
  simp

@[simp] theorem reads_next {u : Unit} : Reads next c u c' ↔ c.next = c' := reads_modify

@[simp] theorem reads_head? {o : Option Char} :
    Reads head? c o c' ↔ c.rest.head? = o ∧ c = c' := by
  unfold Reads
  change (Except.ok (c.rest.head?, c) : Except ReadError _) = _ ↔ _
  simp

@[simp] theorem reads_takeWhile {s : List Char} : Reads (takeWhile p) c s c' ↔
    c.rest.takeWhile p = s ∧ c.skip (c.rest.takeWhile p).length = c' := by
  unfold Reads
  change (Except.ok (c.rest.takeWhile p, _) : Except ReadError _) = _ ↔ _
  simp

/-! Readers that succeed everywhere. -/

theorem Reads.bind_iff (h : Reads x c a c₁) : Reads (x >>= f) c b c' ↔ Reads (f a) c₁ b c' := by
  rw [reads_bind]
  constructor
  · rintro ⟨a', c₂, h', hf⟩
    obtain ⟨rfl, rfl⟩ := h.unique h'
    exact hf
  · exact fun hf => ⟨a, c₁, h, hf⟩

@[simp] theorem reads_get_bind {f : Cursor → Reader β} :
    Reads (get >>= f) c b c' ↔ Reads (f c) c b c' := Reads.bind_iff rfl

@[simp] theorem reads_modify_bind {g : Cursor → Cursor} {f : PUnit → Reader β} :
    Reads (modify g >>= f) c b c' ↔ Reads (f ()) (g c) b c' := Reads.bind_iff rfl

@[simp] theorem reads_next_bind {f : Unit → Reader β} :
    Reads (next >>= f) c b c' ↔ Reads (f ()) c.next b c' := Reads.bind_iff rfl

@[simp] theorem reads_head?_bind {f : Option Char → Reader β} :
    Reads (head? >>= f) c b c' ↔ Reads (f c.rest.head?) c b c' := Reads.bind_iff rfl

@[simp] theorem reads_takeWhile_bind {f : List Char → Reader β} :
    Reads (takeWhile p >>= f) c b c' ↔
      Reads (f (c.rest.takeWhile p)) (c.skip (c.rest.takeWhile p).length) b c' :=
  Reads.bind_iff rfl

@[simp] theorem reads_peek?_bind {f : Option Char → Reader β} :
    Reads (peek? >>= f) c b c' ↔ Reads (f c.past.rest.head?) c.past b c' := Reads.bind_iff rfl

@[simp] theorem reads_enclosed : Reads (enclosed r) c a c' ↔
    c.levels ≠ 0 ∧ ∃ c₁, Reads r (c.next.within (c.levels - 1)) a c₁ ∧ c₁.within c.levels = c' := by
  have hlevels (n : ℕ) (c : Cursor) : { c with levels := n } = c.within n := rfl
  simp [enclosed, hlevels]

/-- There is no further item. -/
theorem reads_nextItem_false {first : Bool} : Reads (nextItem first) c false c' ↔
    c.past.rest.head? = some ']' ∧ c.past = c' := by
  simp only [nextItem, reads_peek?_bind]
  split
  · simp_all
  · simp_all
  · rename_i ch hch hhead
    have hne : ch ≠ ']' := hch
    simp only [reads_ite, reads_pure, ne_eq, not_reads_faultNext_bind, reads_next_bind,
      reads_peek?_bind]
    split <;> simp [hhead, hne]

/-- There is a further item, behind a comma unless it is the first. -/
theorem reads_nextItem_true {first : Bool} : Reads (nextItem first) c true c' ↔
    (first = true ∧ c.past = c' ∨
      first = false ∧ c.past.rest.head? = some ',' ∧ c.past.next.past = c') ∧
    ∃ ch, c'.rest.head? = some ch ∧ ch ≠ ']' := by
  simp only [nextItem, reads_peek?_bind]
  split
  · grind [not_reads_fault]
  · grind [reads_pure]
  · rename_i ch hch hhead
    have hne : ch ≠ ']' := hch
    simp only [reads_ite, reads_pure, ne_eq, not_reads_faultNext_bind, reads_next_bind,
      reads_peek?_bind]
    split <;> grind [reads_pure, not_reads_fault, not_reads_faultNext]

/-- There is no further field. -/
theorem reads_nextKey?_none {first : Bool} : Reads (nextKey? first) c none c' ↔
    c.past.rest.head? = some '\x7d' ∧ c.past = c' := by
  simp only [nextKey?, reads_peek?_bind]
  split
  · simp_all
  · simp_all
  · rename_i ch hch hhead
    have hne : ch ≠ '\x7d' := hch
    cases first <;> simp [hhead, hne]

/-- There is a further field, behind a comma unless it is the first. -/
theorem reads_nextKey?_some {first : Bool} {name : String} :
    Reads (nextKey? first) c (some name) c' ↔
      ∃ c₁, (first = true ∧ c.past = c₁ ∨
          first = false ∧ c.past.rest.head? = some ',' ∧ c.past.next.past = c₁) ∧
        c₁.rest.head? = some '"' ∧ Reads readString c₁ name c' := by
  simp only [nextKey?, reads_peek?_bind]
  split
  · grind [not_reads_fault]
  · grind [reads_pure]
  · rename_i ch hch hhead
    have hne : ch ≠ '\x7d' := hch
    cases first
    · simpa [hhead] using fun (_ : ch = ',') =>
        ⟨fun h => h.2.2, fun h => ⟨fun hnil => by simp [hnil] at h, by simp [h.1], h⟩⟩
    · simp [hhead]

@[simp] theorem reads_readColon {u : Unit} :
    Reads readColon c u c' ↔ c.past.rest.head? = some ':' ∧ c.past.next = c' := by
  simp only [readColon, reads_peek?_bind]
  split
  · simp_all
  · simp_all
  · simp_all

/-- Items up to the end of an array are read one after another. -/
inductive Items (item : Reader α) : Bool → Cursor → List α → Cursor → Prop
  | stop {first : Bool} {c c' : Cursor} (h : Reads (nextItem first) c false c') :
      Items item first c [] c'.next
  | item {first : Bool} {c c₁ c₂ c' : Cursor} {a : α} {as : List α}
      (h : Reads (nextItem first) c true c₁) (ha : Reads item c₁ a c₂)
      (hrest : Items item false c₂ as c') : Items item first c (a :: as) c'

theorem reads_readItemsFrom {item : Reader α} {first : Bool} {n : ℕ} {as : List α} :
    Reads (readItemsFrom item n first) c as c' ↔ Items item first c as c' ∧ as.length < n := by
  induction n generalizing first c as with
  | zero => simp [readItemsFrom]
  | succ n ih =>
    simp only [readItemsFrom]
    constructor
    · intro h
      obtain ⟨more, c₁, hmore, h⟩ := reads_bind.mp h
      cases more with
      | false =>
        obtain ⟨rfl, rfl⟩ : c₁.next = c' ∧ as = [] := by simpa using h
        exact ⟨.stop hmore, Nat.succ_pos n⟩
      | true =>
        obtain ⟨a, c₂, ha, as', hrest, rfl⟩ :
            ∃ a c₂, Reads item c₁ a c₂ ∧ ∃ as', Reads (readItemsFrom item n false) c₂ as' c' ∧
              a :: as' = as := by simpa using h
        obtain ⟨hitems, hlt⟩ := ih.mp hrest
        exact ⟨.item hmore ha hitems, Nat.succ_lt_succ hlt⟩
    · rintro ⟨hitems, hlt⟩
      cases hitems with
      | stop h => exact reads_bind.mpr ⟨_, _, h, by simp⟩
      | item h ha hrest =>
        exact reads_bind.mpr ⟨_, _, h, by
          simpa using ⟨_, ha, ih.mpr ⟨hrest, Nat.lt_of_succ_lt_succ hlt⟩⟩⟩

/-- Where the members of an array or object are read whose opening bracket is at the cursor. -/
def Cursor.inside (c : Cursor) : Cursor := c.next.within (c.levels - 1)

theorem reads_readArray {item : Reader α} {as : List α} : Reads (readArray item) c as c' ↔
    c.levels ≠ 0 ∧ as.length < c.bound ∧
      ∃ c₁, Items item true c.inside as c₁ ∧ c₁.within c.levels = c' := by
  have hbound : (c.next.within (c.levels - 1)).bound = c.bound := by simp
  rw [readArray, reads_enclosed]
  simp only [reads_get_bind, reads_readItemsFrom, hbound]
  constructor
  · rintro ⟨hl, c₁, ⟨hitems, hlt⟩, hend⟩
    exact ⟨hl, hlt, c₁, hitems, hend⟩
  · rintro ⟨hl, hlt, c₁, hitems, hend⟩
    exact ⟨hl, c₁, ⟨hitems, hlt⟩, hend⟩

/-- Fields up to the end of an object are read one after another, each as a value behind a name
and a colon. -/
inductive Members (value : Reader α) : Bool → Cursor → List (String × α) → Cursor → Prop
  | stop {first : Bool} {c c' : Cursor} (h : Reads (nextKey? first) c none c') :
      Members value first c [] c'.next
  | member {first : Bool} {c c₁ c₂ c₃ c' : Cursor} {name : String} {a : α}
      {fields : List (String × α)} (h : Reads (nextKey? first) c (some name) c₁)
      (hcolon : Reads readColon c₁ () c₂) (ha : Reads value c₂ a c₃)
      (hrest : Members value false c₃ fields c') : Members value first c ((name, a) :: fields) c'

/-- Reads a colon and a value behind a name, and puts the field before those that were read. -/
def readMember (value : Reader α) (fields : List (String × α)) (name : String) :
    Reader (List (String × α)) := do
  readColon
  return (name, ← value) :: fields

theorem reads_readMember {value : Reader α} {known fields : List (String × α)} {name : String} :
    Reads (readMember value known name) c fields c' ↔
      ∃ c₁ a, Reads readColon c () c₁ ∧ Reads value c₁ a c' ∧ fields = (name, a) :: known := by
  constructor
  · intro h
    obtain ⟨⟨⟩, c₁, hcolon, h⟩ := reads_bind.mp h
    obtain ⟨a, c₂, ha, h⟩ := reads_bind.mp h
    obtain ⟨rfl, rfl⟩ := reads_pure.mp h
    exact ⟨c₁, a, hcolon, ha, rfl⟩
  · rintro ⟨c₁, a, hcolon, ha, rfl⟩
    exact reads_bind.mpr ⟨(), c₁, hcolon, reads_bind.mpr ⟨a, c', ha, reads_pure.mpr ⟨rfl, rfl⟩⟩⟩

theorem reads_readFieldsFrom {value : Reader α} {first : Bool} {n : ℕ}
    {known fields : List (String × α)} :
    Reads (readFieldsFrom (readMember value) n first known) c fields c' ↔
      ∃ new, Members value first c new c' ∧ new.length < n ∧ fields = new.reverse ++ known := by
  induction n generalizing first c known with
  | zero => simp [readFieldsFrom]
  | succ n ih =>
    simp only [readFieldsFrom]
    constructor
    · intro h
      obtain ⟨name?, c₁, hname, h⟩ := reads_bind.mp h
      cases name? with
      | none =>
        obtain ⟨rfl, rfl⟩ : c₁.next = c' ∧ known = fields := by simpa using h
        exact ⟨[], .stop hname, Nat.succ_pos n, rfl⟩
      | some name =>
        obtain ⟨known', c₃, hmember, hrest⟩ := reads_bind.mp h
        obtain ⟨c₂, a, hcolon, ha, rfl⟩ := reads_readMember.mp hmember
        obtain ⟨new, hnew, hlt, rfl⟩ := ih.mp hrest
        exact ⟨(name, a) :: new, .member hname hcolon ha hnew, Nat.succ_lt_succ hlt, by simp⟩
    · rintro ⟨new, hnew, hlt, rfl⟩
      cases hnew with
      | stop h => exact reads_bind.mpr ⟨_, _, h, by simp⟩
      | @member _ _ _ _ c₃ _ name a new h hcolon ha hrest =>
        refine reads_bind.mpr ⟨_, _, h, reads_bind.mpr ⟨(name, a) :: known, c₃, ?_, ?_⟩⟩
        · exact reads_readMember.mpr ⟨_, _, hcolon, ha, rfl⟩
        · exact ih.mpr ⟨new, hrest, Nat.lt_of_succ_lt_succ hlt, by simp⟩

theorem reads_readObject {field : σ → String → Reader σ} {s s' : σ} :
    Reads (readObject field s) c s' c' ↔
      c.levels ≠ 0 ∧ ∃ c₁, Reads (readFieldsFrom field c.bound true s) c.inside s' c₁ ∧
        c₁.within c.levels = c' := by
  simp [readObject, Cursor.inside]

/-- The fields of an object are gathered, the last one first. -/
theorem reads_gather {value : Reader α} {fields : List (String × α)} :
    Reads (readObject (readMember value) []) c fields.reverse c' ↔
      c.levels ≠ 0 ∧ fields.length < c.bound ∧
        ∃ c₁, Members value true c.inside fields c₁ ∧ c₁.within c.levels = c' := by
  rw [reads_readObject]
  constructor
  · rintro ⟨hl, c₁, h, hend⟩
    obtain ⟨new, hnew, hlt, heq⟩ := reads_readFieldsFrom.mp h
    obtain rfl : fields = new := by simpa using heq
    exact ⟨hl, hlt, c₁, hnew, hend⟩
  · rintro ⟨hl, hlt, c₁, hnew, hend⟩
    exact ⟨hl, c₁, reads_readFieldsFrom.mpr ⟨fields, hnew, hlt, by simp⟩, hend⟩

theorem reads_readWord {word : List Char} : Reads (readWord word a) c a' c' ↔
    Reads (readWord word ()) c () c' ∧ a = a' := by
  induction word generalizing c with
  | nil => simp [readWord, and_comm]
  | cons w word ih =>
    simp only [readWord, reads_head?_bind]
    cases c.rest.head? with
    | none => simp
    | some ch => by_cases hch : ch = w <;> simp [hch, ih]

/-- A value is read from its first character on. -/
inductive ValueAt (n : ℕ) (c : Cursor) : Json → Cursor → Prop
  | null {c' : Cursor} (h : c.rest.head? = some 'n')
      (hw : Reads (readWord ['u', 'l', 'l'] ()) c.next () c') : ValueAt n c .null c'
  | yes {c' : Cursor} (h : c.rest.head? = some 't')
      (hw : Reads (readWord ['r', 'u', 'e'] ()) c.next () c') : ValueAt n c (.bool true) c'
  | no {c' : Cursor} (h : c.rest.head? = some 'f')
      (hw : Reads (readWord ['a', 'l', 's', 'e'] ()) c.next () c') : ValueAt n c (.bool false) c'
  | str {c' : Cursor} {s : String} (h : c.rest.head? = some '"') (hs : Reads readString c s c') :
      ValueAt n c (.str s) c'
  | num {c' : Cursor} {ch : Char} {m : Number} (h : c.rest.head? = some ch)
      (hch : (ch = '-' || ch.isDigit) = true) (hm : Reads readNumber c m c') :
      ValueAt n c (.num m) c'
  | arr {c₁ : Cursor} {items : List Json} (h : c.rest.head? = some '[') (hl : c.levels ≠ 0)
      (hlt : items.length < c.bound) (hi : Items (readValueFrom n) true c.inside items c₁) :
      ValueAt n c (.arr items) (c₁.within c.levels)
  | obj {c₁ : Cursor} {fields : Fields} (h : c.rest.head? = some '\x7b') (hl : c.levels ≠ 0)
      (hlt : fields.length < c.bound) (hf : Members (readValueFrom n) true c.inside fields c₁) :
      ValueAt n c (.obj fields) (c₁.within c.levels)

theorem lead_of_number {ch : Char} (h : (ch = '-' || ch.isDigit) = true) :
    ch ≠ '[' ∧ ch ≠ '\x7b' ∧ ch ≠ 'n' ∧ ch ≠ 't' ∧ ch ≠ 'f' ∧ ch ≠ '"' := by
  refine ⟨?_, ?_, ?_, ?_, ?_, ?_⟩ <;> rintro rfl <;> revert h <;> decide

theorem reads_readValueFrom {n : ℕ} {j : Json} :
    Reads (readValueFrom (n + 1)) c j c' ↔ ValueAt n c.past j c' := by
  simp only [readValueFrom, reads_peek?_bind]
  constructor
  · intro h
    split at h
    · simp at h
    · obtain ⟨items, hread, rfl⟩ := reads_map.mp h
      obtain ⟨hl, hlt, c₁, hi, rfl⟩ := reads_readArray.mp hread
      exact .arr ‹_› hl hlt hi
    · change Reads (readObject (readMember (readValueFrom n)) [] >>= _) c.past j c' at h
      obtain ⟨last, _, hread, h⟩ := reads_bind.mp h
      obtain ⟨rfl, rfl⟩ := reads_pure.mp h
      obtain ⟨fields, rfl⟩ : ∃ fields, last = List.reverse fields := ⟨last.reverse, by simp⟩
      obtain ⟨hl, hlt, c₁, hf, rfl⟩ := reads_gather.mp hread
      rw [List.reverse_reverse]
      exact .obj ‹_› hl hlt hf
    · simp only [readScalar, reads_head?_bind] at h
      split at h
      · obtain ⟨hw, rfl⟩ := reads_readWord.mp (by simpa using h)
        exact .null ‹_› hw
      · obtain ⟨hw, rfl⟩ := reads_readWord.mp (by simpa using h)
        exact .yes ‹_› hw
      · obtain ⟨hw, rfl⟩ := reads_readWord.mp (by simpa using h)
        exact .no ‹_› hw
      · obtain ⟨s, hs, rfl⟩ := reads_map.mp h
        exact .str ‹_› hs
      · rename_i ch hn ht hf hq hhead
        rw [reads_ite] at h
        rcases h with ⟨hch, hread⟩ | ⟨_, h⟩
        · obtain ⟨m, hm, rfl⟩ := reads_map.mp hread
          exact .num hhead hch hm
        · simp at h
      · simp at h
  · intro h
    cases h with
    | null h hw => simpa [h, readScalar] using reads_readWord.mpr ⟨hw, rfl⟩
    | yes h hw => simpa [h, readScalar] using reads_readWord.mpr ⟨hw, rfl⟩
    | no h hw => simpa [h, readScalar] using reads_readWord.mpr ⟨hw, rfl⟩
    | str h hs => simp [h, readScalar, hs]
    | num h hch hm =>
      have hne := lead_of_number hch
      rw [h]
      split
      · simp_all
      · simp_all
      · simp_all
      simp only [readScalar, reads_head?_bind, h]
      split <;> simp_all
    | arr h hl hlt hi => simpa [h] using reads_readArray.mpr ⟨hl, hlt, _, hi, rfl⟩
    | @obj _ fields h hl hlt hf =>
      simp only [h]
      refine reads_bind.mpr ⟨fields.reverse, _, reads_gather.mpr ⟨hl, hlt, _, hf, rfl⟩, ?_⟩
      simp

/-- What is read does not depend on the blanks before it. -/
theorem reads_past {n : ℕ} {j : Json} :
    Reads (readValueFrom n) c.past j c' ↔ Reads (readValueFrom n) c j c' := by
  cases n with
  | zero => simp [readValueFrom]
  | succ n => rw [reads_readValueFrom, reads_readValueFrom, Cursor.past_past]

theorem readText_eq_ok {s : String} : readText r s = .ok a ↔
    ∃ c', Reads r (.start s) a c' ∧ c'.past.rest.head? = none := by
  let whole : Reader α := do
    let a ← r
    if (← peek?).isSome then faultNext .trailing
    return a
  have hwhole : readText r s = .ok a ↔ ∃ c', Reads whole (.start s) a c' := by
    change (whole (.start s)).map Prod.fst = .ok a ↔ _
    unfold Reads
    cases whole (.start s) <;> simp [Except.map, Prod.ext_iff]
  rw [hwhole]
  simp [whole]

theorem Cursor.valid_start (s : String) : (Cursor.start s).Valid := by
  unfold Cursor.Valid Cursor.start
  rw [String.length_toList]
  exact Nat.lt_succ_self _

end GitDrift.Json
