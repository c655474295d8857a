/-!
Finite tables: one value for a key. The order of the entries means nothing.
-/
namespace GitDrift

structure Table (κ α : Type) where
  entries : List (κ × α) := []
deriving DecidableEq, Inhabited

namespace Table

variable {κ α : Type} [DecidableEq κ] {t : Table κ α} {k l : κ} {a : α}

def lookup (k : κ) : List (κ × α) → Option α
  | [] => none
  | (l, a) :: es => if k = l then some a else lookup k es

def get? (t : Table κ α) (k : κ) : Option α := lookup k t.entries

def contains (t : Table κ α) (k : κ) : Bool := (t.get? k).isSome

def erase (t : Table κ α) (k : κ) : Table κ α := ⟨t.entries.filter fun e => e.1 ≠ k⟩

/-- Sets the value of a key. -/
def insert (t : Table κ α) (k : κ) (a : α) : Table κ α := ⟨(k, a) :: (t.erase k).entries⟩

/-- Sets the value of a key that has none. -/
def insertNew (t : Table κ α) (k : κ) (a : α) : Table κ α :=
  if t.contains k then t else t.insert k a

def isEmpty (t : Table κ α) : Bool := t.entries.isEmpty

@[simp] theorem get?_empty : (⟨[]⟩ : Table κ α).get? k = none := rfl

theorem get?_erase : (t.erase l).get? k = if k = l then none else t.get? k := by
  obtain ⟨es⟩ := t
  simp only [erase, get?]
  induction es with
  | nil => simp [lookup]
  | cons e es ih =>
    obtain ⟨m, b⟩ := e
    by_cases hm : m = l
    · subst hm
      by_cases hk : k = m <;> simp_all [lookup]
    · simp only [ne_eq, hm, not_false_eq_true, decide_true, List.filter_cons_of_pos, lookup, ih]
      by_cases hk : k = m
      · simp [hk, hm]
      · simp [hk]

theorem get?_insert : (t.insert l a).get? k = if k = l then some a else t.get? k := by
  by_cases h : k = l
  · simp [insert, get?, lookup, h]
  · simpa [insert, get?, lookup, h] using get?_erase (t := t) (k := k) (l := l)

theorem get?_insertNew :
    (t.insertNew l a).get? k = if k = l then some ((t.get? l).getD a) else t.get? k := by
  unfold insertNew contains
  by_cases h : k = l
  · subst h
    cases hg : t.get? k <;> simp [hg, get?_insert]
  · cases hg : t.get? l <;> simp [get?_insert, h]

end Table
end GitDrift
