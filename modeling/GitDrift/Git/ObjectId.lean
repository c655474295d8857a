import GitDrift.Data.CodeRanges

/-!
Identifiers of git objects: 40 (SHA-1) or 64 (SHA-256) hexadecimal digits. They are kept in lower
case, so that two spellings of one id are equal.
-/
namespace GitDrift.Git

/-- A hexadecimal digit in the case that ids are kept in. -/
def IsIdDigit (c : Char) : Prop := ('0' ≤ c ∧ c ≤ '9') ∨ ('a' ≤ c ∧ c ≤ 'f')

instance (c : Char) : Decidable (IsIdDigit c) := inferInstanceAs (Decidable (_ ∨ _))

/-- The length of a complete id; shorter ones are abbreviations, which name no object here. -/
def IsIdLength (n : Nat) : Prop := n = 40 ∨ n = 64

instance (n : Nat) : Decidable (IsIdLength n) := inferInstanceAs (Decidable (_ ∨ _))

/-- A complete object id. -/
structure ObjectId where
  digits : List Char
  length_ok : IsIdLength digits.length
  digits_ok : ∀ c ∈ digits, IsIdDigit c
deriving DecidableEq

/-- Upper-case letters become lower-case ones; everything else stays. -/
def lowerHex (c : Char) : Char :=
  if 'A' ≤ c ∧ c ≤ 'F' then Char.ofNat (c.toNat + 32) else c

namespace ObjectId

def text (id : ObjectId) : String := String.ofList id.digits

instance : ToString ObjectId := ⟨text⟩

@[ext] theorem ext {a b : ObjectId} (h : a.digits = b.digits) : a = b := by
  cases a; cases b; simp_all

/-- Reads a complete id in either case. -/
def parse? (s : List Char) : Option ObjectId :=
  let lower := s.map lowerHex
  if h : IsIdLength lower.length ∧ lower.all (fun c => decide (IsIdDigit c)) then
    some ⟨lower, h.1, fun c hc => of_decide_eq_true (List.all_eq_true.mp h.2 c hc)⟩
  else none

theorem parse?_eq_some_iff {s : List Char} {id : ObjectId} :
    parse? s = some id ↔ s.map lowerHex = id.digits := by
  constructor
  · intro h
    simp only [parse?, Option.dite_none_right_eq_some, Option.some.injEq] at h
    obtain ⟨_, rfl⟩ := h
    rfl
  · intro h
    have hl : IsIdLength (s.map lowerHex).length ∧
        (s.map lowerHex).all (fun c => decide (IsIdDigit c)) :=
      h ▸ ⟨id.length_ok, List.all_eq_true.mpr fun c hc => decide_eq_true (id.digits_ok c hc)⟩
    simp only [parse?, dif_pos hl, Option.some.injEq]
    exact ObjectId.ext h

end ObjectId
end GitDrift.Git
