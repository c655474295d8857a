import GitDrift.Git.RefDatabase
import Mathlib.Data.Nat.Notation

/-!
Where symbolic references lead. From a name they lead along a chain of names, which ends at a
reference that holds an object or at a name without a reference, or does not end. A look-up follows
the chain for five hops and no further.
-/
namespace GitDrift.Git

namespace RefDatabase

variable {db : RefDatabase} {r : Reference} {name start last next : String} {m n k hops budget : ℕ}
  {x : Except ResolveError Reference}

/-- The name that the symbolic reference of a name points at. -/
def next? (db : RefDatabase) (name : String) : Option String :=
  (db.references.get? name).bind Reference.symbolic?

/-- The name that so many hops along symbolic references lead to, if the chain is that long. -/
def chain (db : RefDatabase) (name : String) : ℕ → Option String
  | 0 => some name
  | n + 1 => (db.chain name n).bind db.next?

/-- How a walk along the chain ends that makes at most so many hops. -/
inductive Ends (db : RefDatabase) (name : String) (hops : ℕ) :
    Except ResolveError Reference → Prop
  | found {n : ℕ} {last : String} {r : Reference} (hn : n ≤ hops)
      (hlast : db.chain name n = some last) (hr : db.references.get? last = some r)
      (ho : r.isSymbolic = false) : Ends db name hops (.ok r)
  | missing {n : ℕ} {last : String} (hn : n ≤ hops) (hlast : db.chain name n = some last)
      (hr : db.references.get? last = none) : Ends db name hops (.error (.referenceNotFound last))
  | exceeded {last : String} (hlast : db.chain name (hops + 1) = some last) :
      Ends db name hops (.error (.symbolicDepthExceeded name))

theorem next?_eq_some_iff :
    db.next? name = some next ↔ ∃ r, db.references.get? name = some r ∧ r.symbolic? = some next :=
  Option.bind_eq_some_iff

theorem next?_eq_none_iff : db.next? name = none ↔ db.references.get? name = none ∨
    ∃ r, db.references.get? name = some r ∧ r.isSymbolic = false := by
  cases hr : db.references.get? name <;> simp [next?, hr, Reference.isSymbolic]

theorem follow_of_missing (h : db.references.get? name = none) :
    db.follow start (budget + 1) name = .error (.referenceNotFound name) := by
  rw [follow, h]

theorem follow_of_found (h : db.references.get? name = some r) (hr : r.isSymbolic = false) :
    db.follow start (budget + 1) name = .ok r := by
  simp only [follow, h]
  cases ht : r.target with
  | object id => rfl
  | symbolic next => simp [Reference.isSymbolic, Reference.symbolic?, ht] at hr

theorem follow_of_next (h : db.next? name = some next) :
    db.follow start (budget + 1) name = db.follow start budget next := by
  obtain ⟨r, hr, hnext⟩ := next?_eq_some_iff.mp h
  simp only [follow, hr]
  cases ht : r.target with
  | object id => simp [Reference.symbolic?, ht] at hnext
  | symbolic target =>
    obtain rfl : target = next := by simpa [Reference.symbolic?, ht] using hnext
    rfl

theorem chain_succ : db.chain name (n + 1) = (db.chain name n).bind db.next? := rfl

theorem chain_add (db : RefDatabase) (name : String) (m n : ℕ) :
    db.chain name (m + n) = (db.chain name m).bind (db.chain · n) := by
  induction n with
  | zero => cases db.chain name m <;> simp [chain]
  | succ n ih =>
    rw [← Nat.add_assoc, chain_succ, ih, Option.bind_assoc]
    rfl

theorem isSome_chain_of_le (h : (db.chain name n).isSome) (hm : m ≤ n) :
    (db.chain name m).isSome := by
  obtain ⟨k, rfl⟩ := Nat.exists_eq_add_of_le hm
  rw [chain_add] at h
  cases hc : db.chain name m with
  | none => simp [hc] at h
  | some last => rfl

/-- A chain is as long as the names on it have symbolic references. -/
theorem isSome_chain_iff : (db.chain name n).isSome ↔ ∀ m < n, ∃ last r,
    db.chain name m = some last ∧ db.references.get? last = some r ∧ r.isSymbolic = true := by
  induction n with
  | zero => simp [chain]
  | succ n ih =>
    constructor
    · intro h m hm
      obtain ⟨next, hnext⟩ :=
        Option.isSome_iff_exists.mp (isSome_chain_of_le h (Nat.succ_le_of_lt hm))
      obtain ⟨last, hlast, hnext⟩ := Option.bind_eq_some_iff.mp hnext
      obtain ⟨r, hr, hs⟩ := next?_eq_some_iff.mp hnext
      exact ⟨last, r, hlast, hr, by rw [Reference.isSymbolic, hs]; rfl⟩
    · intro h
      obtain ⟨last, r, hlast, hr, hs⟩ := h n (Nat.lt_succ_self n)
      rw [chain_succ, hlast, Option.bind_some, next?, hr]
      exact hs

/-- A chain that is too short stops at a name that no symbolic reference has. -/
theorem exists_last_of_chain_eq_none (h : db.chain name n = none) :
    ∃ m < n, ∃ last, db.chain name m = some last ∧ db.next? last = none := by
  induction n with
  | zero => cases h
  | succ n ih =>
    cases hc : db.chain name n with
    | none =>
      obtain ⟨m, hm, hlast⟩ := ih hc
      exact ⟨m, Nat.lt_succ_of_lt hm, hlast⟩
    | some last =>
      rw [chain_succ, hc, Option.bind_some] at h
      exact ⟨n, Nat.lt_succ_self n, last, hc, h⟩

/-- A cycle is run through any number of times. -/
theorem chain_mul_of_cycle (h : db.chain last k = some last) (j : ℕ) :
    db.chain last (k * j) = some last := by
  induction j with
  | zero => rfl
  | succ j ih => rw [Nat.mul_succ, chain_add, ih, Option.bind_some, h]

/-- A chain that runs into a cycle has no end. -/
theorem isSome_chain_of_cycle (hk : 0 < k) (hlast : db.chain name n = some last)
    (h : db.chain last k = some last) (m : ℕ) : (db.chain name m).isSome := by
  have hlong : (db.chain name (n + k * m)).isSome := by
    rw [chain_add, hlast, Option.bind_some, chain_mul_of_cycle h]
    rfl
  have hm : m ≤ k * m := Nat.le_mul_of_pos_left m hk
  exact isSome_chain_of_le hlong (by omega)

/-- The walk goes along the chain as far as its budget allows. -/
theorem follow_chain (h : db.chain name n = some last) (hn : n ≤ budget) :
    db.follow start budget name = db.follow start (budget - n) last := by
  induction n generalizing last with
  | zero =>
    obtain rfl : name = last := Option.some.inj h
    rfl
  | succ n ih =>
    obtain ⟨mid, hmid, hnext⟩ := Option.bind_eq_some_iff.mp h
    have hbudget : budget - n = budget - (n + 1) + 1 := by omega
    rw [ih hmid (Nat.le_of_succ_le hn), hbudget, follow_of_next hnext]

theorem Ends.follow_eq (h : db.Ends name hops x) : db.follow name (hops + 1) name = x := by
  cases h with
  | found hn hlast hr ho =>
    rw [follow_chain hlast (Nat.le_succ_of_le hn), Nat.succ_sub hn]
    exact follow_of_found hr ho
  | missing hn hlast hr =>
    rw [follow_chain hlast (Nat.le_succ_of_le hn), Nat.succ_sub hn]
    exact follow_of_missing hr
  | exceeded hlast =>
    rw [follow_chain hlast (Nat.le_refl _), Nat.sub_self]
    rfl

theorem exists_ends (db : RefDatabase) (name : String) (hops : ℕ) : ∃ x, db.Ends name hops x := by
  cases h : db.chain name (hops + 1) with
  | some last => exact ⟨_, .exceeded h⟩
  | none =>
    obtain ⟨n, hn, last, hlast, hnext⟩ := exists_last_of_chain_eq_none h
    have hn : n ≤ hops := Nat.le_of_lt_succ hn
    rcases next?_eq_none_iff.mp hnext with hr | ⟨r, hr, ho⟩
    · exact ⟨_, .missing hn hlast hr⟩
    · exact ⟨_, .found hn hlast hr ho⟩

theorem resolve_eq_iff : db.resolve name = x ↔ db.Ends name maxHops x := by
  constructor
  · rintro rfl
    obtain ⟨x, hx⟩ := exists_ends db name maxHops
    rwa [resolve, hx.follow_eq]
  · exact Ends.follow_eq

/-- A look-up finds the reference that the chain ends at after at most five hops, and it holds an
object. It fails with the name that the chain ends at if that has no reference, and with the name
that it started from if the first six names on the chain all have symbolic references, as they have
where the chain runs into a cycle. -/
theorem resolve_follows_chain (db : RefDatabase) (name : String) :
    (∀ r, db.resolve name = .ok r ↔ ∃ n ≤ 5, ∃ last, db.chain name n = some last ∧
      db.references.get? last = some r ∧ r.isSymbolic = false) ∧
    (∀ last, db.resolve name = .error (.referenceNotFound last) ↔
      ∃ n ≤ 5, db.chain name n = some last ∧ db.references.get? last = none) ∧
    (∀ start, db.resolve name = .error (.symbolicDepthExceeded start) ↔
      start = name ∧ ∀ n < 6, ∃ last r, db.chain name n = some last ∧
        db.references.get? last = some r ∧ r.isSymbolic = true) ∧
    (∀ e, db.resolve name = .error e →
      (∃ last, e = .referenceNotFound last) ∨ e = .symbolicDepthExceeded name) ∧
    ∀ n last k, db.chain name n = some last → 0 < k → db.chain last k = some last →
      db.resolve name = .error (.symbolicDepthExceeded name) := by
  have hexceeded (h : (db.chain name 6).isSome) :
      db.resolve name = .error (.symbolicDepthExceeded name) := by
    obtain ⟨last, hlast⟩ := Option.isSome_iff_exists.mp h
    exact resolve_eq_iff.mpr (.exceeded hlast)
  refine ⟨fun r => ⟨fun h => ?_, ?_⟩, fun last => ⟨fun h => ?_, ?_⟩, fun start => ⟨fun h => ?_, ?_⟩,
    fun e h => ?_, fun n last k hlast hk hcycle =>
      hexceeded (isSome_chain_of_cycle hk hlast hcycle 6)⟩
  · cases resolve_eq_iff.mp h with
    | found hn hlast hr ho => exact ⟨_, hn, _, hlast, hr, ho⟩
  · rintro ⟨n, hn, last, hlast, hr, ho⟩
    exact resolve_eq_iff.mpr (.found hn hlast hr ho)
  · cases resolve_eq_iff.mp h with
    | missing hn hlast hr => exact ⟨_, hn, hlast, hr⟩
  · rintro ⟨n, hn, hlast, hr⟩
    exact resolve_eq_iff.mpr (.missing hn hlast hr)
  · cases resolve_eq_iff.mp h with
    | exceeded hlast => exact ⟨rfl, isSome_chain_iff.mp (Option.isSome_of_eq_some hlast)⟩
  · rintro ⟨rfl, hchain⟩
    exact hexceeded (isSome_chain_iff.mpr hchain)
  · cases resolve_eq_iff.mp h with
    | missing hn hlast hr => exact Or.inl ⟨_, rfl⟩
    | exceeded hlast => exact Or.inr rfl

/-- Two branches that point at each other, and one that points at the first. -/
def loopRefs : List Reference :=
  [.ofSymbolic "refs/heads/a" "refs/heads/b", .ofSymbolic "refs/heads/b" "refs/heads/a",
    .ofSymbolic "refs/heads/c" "refs/heads/a"]

theorem resolve_loopRefs :
    (ofReferences loopRefs).chain "refs/heads/c" 1 = some "refs/heads/a" ∧
    (ofReferences loopRefs).chain "refs/heads/a" 2 = some "refs/heads/a" ∧
    (ofReferences loopRefs).resolve "refs/heads/c" =
      .error (.symbolicDepthExceeded "refs/heads/c") := by
  have hlast : (ofReferences loopRefs).chain "refs/heads/c" 1 = some "refs/heads/a" := by decide
  have hcycle : (ofReferences loopRefs).chain "refs/heads/a" 2 = some "refs/heads/a" := by decide
  obtain ⟨-, -, -, -, hexceeded⟩ := resolve_follows_chain (ofReferences loopRefs) "refs/heads/c"
  exact ⟨hlast, hcycle, hexceeded 1 "refs/heads/a" 2 hlast (by decide) hcycle⟩

end RefDatabase
end GitDrift.Git
