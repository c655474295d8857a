import GitDrift.Drift.Schedule
import Mathlib.Data.List.Nodup

/-! The schedule as a map from keys to entries, and as a list in the order of the next checks. -/
namespace GitDrift.Drift.Schedule

variable {s : Schedule} {e f : Entry} {k key : PatternKey}

/-- Entries stand in the order of their next checks. -/
def Ordered (s : Schedule) : Prop := s.Pairwise fun e f => e.nextCheck ≤ f.nextCheck

theorem place_perm (e : Entry) (s : Schedule) : (place e s).Perm (e :: s) := by
  induction s with
  | nil => exact .refl _
  | cons f s ih =>
    rw [place]
    split
    · exact (ih.cons f).trans (.swap e f s)
    · exact .refl _

@[simp] theorem mem_place : f ∈ place e s ↔ f = e ∨ f ∈ s := by
  rw [(place_perm e s).mem_iff, List.mem_cons]

@[simp] theorem mem_without : f ∈ without s key ↔ f ∈ s ∧ f.key ≠ key := by simp [without]

theorem without_sublist (s : Schedule) (key : PatternKey) : (without s key).Sublist s :=
  List.filter_sublist

theorem notMem_keys_without (s : Schedule) (key : PatternKey) : key ∉ keys (without s key) := by
  simp [keys]

/-- A relation that entries stand in survives a placement if it agrees with the order of the next
checks, where the new entry comes behind its equals. -/
theorem pairwise_place {R : Entry → Entry → Prop} (ho : Ordered s) (hr : s.Pairwise R)
    (hle : ∀ f ∈ s, f.nextCheck ≤ e.nextCheck → R f e)
    (hlt : ∀ f ∈ s, e.nextCheck < f.nextCheck → R e f) : (place e s).Pairwise R := by
  induction s with
  | nil => simp [place]
  | cons f s ih =>
    obtain ⟨hf, ho⟩ := List.pairwise_cons.mp ho
    have hrs := List.pairwise_cons.mp hr
    rw [place]
    split
    · rename_i hfe
      refine List.pairwise_cons.mpr ⟨?_, ih ho hrs.2 ?_ ?_⟩
      · intro g hg
        rcases mem_place.mp hg with rfl | hg
        · exact hle f (by simp) hfe
        · exact hrs.1 g hg
      · exact fun g hg => hle g (by simp [hg])
      · exact fun g hg => hlt g (by simp [hg])
    · rename_i hfe
      refine List.pairwise_cons.mpr ⟨?_, hr⟩
      intro g hg
      apply hlt g hg
      rcases List.mem_cons.mp hg with rfl | hg
      · exact Nat.lt_of_not_le hfe
      · exact Nat.lt_of_lt_of_le (Nat.lt_of_not_le hfe) (hf g hg)

theorem Ordered.place (h : Ordered s) (e : Entry) : Ordered (place e s) :=
  pairwise_place h h (fun _ _ hle => hle) (fun _ _ hlt => Nat.le_of_lt hlt)

theorem Ordered.without (h : Ordered s) (key : PatternKey) : Ordered (s.without key) :=
  h.sublist (without_sublist s key)

/-- No entry is due before the head. -/
theorem Ordered.head_le (h : Ordered s) (he : s.head? = some e) (hf : f ∈ s) :
    e.nextCheck ≤ f.nextCheck := by
  cases s with
  | nil => simp at he
  | cons g s =>
    obtain rfl : g = e := by simpa using he
    rcases List.mem_cons.mp hf with rfl | hf
    · exact Nat.le_refl _
    · exact (List.pairwise_cons.mp h).1 f hf

theorem nodup_without (h : (keys s).Nodup) (key : PatternKey) : (keys (without s key)).Nodup :=
  h.sublist ((without_sublist s key).map _)

theorem nodup_place (h : (keys s).Nodup) (he : e.key ∉ keys s) : (keys (place e s)).Nodup := by
  have hp : (keys (place e s)).Perm (e.key :: keys s) := (place_perm e s).map _
  exact hp.nodup_iff.mpr (List.nodup_cons.mpr ⟨he, h⟩)

theorem mem_of_entryOf (h : entryOf s k = some e) : e ∈ s := List.mem_of_find?_eq_some h

theorem key_of_entryOf (h : entryOf s k = some e) : e.key = k := by
  simpa using List.find?_some h

theorem entryOf_eq_none_iff : entryOf s k = none ↔ k ∉ keys s := by
  simp [entryOf, keys]

theorem mem_keys_iff : k ∈ keys s ↔ ∃ e, entryOf s k = some e := by
  rw [← Option.ne_none_iff_exists', ne_eq, entryOf_eq_none_iff, not_not]

theorem contains_iff : contains s k = true ↔ k ∈ keys s := by
  rw [contains, mem_keys_iff, Option.isSome_iff_exists]

/-- With one entry for each key, the entry of a key is the one that is there. -/
theorem entryOf_of_mem (hn : (keys s).Nodup) (h : e ∈ s) : entryOf s e.key = some e := by
  have hk : e.key ∈ keys s := List.mem_map_of_mem h
  obtain ⟨f, hf⟩ := mem_keys_iff.mp hk
  have he : f = e := List.inj_on_of_nodup_map hn (mem_of_entryOf hf) h (key_of_entryOf hf)
  rw [hf, he]

theorem entryOf_head (h : s.head? = some e) : entryOf s e.key = some e := by
  obtain ⟨l, rfl⟩ := List.head?_eq_some_iff.mp h
  simp [entryOf]

theorem entryOf_without (s : Schedule) (key k : PatternKey) :
    entryOf (without s key) k = if k = key then none else entryOf s k := by
  split
  · rename_i hk
    exact entryOf_eq_none_iff.mpr (hk ▸ notMem_keys_without s key)
  · rename_i hk
    induction s with
    | nil => rfl
    | cons f s ih =>
      by_cases hf : f.key = key
      · have hfk : f.key ≠ k := fun he => hk (he.symm.trans hf)
        simpa [without, entryOf, hf, Ne.symm hk] using ih
      · by_cases hfk : f.key = k
        · simp [without, entryOf, hfk, hk]
        · simpa [without, entryOf, hf, hfk] using ih

theorem entryOf_place_of_ne (h : k ≠ e.key) (s : Schedule) :
    entryOf (place e s) k = entryOf s k := by
  induction s with
  | nil => simp [place, entryOf, Ne.symm h]
  | cons f s ih =>
    rw [place]
    split
    · by_cases hf : f.key = k
      · simp [entryOf, hf]
      · simpa [entryOf, hf] using ih
    · simp [entryOf, Ne.symm h]

theorem entryOf_place_self (h : e.key ∉ keys s) : entryOf (place e s) e.key = some e := by
  induction s with
  | nil => simp [place, entryOf]
  | cons f s ih =>
    obtain ⟨hf, hs⟩ : e.key ≠ f.key ∧ e.key ∉ keys s := by simpa [keys] using h
    rw [place]
    split
    · simpa [entryOf, Ne.symm hf] using ih hs
    · simp [entryOf]

/-- An entry that is placed instead of the old one of its key is what its key leads to. -/
theorem entryOf_replace (s : Schedule) (e : Entry) (k : PatternKey) :
    entryOf (place e (without s e.key)) k = if k = e.key then some e else entryOf s k := by
  split
  · rename_i hk
    exact hk ▸ entryOf_place_self (notMem_keys_without s e.key)
  · rename_i hk
    rw [entryOf_place_of_ne hk, entryOf_without, if_neg hk]

theorem nodup_replace (h : (keys s).Nodup) (e : Entry) :
    (keys (place e (without s e.key))).Nodup :=
  nodup_place (nodup_without h e.key) (notMem_keys_without s e.key)

end GitDrift.Drift.Schedule
