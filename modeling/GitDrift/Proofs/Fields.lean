import GitDrift.Json
import Mathlib.Data.String.Basic

/-! Fields that are looked up, set and dropped, and objects in their normal form. -/
namespace GitDrift.Json.Fields

variable {fields : Fields} {name n : String} {v : Json}

theorem get?_cons (x : String × Json) :
    get? (x :: fields) name = if x.1 = name then some x.2 else get? fields name := by
  by_cases h : x.1 = name <;> simp [get?, h]

theorem get?_put : get? (put n v fields) name = if name = n then some v else get? fields name := by
  induction fields with
  | nil => simp [put, get?, eq_comm]
  | cons x rest ih =>
    obtain ⟨m, w⟩ := x
    unfold put
    split_ifs with hnm hlt hn hn hn
    all_goals grind [get?_cons]

theorem get?_drop : get? (drop n fields) name = if name = n then none else get? fields name := by
  induction fields with
  | nil => simp [drop, get?]
  | cons x rest ih =>
    obtain ⟨m, w⟩ := x
    simp only [drop, List.filter_cons] at ih ⊢
    split_ifs with hm hn <;> grind [get?_cons]

theorem get?_eq_none_iff : get? fields name = none ↔ name ∉ fields.map Prod.fst := by
  simp only [get?, Option.map_eq_none_iff, List.find?_eq_none, List.mem_map, decide_eq_true_eq,
    not_exists, not_and]

theorem mem_of_get? (h : get? fields name = some v) : name ∈ fields.map Prod.fst := by
  by_contra hn
  cases (get?_eq_none_iff.mpr hn).symm.trans h

/-- The names are in increasing order, and there are no two of one name. -/
def Ordered (fields : Fields) : Prop := (fields.map Prod.fst).Pairwise (· < ·)

theorem Ordered.nodup (h : Ordered fields) : (fields.map Prod.fst).Nodup :=
  h.imp ne_of_lt

theorem ordered_drop (h : Ordered fields) : Ordered (drop n fields) :=
  h.sublist ((List.filter_sublist).map _)

/-- A field that is set comes behind what all fields come behind. -/
theorem lt_of_mem_put {m : String} (hn : m < n) (h : ∀ x ∈ fields.map Prod.fst, m < x) :
    ∀ x ∈ (put n v fields).map Prod.fst, m < x := by
  induction fields with
  | nil => simpa [put] using hn
  | cons x rest ih =>
    obtain ⟨k, w⟩ := x
    unfold put
    split_ifs <;> grind

theorem ordered_put (h : Ordered fields) : Ordered (put n v fields) := by
  induction fields with
  | nil => simp [put, Ordered]
  | cons x rest ih =>
    obtain ⟨m, w⟩ := x
    obtain ⟨hm, hrest⟩ := List.pairwise_cons.mp h
    unfold put
    split_ifs with heq hlt
    · subst heq
      exact h
    · refine List.pairwise_cons.mpr ⟨fun k hk => ?_, h⟩
      rcases List.mem_cons.mp hk with rfl | hk
      · exact hlt
      · exact hlt.trans (hm k hk)
    · have hmn : m < n := lt_of_le_of_ne (not_lt.mp hlt) (Ne.symm heq)
      exact List.pairwise_cons.mpr ⟨lt_of_mem_put hmn hm, ih hrest⟩

variable {target patch inner : Fields} {t : Json} {s : String} {items : List Json}

theorem merge_obj : merge t (.obj patch) = .obj (mergeFields t.fields patch) := by
  rw [merge]

theorem mergeFields_nil : mergeFields target [] = target := rfl

theorem mergeFields_null :
    mergeFields target ((n, .null) :: patch) = mergeFields (drop n target) patch := rfl

theorem mergeFields_str :
    mergeFields target ((n, .str s) :: patch) = mergeFields (put n (.str s) target) patch := rfl

theorem mergeFields_arr :
    mergeFields target ((n, .arr items) :: patch) = mergeFields (put n (.arr items) target) patch :=
  rfl

theorem mergeFields_obj : mergeFields target ((n, .obj inner) :: patch) =
    mergeFields (put n (.obj (mergeFields ((get? target n).getD .null).fields inner)) target)
      patch := rfl

end GitDrift.Json.Fields
