import GitDrift.Cluster.Patterns

/-! Activities that are run at once, with a server that answers as it likes. -/
namespace GitDrift.Cluster

variable {σ τ α β : Type} {answer : Request → τ → Answer × τ} {s s' : σ} {t t' : τ}

namespace Activity

theorem run_bind (m : Activity σ α) (f : α → Activity σ β) (s : σ) (t : τ) :
    (m >>= f).run answer s t =
      match m.run answer s t with
      | (some a, s, t) => (f a).run answer s t
      | (none, s, t) => (none, s, t) := by
  change (m.bind f).run answer s t = _
  induction m generalizing s t with
  | done a => rfl
  | crash => rfl
  | act update next ih => exact ih s (update s) t
  | ask request next ih => exact ih (answer request t).1 s (answer request t).2

/-- Only if its first part has a result does an activity go on to have one. -/
theorem run_bind_eq_some {m : Activity σ α} {f : α → Activity σ β} {b : β}
    (h : (m >>= f).run answer s t = (some b, s', t')) :
    ∃ a s₁ t₁, m.run answer s t = (some a, s₁, t₁) ∧
      (f a).run answer s₁ t₁ = (some b, s', t') := by
  rw [run_bind] at h
  rcases hm : m.run answer s t with ⟨_ | a, s₁, t₁⟩
  · simp [hm] at h
  · exact ⟨a, s₁, t₁, rfl, by simpa [hm] using h⟩

@[simp] theorem run_pure (a : α) : (pure a : Activity σ α).run answer s t = (some a, s, t) := rfl

@[simp] theorem run_look (f : σ → α) : (look f).run answer s t = (some (f s), s, t) := rfl

@[simp] theorem run_change (f : σ → σ) : (change f).run answer s t = (some (), f s, t) := rfl

@[simp] theorem run_changeGet (f : σ → α × σ) :
    (changeGet f).run answer s t = (some (f s).1, (f s).2, t) := rfl

/-- An activity that does nothing but ask. -/
inductive Asks : Activity σ α → Prop
  | done (a : α) : Asks (.done a)
  | ask (request : Request) {next : Answer → Activity σ α} (h : ∀ a, Asks (next a)) :
      Asks (.ask request next)

theorem Asks.bind {m : Activity σ α} {f : α → Activity σ β} (hm : Asks m)
    (hf : ∀ a, Asks (f a)) : Asks (m >>= f) := by
  change Asks (m.bind f)
  induction hm with
  | done a => exact hf a
  | ask request h ih => exact .ask request ih

/-- Whatever it is answered, it has a result, and the state is as it was. -/
theorem Asks.run {m : Activity σ α} (h : Asks m) (answer : Request → τ → Answer × τ) (s : σ)
    (t : τ) : ∃ a t', m.run answer s t = (some a, s, t') := by
  induction h generalizing t with
  | done a => exact ⟨a, t, rfl⟩
  | ask request h ih => exact ih (answer request t).1 (answer request t).2

/-- An activity that does nothing but ask once, if at all. -/
inductive AsksOnce : Activity σ α → Prop
  | done (a : α) : AsksOnce (.done a)
  | ask (request : Request) {next : Answer → Activity σ α} (h : ∀ a, ∃ b, next a = .done b) :
      AsksOnce (.ask request next)

theorem AsksOnce.asks {m : Activity σ α} (h : AsksOnce m) : Asks m := by
  cases h with
  | done a => exact .done a
  | ask request h =>
    refine .ask request fun a => ?_
    obtain ⟨b, hb⟩ := h a
    exact hb ▸ .done b

theorem AsksOnce.bind {m : Activity σ α} {f : α → Activity σ β} (hm : AsksOnce m)
    (hf : ∀ a, ∃ b, f a = .done b) : AsksOnce (m >>= f) := by
  change AsksOnce (m.bind f)
  cases hm with
  | done a =>
    obtain ⟨b, hb⟩ := hf a
    rw [Activity.bind, hb]
    exact .done b
  | ask request h =>
    refine .ask request fun answer => ?_
    obtain ⟨a, ha⟩ := h answer
    obtain ⟨b, hb⟩ := hf a
    exact ⟨b, by rw [ha]; exact hb⟩

/-- What becomes of a server when an activity that only asks is given up on its way: some of its
requests have been answered, the last of them unheard perhaps. -/
inductive GivenUp (answer : Request → τ → Answer × τ) : Activity σ α → τ → τ → Prop
  | now (m : Activity σ α) (t : τ) : GivenUp answer m t t
  | later {request : Request} {next : Answer → Activity σ α} {t t' : τ}
      (h : GivenUp answer (next (answer request t).1) (answer request t).2 t') :
      GivenUp answer (.ask request next) t t'

/-- One request has been answered or it has not. -/
theorem AsksOnce.givenUp {m : Activity σ α} (hm : AsksOnce m) (h : GivenUp answer m t t') (s : σ) :
    t' = t ∨ t' = (m.run answer s t).2.2 := by
  cases hm with
  | done a =>
    cases h
    exact .inl rfl
  | ask request hnext =>
    cases h with
    | now => exact .inl rfl
    | later h =>
      obtain ⟨b, hb⟩ := hnext (answer request t).1
      rw [hb] at h
      cases h
      exact .inr (by simp [Activity.run, hb])

/-- An activity in two parts is given up in its first part, or in its second. -/
theorem Asks.givenUp_bind {m : Activity σ α} {f : α → Activity σ β} (hm : Asks m)
    (h : GivenUp answer (m >>= f) t t') :
    GivenUp answer m t t' ∨
      ∃ a t₁, (∀ s, m.run answer s t = (some a, s, t₁)) ∧ GivenUp answer (f a) t₁ t' := by
  change GivenUp answer (m.bind f) t t' at h
  induction hm generalizing t with
  | done a => exact .inr ⟨a, t, fun _ => rfl, h⟩
  | ask request _ ih =>
    cases h with
    | now => exact .inl (.now _ _)
    | later h => exact (ih _ h).imp .later id

end Activity

open Activity

theorem Patterns.asksOnce_ask (key : PatternKey) (part : String) (method : Method)
    (body : Option (PatchFormat × Json)) :
    AsksOnce (Patterns.ask key part method body : Activity σ _) := by
  unfold Patterns.ask
  split
  · exact .done _
  · exact .ask _ fun _ => ⟨_, rfl⟩

theorem Patterns.asksOnce_patchStatus (key : PatternKey) (patch : Json) :
    AsksOnce (Patterns.patchStatus key patch : Activity σ _) :=
  asksOnce_ask key _ _ _

end GitDrift.Cluster
