import GitDrift.Proofs.Activity

/-!
What activities do while others act on the same state. Of the state an activity knows what no other
makes untrue, and what it does next is allowed by what it knows.
-/
namespace GitDrift.Cluster

variable {σ τ α β : Type}

/-- What an activity does at a moment. -/
inductive Deed (σ : Type) where
  | acts (before after : σ)
  | asks (state : σ) (request : Request)
  /-- It breaks off. -/
  | crashes (state : σ)

namespace Activity

/-- What an activity does when all its work is done at once. -/
def deeds (answer : Request → τ → Answer × τ) : Activity σ α → σ → τ → List (Deed σ)
  | .done _, _, _ => []
  | .crash, s, _ => [.crashes s]
  | .act update next, s, t => .acts s (update s) :: deeds answer (next s) (update s) t
  | .ask request next, s, t =>
    .asks s request :: deeds answer (next (answer request t).1) s (answer request t).2

/-- A deed of an activity, after which it goes on. The answer to a request may be any. -/
inductive Takes : Activity σ α → σ → Deed σ → Activity σ α → σ → Prop
  | act (update : σ → σ) (next : σ → Activity σ α) (s : σ) :
      Takes (.act update next) s (.acts s (update s)) (next s) (update s)
  | ask (request : Request) (next : Answer → Activity σ α) (s : σ) (a : Answer) :
      Takes (.ask request next) s (.asks s request) (next a) s

end Activity

/-- Others do not make untrue what is known. -/
def Stable (others : σ → σ → Prop) (known : σ → Prop) : Prop :=
  ∀ s s', others s s' → known s → known s'

/-- From a state of which something is known, an activity does only what is allowed, whatever others
do and whatever it is answered, and of its result something is known as well. -/
inductive Keeps (others : σ → σ → Prop) (allowed : Deed σ → Prop) (result : α → σ → Prop) :
    (σ → Prop) → Activity σ α → Prop
  | done {known : σ → Prop} {a : α} (h : ∀ s, known s → result a s) :
      Keeps others allowed result known (.done a)
  | crash {known : σ → Prop} (h : ∀ s, known s → allowed (.crashes s)) :
      Keeps others allowed result known .crash
  | act {known : σ → Prop} {update : σ → σ} {next : σ → Activity σ α} (after : σ → σ → Prop)
      (hs : ∀ s, Stable others (after s))
      (h : ∀ s, known s → allowed (.acts s (update s)) ∧ after s (update s))
      (hn : ∀ s, known s → Keeps others allowed result (after s) (next s)) :
      Keeps others allowed result known (.act update next)
  | ask {known : σ → Prop} {request : Request} {next : Answer → Activity σ α}
      (h : ∀ s, known s → allowed (.asks s request))
      (hn : ∀ a, Keeps others allowed result known (next a)) :
      Keeps others allowed result known (.ask request next)

namespace Keeps

variable {others : σ → σ → Prop} {allowed : Deed σ → Prop} {result : α → σ → Prop}
  {known known' : σ → Prop} {m m' : Activity σ α} {s s' : σ} {d : Deed σ}

theorem weaken (h : Keeps others allowed result known m) (hk : ∀ s, known' s → known s) :
    Keeps others allowed result known' m := by
  induction h with
  | done h => exact .done fun s hs => h s (hk s hs)
  | crash h => exact .crash fun s hs => h s (hk s hs)
  | act after hs h hn => exact .act after hs (fun s hs => h s (hk s hs)) fun s hs => hn s (hk s hs)
  | ask h hn ih => exact .ask (fun s hs => h s (hk s hs)) fun a => ih a hk

theorem bind {f : α → Activity σ β} {result' : β → σ → Prop}
    (hm : Keeps others allowed result known m)
    (hf : ∀ a, Keeps others allowed result' (result a) (f a)) :
    Keeps others allowed result' known (m >>= f) := by
  change Keeps others allowed result' known (m.bind f)
  induction hm with
  | done h => exact (hf _).weaken h
  | crash h => exact .crash h
  | act after hs h hn ih => exact .act after hs h ih
  | ask h hn ih => exact .ask h ih

theorem look (f : σ → α) (hs : Stable others known) (h : ∀ s, known s → allowed (.acts s s)) :
    Keeps others allowed (fun _ => known) known (Activity.look f) :=
  .act (fun _ => known) (fun _ => hs) (fun s hs => ⟨h s hs, hs⟩) fun _ _ => .done fun _ hs => hs

theorem changeGet {f : σ → α × σ} (hs : ∀ a, Stable others (result a))
    (h : ∀ s, known s → allowed (.acts s (f s).2) ∧ result (f s).1 (f s).2) :
    Keeps others allowed result known (Activity.changeGet f) :=
  .act (fun s => result (f s).1) (fun s => hs (f s).1) h fun _ _ => .done fun _ hs => hs

theorem change {f : σ → σ} (hs : Stable others known')
    (h : ∀ s, known s → allowed (.acts s (f s)) ∧ known' (f s)) :
    Keeps others allowed (fun _ => known') known (Activity.change f) :=
  .act (fun _ => known') (fun _ => hs) h fun _ _ => .done fun _ hs => hs

theorem request {r : Request} (h : ∀ s, known s → allowed (.asks s r)) :
    Keeps others allowed (fun _ => known) known (Activity.request r) :=
  .ask h fun _ => .done fun _ hs => hs

/-- After a deed something is known again. -/
theorem takes (h : Keeps others allowed result known m) (hk : Stable others known) (hs : known s)
    (ht : m.Takes s d m' s') : allowed d ∧ ∃ known', Stable others known' ∧ known' s' ∧
      Keeps others allowed result known' m' := by
  cases ht with
  | act update next s =>
    cases h with
    | act after hst h hn => exact ⟨(h s hs).1, after s, hst s, (h s hs).2, hn s hs⟩
  | ask request next s a =>
    cases h with
    | ask h hn => exact ⟨h s hs, known, hk, hs, hn a⟩

theorem deeds (h : Keeps others allowed result known m) (hs : known s)
    (answer : Request → τ → Answer × τ) (t : τ) : ∀ d ∈ m.deeds answer s t, allowed d := by
  induction h generalizing s t with
  | done h => simp [Activity.deeds]
  | crash h => simpa [Activity.deeds] using h s hs
  | act after hst h hn ih =>
    intro d hd
    rcases List.mem_cons.mp hd with rfl | hd
    · exact (h s hs).1
    · exact ih s hs (h s hs).2 t d hd
  | ask h hn ih =>
    intro d hd
    rcases List.mem_cons.mp hd with rfl | hd
    · exact h s hs
    · exact ih _ hs _ d hd

/-- An activity that may not break off has a result. -/
theorem run (h : Keeps others allowed result known m) (hs : known s)
    (hc : ∀ s, ¬ allowed (.crashes s)) (answer : Request → τ → Answer × τ) (t : τ) :
    ∃ a s' t', m.run answer s t = (some a, s', t') ∧ result a s' := by
  induction h generalizing s t with
  | done h => exact ⟨_, s, t, rfl, h s hs⟩
  | crash h => exact absurd (h s hs) (hc s)
  | act after hst h hn ih => exact ih s hs (h s hs).2 t
  | ask h hn ih => exact ih _ hs _

/-- If an activity has a result, that is as it should be. -/
theorem result_of_run (h : Keeps others allowed result known m) (hs : known s)
    {answer : Request → τ → Answer × τ} {t t' : τ} {a : α}
    (hm : m.run answer s t = (some a, s', t')) : result a s' := by
  induction h generalizing s t with
  | done h =>
    cases hm
    exact h _ hs
  | crash h => cases hm
  | act after hst h hn ih => exact ih s hs (h s hs).2 hm
  | ask h hn ih => exact ih _ hs hm

end Keeps
end GitDrift.Cluster
