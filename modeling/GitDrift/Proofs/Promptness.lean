import GitDrift.Proofs.CheckMoves
import Mathlib.Logic.Relation

/-!
How long a check takes. The clock of a session passes no moment at which something can be done, and
so a check ends when its last answer is there, or when the time that it may take is over, whichever
comes first.
-/
namespace GitDrift.Drift

variable {s : Session} {id : TaskId} {key : PatternKey} {c : Check} {t t₀ u : Instant} {mv : Move}
  {side : Side} {url : String} {resume : Except Git.GitError (List Git.Reference) → Detection}
  {remotes : Side → String → RemoteScript} {result : Except DriftError Bool} {limit : Option Span}
  {o : Option (Except DriftError Bool × Instant)} {d : Detection}

namespace Detection

/-- How a detection ends, and when, if it goes on from a given time and remotes behave in a given
way. It does not end if it waits for a remote that never answers. -/
def outcome? (remotes : Side → String → RemoteScript) :
    Detection → Instant → Option (Except DriftError Bool × Instant)
  | .done result, t => some (result, t)
  | .listing side url resume, t =>
    (remotes side url).latency.bind fun d =>
      outcome? remotes (resume (remotes side url).listing) (t + d)

/-- A detection takes its time, and its result is the one that it has by the listings alone. -/
theorem run_of_outcome? (h : d.outcome? remotes t = some (result, u)) :
    t ≤ u ∧ (d.run fun side url => (remotes side url).listing).1 = result := by
  induction d generalizing t with
  | done x =>
    obtain ⟨rfl, rfl⟩ := Prod.mk.inj (Option.some.inj h)
    exact ⟨le_rfl, rfl⟩
  | listing side url resume ih =>
    obtain ⟨l, _, h⟩ := Option.bind_eq_some_iff.mp h
    obtain ⟨hle, hrun⟩ := ih _ h
    exact ⟨Nat.le_trans (Nat.le_add_right t l) hle, hrun⟩

/-- How a check ends that starts at `t₀`, and when: as its detection does, if the time that it may
take is not over before. -/
inductive Within (limit : Option Span) (t₀ : Instant)
    (o : Option (Except DriftError Bool × Instant)) : Except DriftError Bool → Instant → Prop
  | finishes {result : Except DriftError Bool} {u : Instant} (h : o = some (result, u))
      (hle : ∀ l, limit = some l → u ≤ t₀ + l) : Within limit t₀ o result u
  | overruns {l : Span} (hl : limit = some l)
      (hlate : ∀ result u, o = some (result, u) → t₀ + l < u) :
      Within limit t₀ o (.error (.timeout l)) (t₀ + l)

/-- A check has a result if its detection has it by the end of the time that the check may take. -/
theorem Within.eq_ok_iff (h : Within limit t₀ o result u) (drifted : Bool) :
    result = .ok drifted ↔
      ∃ v, o = some (.ok drifted, v) ∧ ∀ l, limit = some l → v ≤ t₀ + l := by
  constructor
  · rintro rfl
    cases h with
    | finishes h hle => exact ⟨u, h, hle⟩
  · rintro ⟨v, ho, hv⟩
    cases h with
    | finishes h _ => exact congrArg Prod.fst (Option.some.inj (h.symm.trans ho))
    | overruns hl hlate => exact absurd (hv _ hl) (Nat.not_le.mpr (hlate _ _ ho))

end Detection

namespace Session

/-- A move that does not let the clock pass a moment at which something can be done. -/
def Prompt (s : Session) : Move → Prop
  | .wait d => ∀ t, s.nextTime? = some t → s.now + d ≤ max t s.now
  | _ => True

theorem now_work (s : Session) : (s.moved .work).now = s.now := by
  cases hs : s.step? with
  | none => rw [moved, hs, Option.getD_none]
  | some s' =>
    rw [moved, hs, Option.getD_some]
    exact (step?_steps hs).1

theorem now_le_moved (s : Session) (mv : Move) : s.now ≤ (s.moved mv).now := by
  cases mv with
  | wait d => exact Nat.le_add_right s.now d
  | work => exact Nat.le_of_eq (now_work s).symm
  | _ => exact le_rfl

theorem Prompt.now_le (h : s.Prompt mv) (hle : s.now ≤ t)
    (ht : some t ∈ [s.timer?, s.check.bind (·.readyAt), s.check.bind s.deadline?]) :
    (s.moved mv).now ≤ t := by
  cases mv with
  | wait d =>
    have hmem := (List.mem_filterMap (f := id)).mpr ⟨some t, ht, rfl⟩
    cases hnext : s.nextTime? with
    | none =>
      rw [List.min?_eq_none_iff.mp hnext] at hmem
      simp at hmem
    | some u =>
      have hut : u ≤ t := (List.min?_eq_some_iff.mp hnext).2 t hmem
      exact Nat.le_trans (h u hnext) (Nat.max_le.mpr ⟨hut, hle⟩)
  | work => exact now_work s ▸ hle
  | _ => exact hle

/-- All that happens while the clock runs is prompt. -/
theorem runUntil_prompt (fuel : ℕ) (h : s.now ≤ t) :
    Relation.ReflTransGen (fun u v => ∃ mv, u.Prompt mv ∧ v = u.moved mv) s
      (runUntil fuel t s) := by
  induction fuel generalizing s with
  | zero => exact .refl
  | succ fuel ih =>
    have hwait {v : Instant} (hv : s.now ≤ v)
        (hnext : ∀ u, s.nextTime? = some u → v ≤ max u s.now) :
        ∃ mv, s.Prompt mv ∧ ({ s with now := v } : Session) = s.moved mv := by
      refine ⟨.wait (v - s.now), ?_, ?_⟩
      · rw [Prompt, Nat.add_sub_cancel' hv]
        exact hnext
      · rw [moved, Nat.add_sub_cancel' hv]
    rw [runUntil]
    cases hs : s.step? with
    | some s' =>
      have hnow := (step?_steps hs).1
      exact .head ⟨.work, trivial, by rw [moved, hs, Option.getD_some]⟩ (ih (hnow ▸ h))
    | none =>
      cases hnext : s.nextTime? with
      | none => exact .single (hwait h (by simp [hnext]))
      | some u =>
        simp only
        split_ifs with hu
        · have hmax (v : Instant) (hv : s.nextTime? = some v) : max u s.now ≤ max v s.now := by
            rw [Option.some.inj (hnext.symm.trans hv)]
          exact .head (hwait (Nat.le_max_right u s.now) hmax) (ih (Nat.max_le.mpr ⟨hu, h⟩))
        · refine .single (hwait h fun v hv => ?_)
          obtain rfl := Option.some.inj (hnext.symm.trans hv)
          exact Nat.le_trans (Nat.le_of_lt (Nat.not_le.mp hu)) (Nat.le_max_left u s.now)

/-- A check that was started at `t₀` and is not late: its detection comes to `o` from where it
stands. -/
structure Awaits (s : Session) (remotes : Side → String → RemoteScript)
    (o : Option (Except DriftError Bool × Instant)) (t₀ : Instant) (c : Check) : Prop where
  current : s.check = some c
  started : c.startedAt = t₀
  not_late : ∀ t, c.readyAt = some t → s.now ≤ t
  not_over : ∀ l, s.limit = some l → s.now ≤ t₀ + l
  outcome : o = c.readyAt.bind fun t => (c.resume c.answer).outcome? remotes t

/-- A detection that has just asked a remote. -/
theorem awaits_proceed (hover : ∀ l, s.limit = some l → s.now ≤ t₀ + l)
    (ho : o = (Detection.listing side url resume).outcome? remotes s.now)
    (hurl : s.remote url = remotes side url) :
    ∃ c, (s.proceed id key t₀ (.listing side url resume)).Awaits remotes o t₀ c := by
  refine ⟨_, rfl, rfl, ?_, hover, ?_⟩
  · intro t ht
    obtain ⟨l, _, rfl⟩ := Option.map_eq_some_iff.mp ht
    exact Nat.le_add_right s.now l
  · rw [ho, Detection.outcome?, ← hurl, Option.bind_map]
    rfl

theorem Awaits.waits (h : s.Awaits remotes o t₀ c) (hp : s.Prompt mv)
    (hc : (s.moved mv).check = some c) (hlimit : (s.moved mv).limit = s.limit) :
    (s.moved mv).Awaits remotes o t₀ c := by
  refine ⟨hc, h.started, fun t ht => ?_, fun l hl => ?_, h.outcome⟩
  · exact hp.now_le (h.not_late t ht) (by simp [h.current, ht])
  · rw [hlimit] at hl
    exact hp.now_le (h.not_over l hl) (by simp [h.current, deadline?, hl, h.started])

/-- The answer that a check waits for is there, and its detection goes on. -/
theorem Awaits.answered (h : s.Awaits remotes o t₀ c) (ht : c.readyAt = some t) (hle : t ≤ s.now) :
    o = (c.resume c.answer).outcome? remotes s.now := by
  obtain rfl : t = s.now := Nat.le_antisymm hle (h.not_late t ht)
  rw [h.outcome, ht, Option.bind_some]

theorem Awaits.ends (h : s.Awaits remotes o t₀ c) (he : c.Ends s result) :
    Detection.Within s.limit t₀ o result s.now := by
  cases he with
  | answered ht hle hd =>
    refine .finishes ?_ h.not_over
    rw [h.answered ht hle, hd, Detection.outcome?]
  | @overdue l hl hover hlate =>
    rw [h.started] at hover
    have hnow : s.now = t₀ + l := Nat.le_antisymm (h.not_over l hl) hover
    rw [hnow] at hlate ⊢
    refine .overruns hl fun x u hu => ?_
    obtain ⟨v, hv, hu⟩ := Option.bind_eq_some_iff.mp (h.outcome.symm.trans hu)
    exact Nat.lt_of_lt_of_le (hlate v hv) (Detection.run_of_outcome? hu).1

end Session
end GitDrift.Drift
