import GitDrift.Proofs.CheckCourse
import GitDrift.Proofs.StoreAgreement

/-!
Checks of Patterns that a cluster keeps. What a session does at once with its store in memory takes
requests there, and a task can be stopped between them. As long as the server holds what is in
memory, a check begins with the same comparison and ends with the same conditions, and a report that
is given up on its way has been made or has changed nothing.
-/
namespace GitDrift.Drift

open Cluster Patterns

variable {τ : Type} {keys : Set PatternKey} {server : ApiServer keys τ} {key : PatternKey}
  {m : MemoryStore} {s : Session} {t : τ} {log : List Request} {x : τ × List Request} {d : Bool}
  {now : Moment}

/-- A check begins with the comparison that it begins with in memory, or it is over at once with an
error of the store, in memory as well. -/
theorem Session.detection_in_cluster (hkey : key ∈ keys) (h : server.Mirrors s.store t) :
    ∃ config t',
      server.Does (ClusterStore.config key : Activity Unit _) t config (reading key).toList t' ∧
      server.Mirrors s.store t' ∧
      (Detection.start key config = s.detection key ∨
        ∃ e e', Detection.start key config = .done (.error (.store e)) ∧
          s.detection key = .done (.error (.store e'))) := by
  obtain ⟨p, t', hdoes, hleaves, hfetched⟩ := does_fetch (σ := Unit) hkey h
  refine ⟨_, t', hdoes.map _, h.leave hleaves, ?_⟩
  have hagree : ReadAgree key (MemoryStore.config s.store key) (p.map (·.spec.gitSpec)) :=
    hfetched.readAgree _ _ fun _ => rfl
  unfold Session.detection
  generalize MemoryStore.config s.store key = known at hagree ⊢
  generalize p.map (·.spec.gitSpec) = config at hagree ⊢
  cases hagree with
  | same config => exact .inl rfl
  | notFound | noRequest => exact .inr ⟨_, _, rfl, rfl⟩

/-- A report that nobody stops fails exactly if it fails in memory, and comes to the same. -/
theorem Session.report_in_cluster (hkey : key ∈ keys) (h : server.Mirrors s.store t)
    (hw : s.store.Writable keys) (hr : s.refusesReports = false) (d : Bool) :
    ∃ result t', server.Does (ClusterStore.perform key (.report d s.wallTime) : Activity Unit _) t
        result (MemoryStore.requests s.store key (.report d s.wallTime)) t' ∧
      result.isOk = (s.attempt key d).1.isOk ∧ server.Mirrors (s.report key d).store t' := by
  obtain ⟨result, t', hdoes, hagree⟩ := does_report (σ := Unit) hkey h hw d s.wallTime
  have hattempt : s.attempt key d = s.store.report key d s.wallTime := by simp [attempt, hr]
  refine ⟨result, t', hdoes, ?_, ?_⟩
  · have hresult := hagree.result
    simp only [MemoryStore.perform] at hresult
    rw [hattempt]
    generalize (s.store.report key d s.wallTime).1 = y at hresult ⊢
    cases y with
    | ok u => cases hresult; rfl
    | error e => cases hresult <;> rfl
  · rw [report_eq, hattempt]
    exact hagree.mirrors

/-- Once the conditions have been read, a report that is given up has changed nothing, or has been
made. -/
theorem afterRead_given_up {old : Except StoreError (List Condition)} (hkey : key ∈ keys)
    (h : server.Mirrors m t) (hread : ReadAgree key (MemoryStore.conditions m key) old)
    (hx : Activity.GivenUp (ApiServer.logged server.answer)
      (ClusterStore.afterRead key d now old : Activity Unit _) (t, log) x) :
    server.Mirrors m x.1 ∨ server.Mirrors (MemoryStore.report m key d now).2 x.1 := by
  generalize hm : MemoryStore.conditions m key = known at hread
  cases hread with
  | notFound | noRequest =>
    cases hx
    exact .inl h
  | same old =>
    simp only [ClusterStore.afterRead] at hx
    split_ifs at hx with hchanged
    · have hreport : (MemoryStore.report m key d now).2 =
          (MemoryStore.writeConditions m key (setSyncCondition old d now).1).2 := by
        simp [MemoryStore.report, hm, hchanged]
      rcases (ClusterStore.asksOnce_writeConditions key _).givenUp hx () with rfl | rfl
      · exact .inl h
      · cases hwriting : writing key (setSyncCondition old d now).1 with
        | none =>
          rw [ClusterStore.run_writeConditions_of_none hwriting]
          exact .inl h
        | some r =>
          obtain ⟨y, t', hdoes, _, hmirrors, _⟩ :=
            does_writeConditions (σ := Unit) hkey h fun _ => by rw [hwriting]; rfl
          rw [hdoes () log, hreport]
          exact .inr hmirrors
    · cases hx
      exact .inl h

/-- However far a report has come when it is given up, the server holds what it held, or what it
would hold after the whole report. -/
theorem report_given_up (hkey : key ∈ keys) (h : server.Mirrors m t)
    (hx : Activity.GivenUp (ApiServer.logged server.answer)
      (ClusterStore.report key d now : Activity Unit _) (t, log) x) :
    server.Mirrors m x.1 ∨ server.Mirrors (MemoryStore.report m key d now).2 x.1 := by
  obtain ⟨old, t', hdoes, hleaves, hagree⟩ := does_conditions (σ := Unit) hkey h
  have honce := ClusterStore.asksOnce_conditions (σ := Unit) key
  rw [ClusterStore.report_eq] at hx
  rcases honce.asks.givenUp_bind hx with hx | ⟨old', x', hrun, hx⟩
  · rcases honce.givenUp hx () with rfl | rfl
    · exact .inl h
    · rw [hdoes () log]
      exact .inl (h.leave hleaves)
  · have hread := (hdoes () log).symm.trans (hrun ())
    simp only [Prod.mk.injEq, Option.some.injEq] at hread
    obtain ⟨rfl, -, rfl⟩ := hread
    exact afterRead_given_up hkey (h.leave hleaves) hagree hx

end GitDrift.Drift
