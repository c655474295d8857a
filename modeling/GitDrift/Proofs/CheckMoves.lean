import GitDrift.Proofs.Rescheduling
import GitDrift.Proofs.Shutdown

/-!
What a move of a session is to a check that is under way, and what the end of a check does to a
session.
-/
namespace GitDrift.Drift

variable {s : Session} {id : TaskId} {key k : PatternKey} {c : Check} {time : Instant} {mv : Move}

namespace MemoryStore

variable {m : MemoryStore} {e : StoreError} {p : StoredPattern}

/-- A report of one Pattern is nothing to others. -/
theorem get?_report_of_ne {other : PatternKey} (hother : other ≠ key) (drifted : Bool)
    (now : Moment) : (m.report key drifted now).2.get? other = m.get? other := by
  rw [report]
  split
  · rfl
  · rename_i old hold
    split
    rename_i new changed hnew
    split_ifs
    · rw [writeConditions]
      split
      · exact Table.get?_insert.trans (if_neg hother)
      · rfl
    · rfl

theorem writeConditions_failed {l : List Condition}
    (hf : (m.writeConditions key l).1.isOk = false) : (m.writeConditions key l).2 = m := by
  unfold writeConditions at hf ⊢
  cases hp : m.get? key with
  | none => rfl
  | some p => simp [hp, Except.isOk, Except.toBool] at hf

/-- A report that fails changes nothing. -/
theorem report_failed {drifted : Bool} {now : Moment}
    (hf : (m.report key drifted now).1.isOk = false) : (m.report key drifted now).2 = m := by
  unfold report at hf ⊢
  cases hold : m.conditions key with
  | error e => rfl
  | ok old =>
    rcases hnew : setSyncCondition old drifted now with ⟨new, changed⟩
    simp only [hold, hnew] at hf ⊢
    cases changed with
    | true => exact writeConditions_failed hf
    | false => rfl

end MemoryStore

namespace Session

/-- What the store answers when a result is reported, and what becomes of it. -/
def attempt (s : Session) (key : PatternKey) (drifted : Bool) :
    Except StoreError Unit × MemoryStore :=
  if s.refusesReports then (.error .poisoned, s.store) else s.store.report key drifted s.wallTime

/-- What recording a result comes to. Of an error nothing is recorded, and so nothing fails. -/
def recorded (s : Session) (key : PatternKey) :
    Except DriftError Bool → Except StoreError Unit × MemoryStore
  | .ok drifted => s.attempt key drifted
  | .error _ => (.ok (), s.store)

/-- What is reported of a result; nothing, if it is an error. -/
def reportOf (key : PatternKey) (time : Span) : Except DriftError Bool → List LogEntry
  | .ok drifted => [.reported key drifted time]
  | .error _ => []

/-- How often a label of checks was counted. -/
def counted (s : Session) (label : String) : ℕ := (s.metrics.driftChecks.get? label).getD 0

/-- The results that were reported, latest first. -/
def reports (s : Session) : List LogEntry :=
  s.log.filter fun
    | .reported _ _ _ => true
    | .listed _ _ _ => false

theorem report_eq (s : Session) (key : PatternKey) (drifted : Bool) :
    s.report key drifted =
      { s with
        log := .reported key drifted s.elapsed :: s.log
        store := (s.attempt key drifted).2
        metrics :=
          if (s.attempt key drifted).1.isOk then s.metrics else s.metrics.writeFailure } := by
  simp only [report]
  split
  · rename_i hok
    have hok : (s.attempt key drifted).1 = .ok () := hok
    rw [hok]
    rfl
  · rename_i e herror
    have herror : (s.attempt key drifted).1 = .error e := herror
    rw [herror]
    rfl

theorem conclude_eq (s : Session) (id : TaskId) (key : PatternKey) (startedAt : Instant)
    (result : Except DriftError Bool) :
    s.conclude id key startedAt result =
      let metrics :=
        s.metrics.driftCheck (resultLabel result) (secondsBetween startedAt s.now)
      { s with
        check := none
        log := reportOf key s.elapsed result ++ s.log
        store := (s.recorded key result).2
        metrics := if (s.recorded key result).1.isOk then metrics else metrics.writeFailure
        watcher := (s.watcher.finishCheck id key s.now).2 } := by
  cases result with
  | error e => rfl
  | ok drifted =>
    simp only [conclude, report_eq]
    rfl

variable (s id key time)

theorem conclude_counted (result : Except DriftError Bool) (label : String) :
    (s.conclude id key time result).counted label =
      s.counted label + if label = resultLabel result then 1 else 0 := by
  have hfailed (m : Metrics) (b : Bool) :
      (if b then m else m.writeFailure).driftChecks = m.driftChecks := by
    cases b <;> rfl
  simp only [conclude_eq, counted, hfailed, Metrics.driftCheck, Metrics.tally, Table.get?_insert]
  split_ifs with hlabel
  · rw [Option.getD_some, hlabel]
  · rfl

theorem conclude_reports (result : Except DriftError Bool) :
    (s.conclude id key time result).reports = reportOf key s.elapsed result ++ s.reports := by
  rw [conclude_eq, reports, List.filter_append, reports]
  cases result <;> rfl

theorem conclude_writeFailures (result : Except DriftError Bool) :
    (s.conclude id key time result).metrics.conditionWriteFailures =
      s.metrics.conditionWriteFailures + if (s.recorded key result).1.isOk then 0 else 1 := by
  rw [conclude_eq]
  cases (s.recorded key result).1.isOk <;> rfl

theorem conclude_store (result : Except DriftError Bool) :
    (s.conclude id key time result).store = (s.recorded key result).2 := by
  rw [conclude_eq]

/-- What is recorded of a key changes nothing for others. -/
theorem get?_recorded {other : PatternKey} (hother : other ≠ key)
    (result : Except DriftError Bool) :
    (s.recorded key result).2.get? other = s.store.get? other := by
  cases result with
  | error e => rfl
  | ok drifted =>
    rw [recorded, attempt]
    split
    · rfl
    · exact MemoryStore.get?_report_of_ne hother drifted s.wallTime

theorem recorded_failed {result : Except DriftError Bool}
    (hf : (s.recorded key result).1.isOk = false) : (s.recorded key result).2 = s.store := by
  cases result with
  | error e => rfl
  | ok drifted =>
    rw [recorded, attempt] at hf ⊢
    split_ifs at hf ⊢
    · rfl
    · exact MemoryStore.report_failed hf

variable {s id key time}

/-- What a move leaves alone while a check waits. -/
structure Rests (s s' : Session) : Prop where
  log : s'.log = s.log
  metrics : s'.metrics = s.metrics
  limit : s'.limit = s.limit

end Session

/-- How a check comes to its end: the last answer is there, or the time that it may take is over and
the answer that it waits for is not there. -/
inductive Check.Ends (c : Check) (s : Session) : Except DriftError Bool → Prop
  | answered {t : Instant} {result : Except DriftError Bool} (ht : c.readyAt = some t)
      (hle : t ≤ s.now) (h : c.resume c.answer = .done result) : Ends c s result
  | overdue {l : Span} (hl : s.limit = some l) (hover : c.startedAt + l ≤ s.now)
      (hlate : ∀ t, c.readyAt = some t → s.now < t) : Ends c s (.error (.timeout l))

namespace Session

/-- What a move is to a check that the task `id` has under way. -/
inductive Course (s : Session) (id : TaskId) (key : PatternKey) (c : Check) (mv : Move) : Prop
  | waits (hc : (s.moved mv).check = some c) (hrests : s.Rests (s.moved mv))
      (hstore : (∀ store refuses remotes, mv ≠ .surround store refuses remotes) →
        (s.moved mv).store = s.store)
      (hown : ∀ a ∈ s.moveEvents mv, a.actor? = none)
  | asks {t : Instant} {side : Side} {url : String}
      {resume : Except Git.GitError (List Git.Reference) → Detection} (ht : c.readyAt = some t)
      (hle : t ≤ s.now) (hd : c.resume c.answer = .listing side url resume)
      (hs : s.moved mv = s.proceed id key c.startedAt (.listing side url resume))
      (hev : s.moveEvents mv = [])
  | ends {result : Except DriftError Bool} (hresult : c.Ends s result)
      (hs : s.moved mv = s.conclude id key c.startedAt result)
      (hev : s.moveEvents mv = [s.ending id key])
  | exits (hev : s.moveEvents mv = [.task id .exit])

theorem course (hr : s.watcher.running = some id)
    (hp : s.watcher.phase? id = some (.checking key)) (hc : s.check = some c) (mv : Move) :
    s.Course id key c mv := by
  cases mv with
  | call call =>
    refine .waits hc ⟨rfl, rfl, rfl⟩ (fun _ => rfl) fun a ha => ?_
    rw [List.mem_singleton.mp ha]
    exact Call.actor?_event
  | surround store refuses remotes =>
    exact .waits hc ⟨rfl, rfl, rfl⟩ (fun h => absurd rfl (h _ _ _)) (by simp [moveEvents])
  | wait d => exact .waits hc ⟨rfl, rfl, rfl⟩ (fun _ => rfl) (by simp [moveEvents])
  | work =>
    obtain ⟨t, ht, hphase⟩ := Option.map_eq_some_iff.mp hp
    have hchecking : s.watcher.checking? = some (id, key) := by
      simp [Watcher.checking?, hr, ht, hphase]
    -- a task that was stopped gives up its check, even if the answer is there
    cases hstop : t.stopped with
    | true =>
      have hnext : s.watcher.nextStep? id s.now = some .exit := by
        simp [Watcher.nextStep?, ht, hphase, hstop]
      exact .exits (by simp [moveEvents, stepEvents, hr, hnext, taskEvents])
    | false =>
      have hnext : s.watcher.nextStep? id s.now = none := by
        simp [Watcher.nextStep?, ht, hphase, hstop]
      have hmoved : s.moved .work = (s.checkStep? id key).getD s := by
        simp [moved, step?, hr, hnext, hchecking]
      have hevents : s.moveEvents .work = s.checkEvents id key := by
        simp [moveEvents, stepEvents, hr, hnext, hchecking]
      simp only [checkStep?, checkEvents, hc, Option.bind_some] at hmoved hevents
      split_ifs at hmoved hevents with hready hover
      · obtain ⟨u, hu, hle⟩ := (Option.any_eq_true _ _).mp hready
        cases hd : c.resume c.answer with
        | done result =>
          rw [hd] at hmoved hevents
          exact .ends (.answered hu (of_decide_eq_true hle) hd) hmoved hevents
        | listing side url resume =>
          rw [hd] at hmoved hevents
          exact .asks hu (of_decide_eq_true hle) hd hmoved hevents
      · obtain ⟨u, hu, hle⟩ := (Option.any_eq_true _ _).mp hover
        obtain ⟨l, hl, rfl⟩ := Option.map_eq_some_iff.mp hu
        have hlate : ∀ v, c.readyAt = some v → s.now < v := by
          intro v hv
          simpa [hv] using hready
        rw [hl, Option.getD_some] at hmoved
        exact .ends (.overdue hl (of_decide_eq_true hle) hlate) hmoved hevents
      · exact .waits (hmoved ▸ hc) (hmoved ▸ ⟨rfl, rfl, rfl⟩) (fun _ => hmoved ▸ rfl)
          (by simp [hevents])

end Session
end GitDrift.Drift
