import GitDrift.Proofs.CheckCourse
import GitDrift.Proofs.ListingRoundTrip
import GitDrift.Proofs.Restart
import GitDrift.Proofs.Settled

/-!
A check that fails does no harm. However a check ends, it is counted once and its key is scheduled
again; only a comparison that succeeded is reported, and nothing else is touched.
-/
namespace GitDrift.Drift

variable {h : History} {id : TaskId} {k : PatternKey} {m n r : ℕ} {e : Entry} {time : Instant}
  {s : Session} {result : Except DriftError Bool}

/-- A step that concerns one key at most leaves the entries of others. -/
theorem Effect.without_apply {f : Effect} (hf : f.key? = none ∨ f.key? = some k) (now : Instant)
    (s : Schedule) : (f.apply now s).without k = s.without k := by
  cases f with
  | books key d =>
    obtain rfl : key = k := by simpa [Effect.key?] using hf
    exact (Schedule.without_place _ ⟨key, d, none, now + d⟩).trans (Schedule.without_without s key)
  | drops key =>
    obtain rfl : key = k := by simpa [Effect.key?] using hf
    exact Schedule.without_without s key
  | loses key =>
    obtain rfl : key = k := by simpa [Effect.key?] using hf
    exact Schedule.without_without s key
  | completes key time =>
    obtain rfl : key = k := by simpa [Effect.key?] using hf
    simp only [Effect.apply]
    split
    · rename_i e he
      obtain rfl := Schedule.key_of_entryOf he
      exact (Schedule.without_place _ (Schedule.checked e time)).trans
        (Schedule.without_without s e.key)
    · rfl
  | keeps => rfl

theorem scheduled_watcher (h : History) (n : ℕ) : Scheduled (h.watcher n).schedule := by
  induction n with
  | zero => simp [watcher_zero, Scheduled]
  | succ n ih =>
    refine (watcher_steps h n).keep (P := fun w => Scheduled w.schedule) ih ?_
    intro v v' a _ hs hv
    exact schedule_step hs ▸ scheduled_apply _ _ hv

theorem now_mono (h : History) (hmn : m ≤ n) : (h.session m).now ≤ (h.session n).now :=
  monotone_nat_of_le_succ (fun n => Session.now_le_moved (h.session n) (h.move n)) hmn

namespace History.UnderWay

/-- What the task does while its check is under way. -/
theorem mem_events (hu : h.UnderWay id k m n) (hmr : m ≤ r) (hrn : r ≤ n)
    (hw : h.move r = .work) {a : Event} (ha : a ∈ h.events r) :
    (∃ step, a = .task id step) ∨ ∃ time x, a = .finish id k time x := by
  rcases Nat.eq_or_lt_of_le hmr with rfl | hmr
  · obtain ⟨_, _, _, hev⟩ := launch hu.starts
    rw [hev] at ha
    rcases List.mem_cons.mp ha with rfl | ha
    · exact .inl ⟨_, rfl⟩
    · cases hd : (h.session m).detection k with
      | done result =>
        rw [hd] at ha
        exact .inr ⟨_, _, List.mem_singleton.mp ha⟩
      | listing side url resume => simp [hd, Session.proceedEvents] at ha
  · obtain ⟨c, hc⟩ := hu.midway hmr hrn
    cases hu.course hmr hrn hc.current with
    | waits _ _ _ hown =>
      have hnone := hown a ha
      rw [History.events, hw, Session.moveEvents] at ha
      obtain ⟨i, _, ⟨step, _, rfl⟩ | ⟨key, x, rfl⟩⟩ := Session.mem_stepEvents ha <;> cases hnone
    | asks _ _ _ _ hev => simp [History.events, hev] at ha
    | ends _ _ hev =>
      rw [History.events, hev] at ha
      exact .inr ⟨_, _, List.mem_singleton.mp ha⟩
    | exits hev =>
      rw [History.events, hev] at ha
      exact .inl ⟨_, List.mem_singleton.mp ha⟩

/-- The task changes no entry but that of the key that it checks. -/
theorem without_kept (hu : h.UnderWay id k m n) (hmr : m ≤ r) (hrn : r ≤ n)
    (hw : h.move r = .work) :
    (h.watcher (r + 1)).schedule.without k = (h.watcher r).schedule.without k := by
  refine (watcher_steps h r).keep
    (P := fun w => w.schedule.without k = (h.watcher r).schedule.without k) rfl ?_
  intro v v' a ha hs hv
  have hkey : (v.effect a).key? = none ∨ (v.effect a).key? = some k := by
    rcases hu.mem_events hmr hrn hw ha with ⟨step, rfl⟩ | ⟨time, x, rfl⟩
    · exact .inl rfl
    · rcases x with _ | _ | _
      · exact .inr rfl
      · exact .inl rfl
      · exact .inr rfl
  rw [schedule_step hs, Effect.without_apply hkey, hv]

/-- A check does not end while it is under way. -/
theorem no_finish (hu : h.UnderWay id k m n) (hmr : m ≤ r) (hrn : r < n) (j : TaskId)
    (key : PatternKey) (time : Instant) (x : Except ClockOverflow Bool) :
    .finish j key time x ∉ h.events r := by
  intro hfinish
  rcases Nat.eq_or_lt_of_le hmr with rfl | hmr
  · obtain ⟨_, _, _, _, _, hev⟩ := hu.launched hrn
    simp [hev] at hfinish
  · obtain ⟨c, hc⟩ := hu.midway hmr (Nat.le_of_lt hrn)
    rcases hu.goes_on hmr hrn hc.current with ⟨_, _, _, hown⟩ | ⟨_, _, _, _, _, _, _, _, hev⟩
    · cases hown _ hfinish
    · simp [hev] at hfinish

end History.UnderWay

namespace History

/-- No call of a client concerns the entry of a key. -/
def LeavesAlone (h : History) (k : PatternKey) (n : ℕ) : Prop :=
  ∀ c ∈ h.callsAt n, ((h.watcher n).effect c.2).key? ≠ some k

end History

theorem entryOf_succ (hf : ∀ j key t x, .finish j key t x ∉ h.events n)
    (hl : h.LeavesAlone k n) :
    (h.watcher (n + 1)).schedule.entryOf k = (h.watcher n).schedule.entryOf k := by
  rw [schedule_succ_of_no_finish hf]
  cases hm : h.move n with
  | call c =>
    simp only [History.LeavesAlone, History.callsAt, hm, List.mem_singleton, forall_eq] at hl
    simp only [History.callsAt, hm, Schedule.edited, List.foldl_cons, List.foldl_nil]
    rw [effect_of_schedule, Effect.entryOf_apply, Effect.onEntry_of_ne hl]
  | _ => simp [History.callsAt, hm, Schedule.edited]

theorem History.UnderWay.entry_kept (hu : h.UnderWay id k m n)
    (hl : ∀ r, m ≤ r → r < n → h.LeavesAlone k r) (hmr : m ≤ r) (hrn : r ≤ n) :
    (h.watcher r).schedule.entryOf k = (h.watcher m).schedule.entryOf k := by
  induction r, hmr using Nat.le_induction with
  | base => rfl
  | succ r hmr ih =>
    rw [entryOf_succ (hu.no_finish hmr hrn) (hl r hmr hrn)]
    exact ih (Nat.le_of_succ_le hrn)

theorem conclude_entry (id : TaskId) (t : Instant) :
    (s.conclude id k t result).watcher.schedule.entryOf k =
      (s.watcher.schedule.entryOf k).bind (·.finished s.now) := by
  rw [(Session.conclude_watcher id k t result).1]
  exact Schedule.entryOf_complete s.watcher.schedule k s.now

theorem Entry.finished_of_due (hs : e.interval ≤ e.nextCheck) (hd : e.nextCheck ≤ time)
    (ht : 2 * time < Instant.limit) : e.finished time = some (Schedule.checked e time) := by
  rw [Entry.finished, if_neg (Nat.not_lt.mpr hd), if_pos (next_in_range hs hd ht)]

/-- What becomes of a session over a check that starts at step `m` for an entry of a key, and that
ends at step `n` with a result. -/
structure History.Isolated (h : History) (k : PatternKey) (m n : ℕ) (e : Entry)
    (result : Except DriftError Bool) : Prop where
  /-- Whatever the result is, one counter goes up by one. -/
  counted : ∀ label, (h.session (n + 1)).counted label =
    (h.session m).counted label + if label = Session.resultLabel result then 1 else 0
  /-- A result is reported once, and an error never. -/
  reported : (h.session (n + 1)).reports =
    Session.reportOf k (h.session n).elapsed result ++ (h.session m).reports
  /-- Until then the store is changed from outside only, -/
  kept : ∀ r, m ≤ r → r < n →
    (∀ store refuses remotes, h.move r ≠ .surround store refuses remotes) →
      (h.session (r + 1)).store = (h.session r).store
  /-- and then by the report, -/
  recorded : (h.session (n + 1)).store = ((h.session n).recorded k result).2
  /-- which is nothing to other keys. -/
  others_kept : ∀ other ≠ k, (h.session (n + 1)).store.get? other = (h.session n).store.get? other
  /-- A report that fails changes nothing, -/
  failed : ((h.session n).recorded k result).1.isOk = false →
    (h.session (n + 1)).store = (h.session n).store
  /-- and it is counted. -/
  failures : (h.session (n + 1)).metrics.conditionWriteFailures =
    (h.session m).metrics.conditionWriteFailures +
      if ((h.session n).recorded k result).1.isOk then 0 else 1
  /-- If clients left the entry alone, the next check is an interval later. -/
  rescheduled : (∀ r, m ≤ r → r < n → h.LeavesAlone k r) →
    2 * (h.session n).now < Instant.limit →
    (h.watcher (n + 1)).schedule.entryOf k = some { e with
      lastCheck := some (h.session n).now
      nextCheck := (h.session n).now + e.interval }
  /-- The task leaves all other entries alone. -/
  others_scheduled : ∀ r, m ≤ r → r ≤ n → h.move r = .work →
    (h.watcher (r + 1)).schedule.without k = (h.watcher r).schedule.without k

/-- A check of a key from its start to its end, whatever clients do meanwhile, and whatever becomes
of the remotes and the store: it was started for the head of the schedule, and it is isolated. Each
remote that it asks behaved in one way to it. If the clock is punctual, the check takes no longer
than it may, and it has a result if and only if its detection has that by then. -/
theorem check_isolated (hc : h.Checks id k m n) :
    ∃ e result, (h.watcher m).schedule.head? = some e ∧ e.key = k ∧
      h.Isolated k m n e result ∧ (∃ remotes, h.Answers remotes m n) ∧
      (h.Punctual m n →
        (∀ l, (h.session m).limit = some l → (h.session n).now ≤ (h.session m).now + l) ∧
        ∀ remotes, h.Answers remotes m n → ∀ drifted, result = .ok drifted ↔
          ∃ u, ((h.session m).detection k).outcome? remotes (h.session m).now =
              some (.ok drifted, u) ∧
            ∀ l, (h.session m).limit = some l → u ≤ (h.session m).now + l) := by
  obtain ⟨⟨e, hhead, hkey, hdue⟩, _⟩ := launch hc.starts
  obtain ⟨w, result, hw, hs, hmetrics, hreports, hwithin⟩ := hc.concluded
  obtain ⟨remotes, hanswers⟩ := hc.exists_answers
  refine ⟨e, result, hhead, hkey, ?_, ⟨remotes, hanswers⟩, fun hp => ⟨?_, fun remotes ha => ?_⟩⟩
  · constructor
    case counted =>
      intro label
      rw [hs, Session.conclude_counted]
      simp only [Session.counted, hmetrics]
    case reported => rw [hs, Session.conclude_reports, ← hreports]; rfl
    case kept => exact fun r hmr hrn hr => hc.store_kept hmr hrn hr
    case recorded => rw [hs, Session.conclude_store]; rfl
    case others_kept =>
      intro other hother
      rw [hs, Session.conclude_store]
      exact Session.get?_recorded _ _ hother result
    case failed =>
      intro hf
      rw [hs, Session.conclude_store]
      exact Session.recorded_failed _ _ hf
    case failures => rw [hs, Session.conclude_writeFailures, ← hmetrics]; rfl
    case rescheduled =>
      intro hl ht
      -- the end of the check finds the entry that it was started for
      have hentry : (h.watcher n).schedule.entryOf k = some e :=
        (hc.entry_kept hl hc.le le_rfl).trans (hkey ▸ Schedule.entryOf_head hhead)
      have hsince : e.interval ≤ e.nextCheck :=
        scheduled_watcher h m e (List.mem_of_head? hhead)
      calc (h.watcher (n + 1)).schedule.entryOf k
        _ = (w.schedule.entryOf k).bind (·.finished (h.session n).now) := by
          rw [History.watcher, hs, conclude_entry]
        _ = e.finished (h.session n).now := by rw [hw, hentry, Option.bind_some]
        _ = some (Schedule.checked e (h.session n).now) :=
          Entry.finished_of_due hsince (Nat.le_trans hdue (now_mono h hc.le)) ht
    case others_scheduled => exact fun r hmr hrn hr => hc.without_kept hmr hrn hr
  · exact fun l hl => hc.not_over hp hl
  · exact (hwithin hp remotes ha).eq_ok_iff

/-- A check that takes all the time that it may take: the origin answers after two seconds, and the
target one second later. -/
def punctualHistory : History where
  start :=
    { now := 0
      origin := 0
      store := ⟨[(sampleKey, { config := { originRepo := "origin", targetRepo := "target" } })]⟩
      limit := some 3000
      remotes := ⟨[("origin", ⟨.ok Git.Listing.sampleRefs, some 2000⟩),
        ("target", ⟨.ok Git.Listing.sampleRefs, some 1000⟩)]⟩ }
  move n :=
    [.call .start, .call (.add sampleKey 5), .work, .work, .work, .wait 5000, .work, .wait 2000,
      .work, .wait 1000][n]?.getD .work
  fresh := rfl
  idle := rfl

theorem punctualHistory_checks : punctualHistory.Checks 0 sampleKey 6 10 := by
  refine ⟨⟨List.mem_cons_self, by decide, fun r hr hr' => ?_⟩, 8000, .ok true, ?_⟩
  · interval_cases r <;> rfl
  · exact List.mem_singleton_self _

/-- The detection ends exactly when its time is over, and has its result. -/
theorem punctualHistory_isolated :
    punctualHistory.Checks 0 sampleKey 6 10 ∧ punctualHistory.Punctual 6 10 ∧
      (punctualHistory.session 11).counted "in_sync" = 1 ∧
      (punctualHistory.session 11).reports = [.reported sampleKey false 8000] ∧
      (punctualHistory.watcher 11).schedule.entryOf sampleKey =
        some ⟨sampleKey, 5000, some 8000, 13000⟩ := by
  have hp : punctualHistory.Punctual 6 10 := by
    intro r hr hr'
    interval_cases r
    · trivial
    · intro t ht
      have hnext : (punctualHistory.session 7).nextTime? = some 7000 := by decide
      obtain rfl := Option.some.inj (hnext.symm.trans ht)
      decide
    · trivial
    · intro t ht
      have hnext : (punctualHistory.session 9).nextTime? = some 8000 := by decide
      obtain rfl := Option.some.inj (hnext.symm.trans ht)
      decide
  have ha : punctualHistory.Answers (fun _ url => (punctualHistory.session 6).remote url) 6 10 := by
    intro r hr hr' side url _
    interval_cases r <;> rfl
  have hl : ∀ r, 6 ≤ r → r < 10 → punctualHistory.LeavesAlone sampleKey r := by
    intro r hr hr' c hcall
    interval_cases r <;> cases hcall
  obtain ⟨e, result, hhead, _, hisolated, _, htime⟩ := check_isolated punctualHistory_checks
  obtain rfl : ⟨sampleKey, 5000, none, 5000⟩ = e := Option.some.inj hhead
  have hresult : result = .ok false := by
    refine ((htime hp).2 _ ha false).mpr ⟨8000, rfl, fun l hl => ?_⟩
    obtain rfl : 3000 = l := Option.some.inj hl
    decide
  subst hresult
  refine ⟨punctualHistory_checks, hp, hisolated.counted "in_sync", hisolated.reported, ?_⟩
  exact hisolated.rescheduled hl (by decide)

end GitDrift.Drift
