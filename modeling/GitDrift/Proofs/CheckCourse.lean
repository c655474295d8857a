import GitDrift.Proofs.Promptness

/-!
A check from its start to its end, while clients call and the surroundings change. It asks each
remote once at most, and until it ends nothing is counted and nothing reported.
-/
namespace GitDrift.Drift

variable {h : History} {id : TaskId} {k : PatternKey} {m n r : ℕ} {c : Check}
  {side : Side} {url : String} {resume : Except Git.GitError (List Git.Reference) → Detection}
  {remotes : Side → String → RemoteScript}

namespace History

/-- A task has a check of a key under way, from the step on at which its timer goes off. -/
structure UnderWay (h : History) (id : TaskId) (k : PatternKey) (m n : ℕ) : Prop where
  starts : .task id (.fire (some k)) ∈ h.events m
  le : m ≤ n
  checking : ∀ r, m < r → r ≤ n → (h.watcher r).phase? id = some (.checking k)

/-- A check that is under way comes to its end in a step. -/
structure Checks (h : History) (id : TaskId) (k : PatternKey) (m n : ℕ) : Prop
    extends UnderWay h id k m n where
  ends : ∃ time x, .finish id k time x ∈ h.events n

end History

/-- A session in which a timer has gone off for a key. -/
def Session.launched (s : Session) (id : TaskId) (k : PatternKey) : Session :=
  { s with watcher := s.watcher.takeStep id (.fire (some k)) }

/-- The comparison that a check of a key runs, if it starts now. -/
def Session.detection (s : Session) (k : PatternKey) : Detection :=
  Detection.start k (s.store.config k)

theorem launch (hs : .task id (.fire (some k)) ∈ h.events m) :
    (∃ e, (h.watcher m).schedule.head? = some e ∧ e.key = k ∧ e.nextCheck ≤ (h.session m).now) ∧
    ((h.session m).launched id k).watcher.phase? id = some (.checking k) ∧
    h.session (m + 1) = ((h.session m).launched id k).proceed id k (h.session m).now
      ((h.session m).detection k) ∧
    h.events m = .task id (.fire (some k)) ::
      ((h.session m).launched id k).proceedEvents id k ((h.session m).detection k) := by
  obtain ⟨hm, hr⟩ := running_of_actor hs rfl
  rw [History.events, hm, Session.moveEvents] at hs ⊢
  obtain ⟨i, hi, ⟨step, hnext, he⟩ | ⟨key, x, he⟩⟩ := Session.mem_stepEvents hs
  · obtain ⟨rfl, rfl⟩ := Event.task.inj he
    obtain ⟨t, ht, d, g, hp, hd, hk⟩ := enabled_of_nextStep? hnext
    obtain ⟨_, e, hhead, hdue, hkey⟩ := Watcher.dueKey?_eq_some_iff.mp hk.symm
    refine ⟨⟨e, hhead, hkey, hdue⟩, ?_, ?_, ?_⟩
    · rw [Session.launched, Watcher.phase?_takeStep ht, if_pos rfl, Watcher.TaskStep.phase]
    · have hstep : (h.session m).step? =
          some ((h.session m).taskStep id (.fire (some k))) := by
        simp [Session.step?, hi, hnext]
      rw [History.session, hm, Session.moved, hstep]
      rfl
    · simp only [Session.stepEvents, hi, hnext]
      rfl
  · cases he

theorem Session.phase?_conclude {s : Session} (hp : s.watcher.phase? id = some (.checking k))
    (key : PatternKey) (t : Instant) (result : Except DriftError Bool) (j : PatternKey) :
    (s.conclude id key t result).watcher.phase? id ≠ some (.checking j) := by
  rw [(Session.conclude_watcher id key t result).1]
  rcases hf : s.watcher.finishCheck id key s.now with ⟨x, w'⟩
  rw [Watcher.phase?_finishCheck hf hp, if_pos rfl]
  cases x <;> simp [Watcher.phaseAfter]

theorem phase?_of_exit (he : h.events n = [.task id .exit]) :
    (h.watcher (n + 1)).phase? id = some .ended := by
  have hs := watcher_steps h n
  generalize h.watcher (n + 1) = w' at hs ⊢
  rw [he] at hs
  cases hs with
  | cons hstep hnil =>
    cases hnil
    cases hstep with
    | task ht _ => rw [Watcher.phase?_takeStep ht, if_pos rfl, Watcher.TaskStep.phase]

namespace History.UnderWay

theorem running (hu : h.UnderWay id k m n) (hmr : m < r) (hrn : r ≤ n) :
    (h.watcher r).running = some id :=
  oneAlive_watcher h r id _ (hu.checking r hmr hrn) (by simp)

theorem course (hu : h.UnderWay id k m n) (hmr : m < r) (hrn : r ≤ n)
    (hc : (h.session r).check = some c) : (h.session r).Course id k c (h.move r) :=
  Session.course (hu.running hmr hrn) (hu.checking r hmr hrn) hc (h.move r)

/-- A check that goes on after it was started waits for a remote. -/
theorem launched (hu : h.UnderWay id k m n) (hmn : m < n) :
    ∃ side url resume, (h.session m).detection k = .listing side url resume ∧
      h.session (m + 1) = ((h.session m).launched id k).proceed id k (h.session m).now
        (.listing side url resume) ∧
      h.events m = [.task id (.fire (some k))] := by
  obtain ⟨_, hp, hs, hev⟩ := launch hu.starts
  cases hd : (h.session m).detection k with
  | done result =>
    rw [hd] at hs
    refine absurd (hu.checking (m + 1) (Nat.lt_succ_self m) hmn) ?_
    rw [History.watcher, hs]
    exact Session.phase?_conclude hp _ _ _ _
  | listing side url resume =>
    rw [hd] at hs hev
    exact ⟨side, url, resume, rfl, hs, hev⟩

/-- What a move is to a check that goes on after it. -/
theorem goes_on (hu : h.UnderWay id k m n) (hmr : m < r) (hrn : r < n)
    (hc : (h.session r).check = some c) :
    ((h.session (r + 1)).check = some c ∧ (h.session r).Rests (h.session (r + 1)) ∧
      ((∀ store refuses remotes, h.move r ≠ .surround store refuses remotes) →
        (h.session (r + 1)).store = (h.session r).store) ∧
      ∀ a ∈ h.events r, a.actor? = none) ∨
    ∃ t side url resume, c.readyAt = some t ∧ t ≤ (h.session r).now ∧
      c.resume c.answer = .listing side url resume ∧
      h.session (r + 1) = (h.session r).proceed id k c.startedAt (.listing side url resume) ∧
      h.events r = [] := by
  have hchecking := hu.checking (r + 1) (Nat.lt_succ_of_lt hmr) hrn
  cases hu.course hmr (Nat.le_of_lt hrn) hc with
  | waits hc hrests hstore hown => exact .inl ⟨hc, hrests, hstore, hown⟩
  | asks ht hle hd hs hev => exact .inr ⟨_, _, _, _, ht, hle, hd, hs, hev⟩
  | ends hresult hs hev =>
    refine absurd hchecking ?_
    rw [History.watcher, History.session, hs]
    exact Session.phase?_conclude (hu.checking r hmr (Nat.le_of_lt hrn)) _ _ _ _
  | exits hev => simp [phase?_of_exit hev] at hchecking

end History.UnderWay

/-- A session in which a check is under way that another session started. -/
structure Session.Midway (s₀ s : Session) (c : Check) : Prop where
  current : s.check = some c
  started : c.startedAt = s₀.now
  metrics : s.metrics = s₀.metrics
  reports : s.reports = s₀.reports
  limit : s.limit = s₀.limit

theorem Session.midway_proceed {s₀ s : Session} (hmetrics : s.metrics = s₀.metrics)
    (hreports : s.reports = s₀.reports) (hlimit : s.limit = s₀.limit) :
    ∃ c, s₀.Midway (s.proceed id k s₀.now (.listing side url resume)) c :=
  ⟨_, rfl, rfl, hmetrics, hreports, hlimit⟩

/-- Until a check ends, nothing is counted and nothing is reported. -/
theorem History.UnderWay.midway (hu : h.UnderWay id k m n) (hmr : m < r) (hrn : r ≤ n) :
    ∃ c, (h.session m).Midway (h.session r) c := by
  induction r, hmr using Nat.le_induction with
  | base =>
    obtain ⟨side, url, resume, _, hs, _⟩ := hu.launched hrn
    exact hs ▸ Session.midway_proceed rfl rfl rfl
  | succ r hmr ih =>
    obtain ⟨c, hc⟩ := ih (Nat.le_of_succ_le hrn)
    rcases hu.goes_on hmr hrn hc.current with
      ⟨hcheck, hrests, _⟩ | ⟨_, _, _, _, _, _, _, hs, _⟩
    · refine ⟨c, hcheck, hc.started, hrests.metrics.trans hc.metrics, ?_,
        hrests.limit.trans hc.limit⟩
      rw [Session.reports, hrests.log]
      exact hc.reports
    · rw [hs, hc.started]
      exact Session.midway_proceed hc.metrics hc.reports hc.limit

/-- Until a check ends, only others change the store. -/
theorem History.UnderWay.store_kept (hu : h.UnderWay id k m n) (hmr : m ≤ r) (hrn : r < n)
    (hr : ∀ store refuses remotes, h.move r ≠ .surround store refuses remotes) :
    (h.session (r + 1)).store = (h.session r).store := by
  rcases Nat.eq_or_lt_of_le hmr with rfl | hmr
  · obtain ⟨_, _, _, _, hs, _⟩ := hu.launched hrn
    rw [hs]
    rfl
  · obtain ⟨c, hc⟩ := hu.midway hmr (Nat.le_of_lt hrn)
    rcases hu.goes_on hmr hrn hc.current with ⟨_, _, hstore, _⟩ | ⟨_, _, _, _, _, _, _, hs, _⟩
    · exact hstore hr
    · rw [hs]
      rfl

namespace History

/-- A remote is listed in a step. -/
def Asks (h : History) (side : Side) (url : String) (n : ℕ) : Prop :=
  ∃ time, (h.session (n + 1)).log = .listed side url time :: (h.session n).log

/-- Remotes behaved in a given way when they were listed. -/
def Answers (h : History) (remotes : Side → String → RemoteScript) (m n : ℕ) : Prop :=
  ∀ r, m ≤ r → r < n → ∀ side url, h.Asks side url r → (h.session r).remote url = remotes side url

/-- The clock passes no moment at which something can be done, as it does not while a session runs
by itself. -/
def Punctual (h : History) (m n : ℕ) : Prop :=
  ∀ r, m ≤ r → r < n → (h.session r).Prompt (h.move r)

end History

/-- A check that is under way is not late, and it comes to what its detection comes to. -/
theorem History.UnderWay.awaits (hu : h.UnderWay id k m n) (hp : h.Punctual m n)
    (ha : h.Answers remotes m n) (hmr : m < r) (hrn : r ≤ n) :
    ∃ c, (h.session r).Awaits remotes
      (((h.session m).detection k).outcome? remotes (h.session m).now) (h.session m).now c := by
  induction r, hmr using Nat.le_induction with
  | base =>
    obtain ⟨side, url, resume, hd, hs, _⟩ := hu.launched hrn
    rw [hs, hd]
    refine Session.awaits_proceed (fun l _ => Nat.le_add_right _ l) rfl ?_
    exact ha m le_rfl hrn side url ⟨_, by rw [hs]; rfl⟩
  | succ r hmr ih =>
    obtain ⟨c, hc⟩ := ih (Nat.le_of_succ_le hrn)
    rcases hu.goes_on hmr hrn hc.current with
      ⟨hcheck, hrests, _⟩ | ⟨t, side, url, resume, ht, hle, hd, hs, _⟩
    · exact ⟨c, hc.waits (hp r (Nat.le_of_lt hmr) hrn) hcheck hrests.limit⟩
    · rw [hs, hc.started]
      refine Session.awaits_proceed hc.not_over (hd ▸ hc.answered ht hle) ?_
      exact ha r (Nat.le_of_lt hmr) hrn side url ⟨_, by rw [hs]; rfl⟩

/-- A check ends by being concluded, in time with its detection. -/
theorem History.Checks.concluded (hc : h.Checks id k m n) :
    ∃ w result, w.schedule = (h.watcher n).schedule ∧
      h.session (n + 1) = Session.conclude { h.session n with watcher := w } id k
        (h.session m).now result ∧
      (h.session n).metrics = (h.session m).metrics ∧
      (h.session n).reports = (h.session m).reports ∧
      (h.Punctual m n → ∀ remotes, h.Answers remotes m n → Detection.Within (h.session m).limit
        (h.session m).now (((h.session m).detection k).outcome? remotes (h.session m).now)
        result (h.session n).now) := by
  obtain ⟨time, x, hfinish⟩ := hc.ends
  rcases Nat.eq_or_lt_of_le hc.le with rfl | hmn
  · -- the check is over as soon as it is started
    obtain ⟨_, _, hs, hev⟩ := launch hc.starts
    cases hd : (h.session m).detection k with
    | listing side url resume => simp [hev, hd, Session.proceedEvents] at hfinish
    | done result =>
      rw [hd] at hs
      refine ⟨_, result, Watcher.takeStep_schedule .., hs, rfl, rfl, fun _ remotes _ => ?_⟩
      exact .finishes rfl fun l _ => Nat.le_add_right _ l
  · obtain ⟨c, hmid⟩ := hc.midway hmn le_rfl
    cases hc.course hmn le_rfl hmid.current with
    | waits _ _ _ hown => cases hown _ hfinish
    | asks _ _ _ _ hev => simp [History.events, hev] at hfinish
    | exits hev => simp [History.events, hev] at hfinish
    | @ends result hresult hs _ =>
      rw [hmid.started] at hs
      refine ⟨_, result, rfl, hs, hmid.metrics, hmid.reports, fun hp remotes ha => ?_⟩
      obtain ⟨c', hawaits⟩ := hc.awaits hp ha hmn le_rfl
      obtain rfl := Option.some.inj (hmid.current.symm.trans hawaits.current)
      exact hmid.limit ▸ hawaits.ends hresult

/-- A detection that asks no side twice, and none of those that were asked before. -/
inductive Detection.Fresh : List Side → Detection → Prop
  | done (asked : List Side) (result : Except DriftError Bool) : Fresh asked (.done result)
  | listing {asked : List Side} {side : Side} {url : String}
      {resume : Except Git.GitError (List Git.Reference) → Detection} (hs : side ∉ asked)
      (hr : ∀ listing, Fresh (side :: asked) (resume listing)) :
      Fresh asked (.listing side url resume)

theorem Detection.fresh_list {asked : List Side} {config : GitConfig}
    {next : List Git.Reference → Detection} (hs : side ∉ asked)
    (hn : ∀ refs, Fresh (side :: asked) (next refs)) : Fresh asked (list config side next) := by
  refine .listing hs fun listing => ?_
  cases someReferences config side listing with
  | error e => exact .done _ _
  | ok refs => exact hn refs

theorem Detection.fresh_start (key : PatternKey) (config : Except StoreError GitConfig) :
    Fresh [] (start key config) := by
  cases config with
  | error e => exact .done _ _
  | ok c =>
    rw [start]
    split
    · exact .done _ _
    · exact fresh_list (by simp) fun _ => fresh_list (by simp) fun _ => .done _ _

theorem History.Asks.eq {s : Session} {side' : Side} {url' : String} {t : Instant}
    (ha : h.Asks side' url' n)
    (hs : h.session (n + 1) = s.proceed id k t (.listing side url resume))
    (hlog : s.log = (h.session n).log) :
    side' = side ∧ url' = url := by
  obtain ⟨time, ha⟩ := ha
  rw [hs, ← hlog] at ha
  have hhead : LogEntry.listed side url s.elapsed = .listed side' url' time :=
    (List.cons.inj ha).1
  obtain ⟨rfl, rfl, _⟩ := LogEntry.listed.inj hhead
  exact ⟨rfl, rfl⟩

theorem History.Asks.false_of_log (ha : h.Asks side url n)
    (hlog : (h.session (n + 1)).log = (h.session n).log) : False := by
  obtain ⟨time, ha⟩ := ha
  simpa using congrArg List.length (hlog.symm.trans ha)

/-- What the remotes were to a check so far, and which of them it does not ask again. -/
theorem History.UnderWay.asked (hu : h.UnderWay id k m n) (hmr : m < r) (hrn : r ≤ n) :
    ∃ remotes asked, h.Answers remotes m r ∧
      (∀ q, m ≤ q → q < r → ∀ side url, h.Asks side url q → side ∈ asked) ∧
      ∃ c, (h.session r).check = some c ∧ ∀ listing, (c.resume listing).Fresh asked := by
  induction r, hmr using Nat.le_induction with
  | base =>
    obtain ⟨side, url, resume, hd, hs, _⟩ := hu.launched hrn
    have hfresh : ((h.session m).detection k).Fresh [] := Detection.fresh_start _ _
    rw [hd] at hfresh
    refine ⟨fun _ url => (h.session m).remote url, [side], fun q hmq hqm _ _ _ => ?_,
      fun q hmq hqm side' url' ha => ?_, ?_⟩
    · rw [Nat.le_antisymm (Nat.le_of_lt_succ hqm) hmq]
    · obtain rfl := Nat.le_antisymm (Nat.le_of_lt_succ hqm) hmq
      exact List.mem_singleton.mpr (ha.eq hs rfl).1
    · cases hfresh with
      | listing _ hr => exact ⟨_, by rw [hs]; rfl, hr⟩
  | succ r hmr ih =>
    obtain ⟨remotes, asked, hanswers, hasked, c, hc, hfresh⟩ := ih (Nat.le_of_succ_le hrn)
    rcases hu.goes_on hmr hrn hc with
      ⟨hcheck, hrests, _⟩ | ⟨t, side, url, resume, _, _, hd, hs, _⟩
    · -- nothing is asked in a step in which the check only waits
      have hbefore {q : ℕ} {side : Side} {url : String} (hqr : q < r + 1)
          (ha : h.Asks side url q) : q < r := by
        refine Nat.lt_of_le_of_ne (Nat.le_of_lt_succ hqr) ?_
        rintro rfl
        exact ha.false_of_log hrests.log
      exact ⟨remotes, asked, fun q hmq hqr side url ha => hanswers q hmq (hbefore hqr ha) _ _ ha,
        fun q hmq hqr side url ha => hasked q hmq (hbefore hqr ha) _ _ ha, c, hcheck, hfresh⟩
    · have hnew := hfresh c.answer
      rw [hd] at hnew
      cases hnew with
      | listing hside hr =>
        -- this side is asked for the first time, and so what was said of others stands
        refine ⟨Function.update remotes side fun _ => (h.session r).remote url, side :: asked,
          fun q hmq hqr side' url' ha => ?_, fun q hmq hqr side' url' ha => ?_,
          _, by rw [hs]; rfl, hr⟩
        · rcases Nat.lt_or_eq_of_le (Nat.le_of_lt_succ hqr) with hqr | rfl
          · have hne : side' ≠ side := by
              rintro rfl
              exact hside (hasked q hmq hqr _ _ ha)
            rw [Function.update_of_ne hne]
            exact hanswers q hmq hqr _ _ ha
          · obtain ⟨rfl, rfl⟩ := ha.eq hs rfl
            rw [Function.update_self]
        · rcases Nat.lt_or_eq_of_le (Nat.le_of_lt_succ hqr) with hqr | rfl
          · exact List.mem_cons_of_mem _ (hasked q hmq hqr _ _ ha)
          · exact (ha.eq hs rfl).1 ▸ List.mem_cons_self

/-- However remotes change while a check is under way, they behaved in one way to the check. -/
theorem History.UnderWay.exists_answers (hu : h.UnderWay id k m n) :
    ∃ remotes, h.Answers remotes m n := by
  rcases Nat.eq_or_lt_of_le hu.le with rfl | hmn
  · exact ⟨fun _ url => (h.session m).remote url, fun r hmr hrm => by omega⟩
  · obtain ⟨remotes, _, ha, _⟩ := hu.asked hmn le_rfl
    exact ⟨remotes, ha⟩

/-- A check is not under way for longer than it may take. -/
theorem History.UnderWay.not_over (hu : h.UnderWay id k m n) (hp : h.Punctual m n) {l : Span}
    (hl : (h.session m).limit = some l) : (h.session n).now ≤ (h.session m).now + l := by
  rcases Nat.eq_or_lt_of_le hu.le with rfl | hmn
  · exact Nat.le_add_right _ l
  · obtain ⟨remotes, ha⟩ := hu.exists_answers
    obtain ⟨_, hmid⟩ := hu.midway hmn le_rfl
    obtain ⟨_, hawaits⟩ := hu.awaits hp ha hmn le_rfl
    exact hawaits.not_over l (hmid.limit.trans hl)

end GitDrift.Drift
