import GitDrift.Proofs.Shelf
import GitDrift.Proofs.SingleReport

/-!
The store in memory and the store of a cluster agree: whatever they are asked for, one call after
another, they give the same answers and come to the same conditions, as long as the server keeps
Patterns by their keys. The store of the cluster sends a patch exactly where something changes.
-/
namespace GitDrift.Drift

open Json Cluster Patterns

/-- What a store is asked for about one Pattern. -/
inductive StoreCall where
  | config
  | conditions
  | write (conditions : List Condition)
  | report (drifted : Bool) (now : Moment)

/-- The request that a call begins with, if it can be made. -/
def StoreCall.firstRequest? (key : PatternKey) : StoreCall → Option Request
  | .write l => writing key l
  | .config | .conditions | .report _ _ => reading key

/-- What a call has for a result. -/
inductive StoreValue where
  | config (config : GitConfig)
  | conditions (conditions : List Condition)
  | done
deriving DecidableEq

/-- A call with what came of it. -/
structure Performed where
  key : PatternKey
  call : StoreCall
  result : Except StoreError StoreValue

variable {σ τ : Type} {key : PatternKey} {call : StoreCall} {m : MemoryStore}
  {calls : List (PatternKey × StoreCall)}

namespace MemoryStore

def perform (m : MemoryStore) (key : PatternKey) :
    StoreCall → Except StoreError StoreValue × MemoryStore
  | .config => ((config m key).map .config, m)
  | .conditions => ((conditions m key).map .conditions, m)
  | .write l => ((writeConditions m key l).1.map fun _ => .done, (writeConditions m key l).2)
  | .report drifted now =>
    ((report m key drifted now).1.map fun _ => .done, (report m key drifted now).2)

def performAll (m : MemoryStore) : List (PatternKey × StoreCall) → List Performed × MemoryStore
  | [] => ([], m)
  | (key, call) :: calls =>
    let (result, m) := perform m key call
    let (done, m) := performAll m calls
    (⟨key, call, result⟩ :: done, m)

/-- The requests that a call takes, where the cluster holds what is in memory. A report is written
when it changes the conditions that were read, and what is written is what it makes of them. -/
def requests (m : MemoryStore) (key : PatternKey) : StoreCall → List Request
  | .config | .conditions => (reading key).toList
  | .write l => (writing key l).toList
  | .report drifted now =>
    (reading key).toList ++
      match conditions m key with
      | .ok old =>
        let new := (setSyncCondition old drifted now).1
        if new = old then [] else (writing key new).toList
      | .error _ => []

def allRequests (m : MemoryStore) : List (PatternKey × StoreCall) → List Request
  | [] => []
  | (key, call) :: calls => requests m key call ++ allRequests (perform m key call).2 calls

end MemoryStore

namespace ClusterStore

def perform (key : PatternKey) : StoreCall → Activity σ (Except StoreError StoreValue)
  | .config => return (← config key).map .config
  | .conditions => return (← conditions key).map .conditions
  | .write l => return (← writeConditions key l).map fun _ => .done
  | .report drifted now => return (← report key drifted now).map fun _ => .done

def performAll : List (PatternKey × StoreCall) → Activity σ (List Performed)
  | [] => return []
  | (key, call) :: calls => do
    let result ← perform key call
    return ⟨key, call, result⟩ :: (← performAll calls)

end ClusterStore

/-- The results of one call in memory and in the cluster. Both fail where there is no Pattern; the
cluster says so in its own words where a patch is refused, and where the call cannot begin. -/
inductive Agree (key : PatternKey) :
    StoreCall → Except StoreError StoreValue → Except StoreError StoreValue → Prop
  | same (call : StoreCall) (v : StoreValue) : Agree key call (.ok v) (.ok v)
  | notFound {call : StoreCall} (hcall : ∀ l, call ≠ .write l) (hkey : (reading key).isSome) :
      Agree key call (.error (.notFound key)) (.error (.notFound key))
  | refused (l : List Condition) {r : Refusal} (hkey : (writing key l).isSome)
      (hr : r.reason = "NotFound") :
      Agree key (.write l) (.error (.notFound key)) (.error (.cluster (.refused r)))
  | noRequest (call : StoreCall) (hkey : call.firstRequest? key = none) :
      Agree key call (.error (.notFound key)) (.error (.cluster .badRequest))

/-- The same call, with results that agree. -/
def Performed.Agree (a b : Performed) : Prop :=
  a.key = b.key ∧ a.call = b.call ∧ Drift.Agree a.key a.call a.result b.result

/-- What is known of a Pattern and what a server stores as one. -/
inductive Mirrored (key : PatternKey) : Option StoredPattern → Option Fields → Prop
  | absent : Mirrored key none none
  | present {fields : Fields} {spec : PatternSpec} {s : PatternStatus}
      (hkey : (reading key).isSome) (h : IsPattern fields spec s) :
      Mirrored key (some ⟨spec.gitSpec, s.conditions⟩) (some fields)

variable {keys : Set PatternKey} {server : ApiServer keys τ} {t t' : τ}

namespace ApiServer

/-- The server stores what is in memory. -/
def Mirrors (server : ApiServer keys τ) (m : MemoryStore) (t : τ) : Prop :=
  ∀ key ∈ keys, Mirrored key (m.get? key) (server.stored t key)

theorem Mirrors.leave (h : server.Mirrors m t) (ht : server.Leaves t t') : server.Mirrors m t' := by
  intro key hkey
  rw [ht key hkey]
  exact h key hkey

end ApiServer

/-- The server holds any Patterns of which memory knows configuration and conditions. -/
theorem mirrors_ofPatterns {patterns : PatternKey → Option (PatternSpec × Option PatternStatus)}
    (hints : ∀ key p, patterns key = some p → AreInt64 p.1 p.2)
    (hkeys : ∀ key p, patterns key = some p → (reading key).isSome)
    (hm : ∀ key, m.get? key =
      (patterns key).map fun p => ⟨p.1.gitSpec, (p.2.getD {}).conditions⟩) :
    Shelf.server.Mirrors m (Shelf.ofPatterns patterns hints) := by
  intro key _
  change Mirrored key _ ((patterns key).map _)
  rw [hm]
  cases hp : patterns key with
  | none => exact .absent
  | some p =>
    have hmetadata : Metadata.decode (.obj []) = .ok {} := rfl
    exact .present (hkeys key p hp) (isPattern_patternFields hmetadata (hints key p hp))

/-- What is read of a Pattern of which something is known. -/
inductive Fetched (key : PatternKey) : Option StoredPattern → Except StoreError Pattern → Prop
  | noRequest (hkey : reading key = none) : Fetched key none (.error (.cluster .badRequest))
  | absent (hkey : (reading key).isSome) : Fetched key none (.error (.notFound key))
  | found (p : Pattern) :
      Fetched key (some ⟨p.spec.gitSpec, (p.status.map (·.conditions)).getD []⟩) (.ok p)

theorem does_fetch (hkey : key ∈ keys) (h : server.Mirrors m t) :
    ∃ x t', server.Does (ClusterStore.fetch key : Activity σ _) t x (reading key).toList t' ∧
      server.Leaves t t' ∧ Fetched key (m.get? key) x := by
  have hkept := h key hkey
  generalize m.get? key = known at hkept ⊢
  generalize hstored : server.stored t key = stored at hkept
  cases hr : reading key with
  | none =>
    refine ⟨.error (.cluster .badRequest), t, fun s log => ?_, fun _ _ => rfl, ?_⟩
    · rw [ClusterStore.run_fetch_of_none hr, Option.toList_none, List.append_nil]
    · cases hkept with
      | absent => exact .noRequest hr
      | present hkey => simp [hr] at hkey
  | some r =>
    refine ⟨ClusterStore.fetched key ((server.answer r t).1.read Pattern.decode),
      (server.answer r t).2, fun s log => ClusterStore.run_fetch_of_some hr, ?_⟩
    cases hkept with
    | absent =>
      obtain ⟨hanswer, hleaves⟩ := server.missing (l := []) hkey (.inl hr) hstored
      obtain ⟨refusal, hread, hreason⟩ := hanswer.read Pattern.decode
      rw [hread, ClusterStore.fetched, if_pos hreason]
      exact ⟨hleaves, .absent (by simp [hr])⟩
    | present _ hpattern =>
      obtain ⟨hanswer, hleaves⟩ := server.found hkey hr hstored
      obtain ⟨p, hp, rfl, rfl⟩ := hpattern.decode
      have hconditions : (p.status.getD {}).conditions = (p.status.map (·.conditions)).getD [] := by
        cases p.status <;> rfl
      rw [hanswer.read Pattern.faithful hp, hconditions]
      exact ⟨hleaves, .found p⟩

/-- The results of reading in memory and in the cluster. -/
inductive ReadAgree {α : Type} (key : PatternKey) :
    Except StoreError α → Except StoreError α → Prop
  | same (a : α) : ReadAgree key (.ok a) (.ok a)
  | notFound (hkey : (reading key).isSome) :
      ReadAgree key (.error (.notFound key)) (.error (.notFound key))
  | noRequest (hkey : reading key = none) :
      ReadAgree key (.error (.notFound key)) (.error (.cluster .badRequest))

section Read

variable {α : Type} {a b : Except StoreError α}

theorem Fetched.readAgree {x : Except StoreError Pattern} (h : Fetched key (m.get? key) x)
    (get : StoredPattern → α) (get' : Pattern → α)
    (hget : ∀ p : Pattern,
      get ⟨p.spec.gitSpec, (p.status.map (·.conditions)).getD []⟩ = get' p) :
    ReadAgree key ((MemoryStore.find m key).map get) (x.map get') := by
  unfold MemoryStore.find
  generalize m.get? key = known at h ⊢
  cases h with
  | noRequest hkey => exact .noRequest hkey
  | absent hkey => exact .notFound hkey
  | found p =>
    simp only [Except.map, hget]
    exact .same _

theorem firstRequest?_of_ne_write (hcall : ∀ l, call ≠ .write l) :
    call.firstRequest? key = reading key := by
  cases call with
  | write l => exact absurd rfl (hcall l)
  | _ => rfl

theorem ReadAgree.agree (h : ReadAgree key a b) (hcall : ∀ l, call ≠ .write l)
    (f : α → StoreValue) : Agree key call (a.map f) (b.map f) := by
  cases h with
  | same a => exact .same _ _
  | notFound hkey => exact .notFound hcall hkey
  | noRequest hkey => exact .noRequest _ ((firstRequest?_of_ne_write hcall).trans hkey)

end Read

theorem does_conditions (hkey : key ∈ keys) (h : server.Mirrors m t) :
    ∃ x t', server.Does (ClusterStore.conditions key : Activity σ _) t x (reading key).toList t' ∧
      server.Leaves t t' ∧ ReadAgree key (MemoryStore.conditions m key) x := by
  obtain ⟨x, t', hdoes, hleaves, hfetched⟩ := does_fetch (σ := σ) hkey h
  exact ⟨_, t', hdoes.map _, hleaves, hfetched.readAgree _ _ fun _ => rfl⟩

/-- What becomes of what is stored under keys to which no request writes. -/
def Untouched (server : ApiServer keys τ) (requests : List Request) (t t' : τ) : Prop :=
  ∀ key ∈ keys, (∀ l r, writing key l = some r → r ∉ requests) →
    server.stored t' key = server.stored t key

theorem does_writeConditions {l : List Condition} (hkey : key ∈ keys) (h : server.Mirrors m t)
    (hwritable : (m.get? key).isSome → (writing key l).isSome) :
    ∃ x t', server.Does (ClusterStore.writeConditions key l : Activity σ _) t x
        (writing key l).toList t' ∧
      Agree key (.write l) ((MemoryStore.writeConditions m key l).1.map fun _ => .done)
        (x.map fun _ => .done) ∧
      server.Mirrors (MemoryStore.writeConditions m key l).2 t' ∧
      Untouched server (writing key l).toList t t' := by
  have hkept := h key hkey
  cases hr : writing key l with
  | none =>
    have hknown : m.get? key = none := by simpa [hr] using hwritable
    refine ⟨.error (.cluster .badRequest), t, fun s log => ?_, ?_, ?_, fun _ _ _ => rfl⟩
    · rw [ClusterStore.run_writeConditions_of_none hr, Option.toList_none, List.append_nil]
    · rw [MemoryStore.writeConditions, hknown]
      exact .noRequest (.write l) hr
    · rwa [MemoryStore.writeConditions, hknown]
  | some r =>
    refine ⟨(((server.answer r t).1.read Pattern.decode).map fun _ => ()).mapError .cluster,
      (server.answer r t).2, fun s log => ClusterStore.run_writeConditions_of_some hr, ?_⟩
    generalize hknown : m.get? key = known at hkept
    generalize hstored : server.stored t key = stored at hkept
    cases hkept with
    | absent =>
      obtain ⟨hanswer, hleaves⟩ := server.missing hkey (.inr hr) hstored
      obtain ⟨refusal, hread, hreason⟩ := hanswer.read Pattern.decode
      rw [MemoryStore.writeConditions, hknown, hread]
      exact ⟨.refused l (by simp [hr]) hreason, h.leave hleaves, fun k hk _ => hleaves k hk⟩
    | @present fields spec s hsome hpattern =>
      obtain ⟨fields', hmerged, hanswer, hstored'⟩ := server.patched hkey hr hstored
      have hpattern' := hpattern.patched hmerged
      obtain ⟨p, hp, _⟩ := hpattern'.decode
      rw [MemoryStore.writeConditions, hknown, hanswer.read Pattern.faithful hp]
      refine ⟨.same _ _, fun k hk => ?_, fun k hk huntouched => ?_⟩
      · rw [hstored' k hk, Table.get?_insert]
        split_ifs with hsame
        · subst hsame
          exact .present hsome hpattern'
        · exact h k hk
      · rw [hstored' k hk, if_neg]
        rintro rfl
        exact huntouched l r hr (by simp)

/-- Patterns that are in memory are kept under keys of which requests to write can be made. -/
def MemoryStore.Writable (m : MemoryStore) (keys : Set PatternKey) : Prop :=
  ∀ key ∈ keys, (m.get? key).isSome → ∀ l, (writing key l).isSome

theorem MemoryStore.isSome_writeConditions (k : PatternKey) (l : List Condition) :
    ((MemoryStore.writeConditions m key l).2.get? k).isSome = (m.get? k).isSome := by
  unfold MemoryStore.writeConditions
  cases hknown : m.get? key with
  | none => rfl
  | some p =>
    simp only [Table.get?_insert]
    split_ifs with hk
    · simp [hk, hknown]
    · rfl

/-- No call makes a Pattern known, or unknown. -/
theorem MemoryStore.isSome_perform (k : PatternKey) :
    ((MemoryStore.perform m key call).2.get? k).isSome = (m.get? k).isSome := by
  cases call with
  | config => rfl
  | conditions => rfl
  | write l => exact isSome_writeConditions k l
  | report d now =>
    simp only [MemoryStore.perform, MemoryStore.report]
    split
    · rfl
    · split_ifs
      · exact isSome_writeConditions k _
      · rfl

theorem MemoryStore.Writable.perform (h : m.Writable keys) :
    (MemoryStore.perform m key call).2.Writable keys := by
  intro k hk hsome
  rw [MemoryStore.isSome_perform] at hsome
  exact h k hk hsome

/-- The results of a call agree, and so do the stores behind it. -/
structure CallAgrees (server : ApiServer keys τ) (m : MemoryStore) (t : τ) (key : PatternKey)
    (call : StoreCall) (x : Except StoreError StoreValue) (t' : τ) : Prop where
  result : Agree key call (MemoryStore.perform m key call).1 x
  mirrors : server.Mirrors (MemoryStore.perform m key call).2 t'
  untouched : Untouched server (MemoryStore.requests m key call) t t'

/-- In the cluster a call sends what it takes, and agrees. -/
def AgreesOn (σ : Type) (server : ApiServer keys τ) (m : MemoryStore) (t : τ) (key : PatternKey)
    (call : StoreCall) : Prop :=
  ∃ x t', server.Does (ClusterStore.perform key call : Activity σ _) t x
      (MemoryStore.requests m key call) t' ∧
    CallAgrees server m t key call x t'

theorem Untouched.of_leaves (h : server.Leaves t t') (requests : List Request) :
    Untouched server requests t t' :=
  fun k hk _ => h k hk

section Report

variable {d : Bool} {now : Moment} {old : List Condition} {e : StoreError}

theorem perform_report_of_error (d : Bool) (now : Moment)
    (hm : MemoryStore.conditions m key = .error e) :
    MemoryStore.perform m key (.report d now) = (.error e, m) ∧
      MemoryStore.requests m key (.report d now) = (reading key).toList := by
  simp [MemoryStore.perform, MemoryStore.report, MemoryStore.requests, hm, Except.map]

theorem writeConditions_of_ok {l : List Condition} (hm : MemoryStore.conditions m key = .ok old) :
    (MemoryStore.writeConditions m key l).1 = .ok () := by
  unfold MemoryStore.conditions MemoryStore.find at hm
  unfold MemoryStore.writeConditions
  cases hknown : m.get? key with
  | none => simp [hknown, Except.map] at hm
  | some p => rfl

theorem perform_report_of_ok (d : Bool) (now : Moment)
    (hm : MemoryStore.conditions m key = .ok old) :
    MemoryStore.perform m key (.report d now) =
      (.ok .done, if (setSyncCondition old d now).2
        then (MemoryStore.writeConditions m key (setSyncCondition old d now).1).2 else m) ∧
    MemoryStore.requests m key (.report d now) =
      (reading key).toList ++ if (setSyncCondition old d now).2
        then (writing key (setSyncCondition old d now).1).toList else [] := by
  simp only [MemoryStore.perform, MemoryStore.report, MemoryStore.requests, hm]
  cases hchanged : (setSyncCondition old d now).2 with
  | false =>
    have hsame : (setSyncCondition old d now).1 = old := by
      by_contra hne
      simp [setSyncCondition_changed_iff.mpr hne] at hchanged
    simp [hsame, Except.map]
  | true =>
    have hnew : (setSyncCondition old d now).1 ≠ old := setSyncCondition_changed_iff.mp hchanged
    simp [hnew, writeConditions_of_ok hm, Except.map]

/-- What a report does once the conditions have been read. -/
def ClusterStore.afterRead (key : PatternKey) (d : Bool) (now : Moment) :
    Except StoreError (List Condition) → Activity σ (Except StoreError Unit)
  | .error e => return .error e
  | .ok old =>
    if (setSyncCondition old d now).2 then writeConditions key (setSyncCondition old d now).1
    else return .ok ()

theorem ClusterStore.report_eq : ClusterStore.report (σ := σ) key d now =
    ClusterStore.conditions key >>= ClusterStore.afterRead key d now := by
  unfold ClusterStore.report
  congr

theorem does_perform_report {x : Except StoreError (List Condition)} {y : Except StoreError Unit}
    {t₁ t₂ : τ} {sent sent' : List Request}
    (hread : server.Does (ClusterStore.conditions key : Activity σ _) t x sent t₁)
    (hrest : server.Does (ClusterStore.afterRead key d now x : Activity σ _) t₁ y sent' t₂) :
    server.Does (ClusterStore.perform key (.report d now) : Activity σ _) t
      (y.map fun _ => .done) (sent ++ sent') t₂ := by
  rw [ClusterStore.perform, ClusterStore.report_eq]
  exact (hread.bind hrest).map _

theorem does_report_of_error {e' : StoreError} (hm : MemoryStore.conditions m key = .error e)
    (hread : server.Does (ClusterStore.conditions key : Activity σ _) t (.error e')
      (reading key).toList t')
    (hleaves : server.Leaves t t') (h : server.Mirrors m t)
    (hagree : Agree key (.report d now) (.error e) (.error e')) :
    AgreesOn σ server m t key (.report d now) := by
  obtain ⟨hperform, hrequests⟩ := perform_report_of_error d now hm
  refine ⟨.error e', t', ?_, ?_, ?_, .of_leaves hleaves _⟩
  · rw [hrequests, ← List.append_nil (reading key).toList]
    exact does_perform_report (y := .error e') hread (.pure _ _)
  · rwa [hperform]
  · rw [hperform]
    exact h.leave hleaves

/-- A report that changes nothing sends no patch. -/
theorem does_report_of_unchanged (hm : MemoryStore.conditions m key = .ok old)
    (hchanged : (setSyncCondition old d now).2 = false)
    (hread : server.Does (ClusterStore.conditions key : Activity σ _) t (.ok old)
      (reading key).toList t')
    (hleaves : server.Leaves t t') (h : server.Mirrors m t) :
    AgreesOn σ server m t key (.report d now) := by
  obtain ⟨hperform, hrequests⟩ := perform_report_of_ok d now hm
  rw [hchanged, if_neg Bool.false_ne_true] at hperform hrequests
  have hrest : server.Does (ClusterStore.afterRead key d now (.ok old) : Activity σ _) t' (.ok ())
      [] t' := by
    rw [ClusterStore.afterRead, hchanged]
    exact .pure _ _
  refine ⟨.ok .done, t', ?_, ?_, ?_, .of_leaves hleaves _⟩
  · rw [hrequests]
    exact does_perform_report hread hrest
  · rw [hperform]
    exact .same _ _
  · rw [hperform]
    exact h.leave hleaves

/-- A report that changes conditions writes what it makes of them. -/
theorem does_report_of_changed (hkey : key ∈ keys) (hw : m.Writable keys)
    (hm : MemoryStore.conditions m key = .ok old) (hchanged : (setSyncCondition old d now).2 = true)
    (hread : server.Does (ClusterStore.conditions key : Activity σ _) t (.ok old)
      (reading key).toList t')
    (hleaves : server.Leaves t t') (h : server.Mirrors m t) :
    AgreesOn σ server m t key (.report d now) := by
  obtain ⟨hperform, hrequests⟩ := perform_report_of_ok d now hm
  rw [hchanged, if_pos rfl] at hperform hrequests
  obtain ⟨y, t₂, hwrite, hresult, hmirrors, huntouched⟩ :=
    does_writeConditions (σ := σ) hkey (h.leave hleaves) fun hknown => hw key hkey hknown _
  rw [writeConditions_of_ok hm] at hresult
  obtain rfl : y = .ok () := by
    cases y with
    | ok => rfl
    | error => cases hresult
  have hrest : server.Does (ClusterStore.afterRead key d now (.ok old) : Activity σ _) t' (.ok ())
      (writing key (setSyncCondition old d now).1).toList t₂ := by
    rw [ClusterStore.afterRead, hchanged, if_pos rfl]
    exact hwrite
  refine ⟨.ok .done, t₂, ?_, ?_, ?_, fun k hk hfree => ?_⟩
  · rw [hrequests]
    exact does_perform_report hread hrest
  · rw [hperform]
    exact .same _ _
  · rw [hperform]
    exact hmirrors
  · rw [hrequests] at hfree
    rw [huntouched k hk fun l r hr hmem => hfree l r hr (List.mem_append_right _ hmem)]
    exact hleaves k hk

end Report

theorem does_report (hkey : key ∈ keys) (h : server.Mirrors m t) (hw : m.Writable keys) (d : Bool)
    (now : Moment) : AgreesOn σ server m t key (.report d now) := by
  obtain ⟨x, t₁, hread, hleaves, hagree⟩ := does_conditions (σ := σ) hkey h
  have hother : ∀ l, StoreCall.report d now ≠ .write l := by simp
  generalize hm : MemoryStore.conditions m key = known at hagree
  cases hagree with
  | same old =>
    cases hchanged : (setSyncCondition old d now).2 with
    | false => exact does_report_of_unchanged hm hchanged hread hleaves h
    | true => exact does_report_of_changed hkey hw hm hchanged hread hleaves h
  | notFound hsome => exact does_report_of_error hm hread hleaves h (.notFound hother hsome)
  | noRequest hnone => exact does_report_of_error hm hread hleaves h (.noRequest _ hnone)

theorem does_perform (hkey : key ∈ keys) (h : server.Mirrors m t) (hw : m.Writable keys)
    (call : StoreCall) : AgreesOn σ server m t key call := by
  cases call with
  | config =>
    obtain ⟨x, t', hdoes, hleaves, hfetched⟩ := does_fetch (σ := σ) hkey h
    have hagree := hfetched.readAgree (·.config) (·.spec.gitSpec) fun _ => rfl
    exact ⟨_, t', (hdoes.map _).map _, hagree.agree (by simp) _, h.leave hleaves,
      .of_leaves hleaves _⟩
  | conditions =>
    obtain ⟨x, t', hdoes, hleaves, hagree⟩ := does_conditions (σ := σ) hkey h
    exact ⟨_, t', hdoes.map _, hagree.agree (by simp) _, h.leave hleaves, .of_leaves hleaves _⟩
  | write l =>
    obtain ⟨x, t', hdoes, hagree, hmirrors, huntouched⟩ :=
      does_writeConditions (σ := σ) hkey h fun hknown => hw key hkey hknown l
    exact ⟨_, t', hdoes.map _, hagree, hmirrors, huntouched⟩
  | report d now => exact does_report hkey h hw d now

/-- Calls that are made of both stores one after another have results that agree, and the stores hold
the same afterwards, if they did so before, under keys of which requests to write can be made. The
requests are those that the calls take, and what is stored under a key stays as it is unless one of
them writes to it. -/
theorem stores_agree (h : server.Mirrors m t) (hw : m.Writable keys)
    (hcalls : ∀ c ∈ calls, c.1 ∈ keys) (s : σ) :
    ∃ done t', (ClusterStore.performAll calls).run (ApiServer.logged server.answer) s (t, []) =
        (some done, s, t', MemoryStore.allRequests m calls) ∧
      List.Forall₂ Performed.Agree (MemoryStore.performAll m calls).1 done ∧
      server.Mirrors (MemoryStore.performAll m calls).2 t' ∧
      Untouched server (MemoryStore.allRequests m calls) t t' := by
  suffices hdoes : ∃ done t', server.Does (ClusterStore.performAll calls : Activity σ _) t done
        (MemoryStore.allRequests m calls) t' ∧
      List.Forall₂ Performed.Agree (MemoryStore.performAll m calls).1 done ∧
      server.Mirrors (MemoryStore.performAll m calls).2 t' ∧
      Untouched server (MemoryStore.allRequests m calls) t t' by
    obtain ⟨done, t', hdoes, hrest⟩ := hdoes
    exact ⟨done, t', hdoes s [], hrest⟩
  induction calls generalizing m t with
  | nil => exact ⟨[], t, .pure _ _, .nil, h, fun _ _ _ => rfl⟩
  | cons c calls ih =>
    obtain ⟨key, call⟩ := c
    obtain ⟨x, t₁, hdoes, hagree⟩ :=
      does_perform (σ := σ) (hcalls _ List.mem_cons_self) h hw call
    obtain ⟨done, t₂, hrest, hresults, hmirrors, huntouched⟩ :=
      ih hagree.mirrors hw.perform fun c hc => hcalls c (List.mem_cons_of_mem _ hc)
    refine ⟨⟨key, call, x⟩ :: done, t₂, hdoes.bind (hrest.map _),
      .cons ⟨rfl, rfl, hagree.result⟩ hresults, hmirrors, fun k hk hfree => ?_⟩
    rw [huntouched k hk fun l r hr hmem => hfree l r hr (List.mem_append_right _ hmem)]
    exact hagree.untouched k hk fun l r hr hmem => hfree l r hr (List.mem_append_left _ hmem)

/-- A Pattern that has just been created. -/
def mcgKey : PatternKey := ⟨"mcg", "patterns"⟩

def mcgSpec : PatternSpec :=
  { gitSpec := { targetRepo := "https://gitea.example.com/org/mcg", pollInterval := 300 } }

def samplePatterns (key : PatternKey) : Option (PatternSpec × Option PatternStatus) :=
  if key = mcgKey then some (mcgSpec, none) else none

def sampleMemory : MemoryStore := ⟨[(mcgKey, ⟨mcgSpec.gitSpec, []⟩)]⟩

theorem samplePatterns_eq {p : PatternSpec × Option PatternStatus}
    (h : samplePatterns key = some p) : key = mcgKey ∧ p = (mcgSpec, none) := by
  unfold samplePatterns at h
  split_ifs at h with hkey
  exact ⟨hkey, (Option.some.inj h).symm⟩

theorem sampleInts (key : PatternKey) (p : PatternSpec × Option PatternStatus)
    (h : samplePatterns key = some p) : AreInt64 p.1 p.2 := by
  obtain ⟨_, rfl⟩ := samplePatterns_eq h
  exact ⟨⟨by decide, by decide⟩, nofun⟩

def sampleShelf : Shelf := Shelf.ofPatterns samplePatterns sampleInts

/-- A report, a write of a Pattern that is not there, and a look at one that no request can be made
for. -/
def sampleCalls : List (PatternKey × StoreCall) :=
  [(mcgKey, .report true ⟨1, 0⟩), (⟨"other", "patterns"⟩, .write []),
    (⟨"", "patterns"⟩, .config)]

theorem sampleCalls_agree :
    Shelf.server.Mirrors sampleMemory sampleShelf ∧
      sampleMemory.Writable {key | key.Undivided} ∧ (∀ c ∈ sampleCalls, c.1.Undivided) ∧
      ∃ done shelf r,
        (ClusterStore.performAll sampleCalls).run (ApiServer.logged Shelf.server.answer) ()
          (sampleShelf, []) =
            (some done, (), shelf, MemoryStore.allRequests sampleMemory sampleCalls) ∧
        done.map (·.result) =
          [.ok .done, .error (.cluster (.refused r)), .error (.cluster .badRequest)] ∧
        r.reason = "NotFound" ∧
        Shelf.server.Mirrors (MemoryStore.performAll sampleMemory sampleCalls).2 shelf := by
  have hmemory (key : PatternKey) : sampleMemory.get? key =
      (samplePatterns key).map fun p => ⟨p.1.gitSpec, (p.2.getD {}).conditions⟩ := by
    simp only [sampleMemory, Table.get?, Table.lookup, samplePatterns]
    split_ifs <;> rfl
  have hmirrors : Shelf.server.Mirrors sampleMemory sampleShelf := by
    refine mirrors_ofPatterns sampleInts (fun key p hp => ?_) hmemory
    obtain ⟨rfl, _⟩ := samplePatterns_eq hp
    rfl
  have hwritable : sampleMemory.Writable {key | key.Undivided} := by
    intro key _ hsome l
    rw [hmemory, Option.isSome_map] at hsome
    obtain ⟨p, hp⟩ := Option.isSome_iff_exists.mp hsome
    obtain ⟨rfl, _⟩ := samplePatterns_eq hp
    rfl
  have hkeys : ∀ c ∈ sampleCalls, c.1.Undivided := by
    simp only [sampleCalls, List.forall_mem_cons]
    exact ⟨rfl, rfl, rfl, by simp⟩
  obtain ⟨done, shelf, hrun, hagree, hend, _⟩ := stores_agree hmirrors hwritable hkeys ()
  have hresults : (MemoryStore.performAll sampleMemory sampleCalls).1 =
      [⟨mcgKey, .report true ⟨1, 0⟩, .ok .done⟩,
        ⟨⟨"other", "patterns"⟩, .write [], .error (.notFound ⟨"other", "patterns"⟩)⟩,
        ⟨⟨"", "patterns"⟩, .config, .error (.notFound ⟨"", "patterns"⟩)⟩] := rfl
  rw [hresults] at hagree
  obtain _ | @⟨_, ⟨_, _, x⟩, _, _, ⟨rfl, rfl, hx⟩, hagree⟩ := hagree
  obtain _ | @⟨_, ⟨_, _, y⟩, _, _, ⟨rfl, rfl, hy⟩, hagree⟩ := hagree
  obtain _ | @⟨_, ⟨_, _, z⟩, _, _, ⟨rfl, rfl, hz⟩, ⟨⟩⟩ := hagree
  cases hx
  cases hz with
  | notFound _ hkey => cases hkey
  | noRequest =>
    cases hy with
    | notFound hcall _ => exact absurd rfl (hcall [])
    | noRequest _ hkey => cases hkey
    | @refused _ r _ hr => exact ⟨hmirrors, hwritable, hkeys, _, shelf, r, hrun, rfl, hr, hend⟩

def emptyShelf : Shelf := Shelf.ofPatterns (fun _ => none) nofun

theorem mirrors_emptyShelf : Shelf.server.Mirrors ⟨[]⟩ emptyShelf := by
  refine mirrors_ofPatterns _ (fun _ _ h => ?_) fun _ => rfl
  cases h

/-- A key without a name is one that no request can be made of: the store of the cluster fails in
its own words, and the store in memory says that the Pattern is not found. -/
theorem unnamed_key_fails_otherwise :
    Shelf.server.Mirrors ⟨[]⟩ emptyShelf ∧ PatternKey.Undivided ⟨"", "patterns"⟩ ∧
      (MemoryStore.perform ⟨[]⟩ ⟨"", "patterns"⟩ .conditions).1 =
        .error (.notFound ⟨"", "patterns"⟩) ∧
      (ClusterStore.perform ⟨"", "patterns"⟩ .conditions).run
        (ApiServer.logged Shelf.server.answer) () (emptyShelf, []) =
          (some (.error (.cluster .badRequest)), (), emptyShelf, []) :=
  ⟨mirrors_emptyShelf, rfl, rfl, rfl⟩

end GitDrift.Drift
