import GitDrift.Proofs.Watcher
import Mathlib.Data.List.Sort

/-!
The schedule as a map from keys to bookings. A booking gets a stamp when it is made and when its
check is completed, and the schedule lists the bookings in the order of their next checks, those of
one time in the order of their stamps.
-/
namespace GitDrift.Drift

/-- What is booked for a key. -/
structure Booking where
  interval : Span
  lastCheck : Option Instant
  nextCheck : Instant
  stamp : ℕ

def Booking.entry (key : PatternKey) (b : Booking) : Entry :=
  ⟨key, b.interval, b.lastCheck, b.nextCheck⟩

/-- What is booked for each key, and the stamp that is given next. -/
structure Ledger where
  bookings : PatternKey → Option Booking := fun _ => none
  next : ℕ := 0

/-- What can be asked of a schedule. -/
inductive Operation where
  | upsert (key : PatternKey) (interval : Span) (now : Instant)
  | remove (key : PatternKey)
  | get (key : PatternKey)
  | contains (key : PatternKey)
  | complete (key : PatternKey) (finished : Instant)

inductive Reply where
  | flag (x : Except ClockOverflow Bool)
  | entry (e : Option Entry)

variable {s s' : Schedule} {m : Ledger} {e f : Entry} {b c : Booking} {k l key : PatternKey}
  {now finished : Instant} {d : Span}

namespace Schedule

def perform (s : Schedule) : Operation → Reply × Schedule
  | .upsert key interval now => ((s.upsert key interval now).map .flag id)
  | .remove key => (s.remove key).map .entry id
  | .get key => (.entry (s.entryOf key), s)
  | .contains key => (.flag (.ok (s.contains key)), s)
  | .complete key finished => (s.complete key finished).map .flag id

end Schedule

namespace Ledger

def get? (m : Ledger) (key : PatternKey) : Option Entry := (m.bookings key).map (·.entry key)

/-- Books a key, under a stamp that no other booking has. -/
def book (m : Ledger) (key : PatternKey) (interval : Span) (lastCheck : Option Instant)
    (nextCheck : Instant) : Ledger where
  bookings k := if k = key then some ⟨interval, lastCheck, nextCheck, m.next⟩ else m.bookings k
  next := m.next + 1

def erase (m : Ledger) (key : PatternKey) : Ledger :=
  { m with bookings := fun k => if k = key then none else m.bookings k }

theorem get?_book (m : Ledger) (key k : PatternKey) (interval : Span)
    (lastCheck : Option Instant) (nextCheck : Instant) :
    (m.book key interval lastCheck nextCheck).get? k =
      if k = key then some ⟨key, interval, lastCheck, nextCheck⟩ else m.get? k := by
  by_cases h : k = key <;> simp [get?, book, h, Booking.entry]

theorem get?_erase (m : Ledger) (key k : PatternKey) :
    (m.erase key).get? k = if k = key then none else m.get? k := by
  by_cases h : k = key <;> simp [get?, erase, h]

/-- What an operation does. Where the clock overflows, the booking is lost. -/
def perform (m : Ledger) : Operation → Reply × Ledger
  | .upsert key interval now =>
    if now + interval < Instant.limit then
      (.flag (.ok (m.bookings key).isNone), m.book key interval none (now + interval))
    else (.flag (.error .overflow), m.erase key)
  | .remove key => (.entry (m.get? key), m.erase key)
  | .get key => (.entry (m.get? key), m)
  | .contains key => (.flag (.ok (m.bookings key).isSome), m)
  | .complete key finished =>
    match m.bookings key with
    | none => (.flag (.ok false), m)
    | some b =>
      if finished < b.nextCheck then (.flag (.ok false), m)
      else if finished + b.interval < Instant.limit then
        (.flag (.ok true), m.book key b.interval (some finished) (finished + b.interval))
      else (.flag (.error .overflow), m.erase key)

/-- A key whose next check is earlier, or that was booked first for the same time. -/
def Before (m : Ledger) (k l : PatternKey) : Prop :=
  ∃ b c, m.bookings k = some b ∧ m.bookings l = some c ∧
    (b.nextCheck < c.nextCheck ∨ b.nextCheck = c.nextCheck ∧ b.stamp < c.stamp)

/-- No stamp is given twice. -/
def Fresh (m : Ledger) : Prop := ∀ k b, m.bookings k = some b → b.stamp < m.next

/-- The schedule lists what is booked, in order. -/
structure ListedBy (m : Ledger) (s : Schedule) : Prop where
  nodup : s.keys.Nodup
  entryOf : ∀ k, s.entryOf k = m.get? k
  before : s.Pairwise fun e f => m.Before e.key f.key

theorem before_irrefl (m : Ledger) (k : PatternKey) : ¬ m.Before k k := by
  rintro ⟨b, c, hb, hc, h⟩
  obtain rfl : b = c := Option.some.inj (hb.symm.trans hc)
  rcases h with h | ⟨_, h⟩ <;> exact Nat.lt_irrefl _ h

theorem not_before_of_before (h : m.Before k l) : ¬ m.Before l k := by
  rintro ⟨c', b', hc', hb', h'⟩
  obtain ⟨b, c, hb, hc, h⟩ := h
  obtain rfl : b = b' := Option.some.inj (hb.symm.trans hb')
  obtain rfl : c = c' := Option.some.inj (hc.symm.trans hc')
  rcases h with h | ⟨heq, h⟩ <;> rcases h' with h' | ⟨heq', h'⟩
  · exact Nat.lt_asymm h h'
  · exact Nat.ne_of_lt h heq'.symm
  · exact Nat.ne_of_lt h' heq.symm
  · exact Nat.lt_asymm h h'

theorem get?_eq_some_iff : m.get? k = some e ↔ ∃ b, m.bookings k = some b ∧ b.entry k = e :=
  Option.map_eq_some_iff

namespace ListedBy

theorem mem_iff (h : m.ListedBy s) : e ∈ s ↔ m.get? e.key = some e := by
  rw [← h.entryOf]
  exact ⟨Schedule.entryOf_of_mem h.nodup, Schedule.mem_of_entryOf⟩

theorem booking (h : m.ListedBy s) (he : e ∈ s) :
    ∃ b, m.bookings e.key = some b ∧ b.nextCheck = e.nextCheck := by
  obtain ⟨b, hb, hbe⟩ := get?_eq_some_iff.mp (h.mem_iff.mp he)
  exact ⟨b, hb, by rw [← hbe, Booking.entry]⟩

/-- Nothing but the bookings decides what is listed, and where. -/
theorem unique (h : m.ListedBy s) (h' : m.ListedBy s') : s = s' := by
  let r (e f : Entry) : Prop := m.Before e.key f.key
  have : Std.Irrefl r := ⟨fun e => before_irrefl m e.key⟩
  have : Std.Antisymm r := ⟨fun _ _ hef hfe => absurd hfe (not_before_of_before hef)⟩
  refine List.Pairwise.eq_of_mem_iff (r := r) h.before h'.before fun e => ?_
  rw [h.mem_iff, h'.mem_iff]

theorem ordered (h : m.ListedBy s) : s.Ordered := by
  refine h.before.imp_of_mem fun {e f} he hf hbefore => ?_
  obtain ⟨b, c, hb, hc, hlt⟩ := hbefore
  obtain ⟨b', hb', hbe⟩ := h.booking he
  obtain ⟨c', hc', hcf⟩ := h.booking hf
  obtain rfl : b = b' := Option.some.inj (hb.symm.trans hb')
  obtain rfl : c = c' := Option.some.inj (hc.symm.trans hc')
  rw [← hbe, ← hcf]
  exact hlt.elim Nat.le_of_lt fun h => Nat.le_of_eq h.1

theorem contains (h : m.ListedBy s) (k : PatternKey) :
    s.contains k = (m.bookings k).isSome := by
  rw [Schedule.contains, h.entryOf, get?, Option.isSome_map]

/-- The order of the other keys depends on their bookings alone. -/
theorem before_without {m' : Ledger} (h : m.ListedBy s) (key : PatternKey)
    (hm : ∀ k, k ≠ key → m'.bookings k = m.bookings k) :
    (s.without key).Pairwise fun e f => m'.Before e.key f.key := by
  refine (h.before.sublist (Schedule.without_sublist s key)).imp_of_mem fun he hf hbefore => ?_
  rw [Before, hm _ (Schedule.mem_without.mp he).2, hm _ (Schedule.mem_without.mp hf).2]
  exact hbefore

theorem erase (h : m.ListedBy s) (key : PatternKey) : (m.erase key).ListedBy (s.without key) where
  nodup := Schedule.nodup_without h.nodup key
  entryOf k := by rw [Schedule.entryOf_without, h.entryOf, get?_erase]
  before := h.before_without key fun _ hk => if_neg hk

theorem book (h : m.ListedBy s) (hm : m.Fresh) (key : PatternKey) (interval : Span)
    (lastCheck : Option Instant) (nextCheck : Instant) :
    (m.book key interval lastCheck nextCheck).ListedBy
      ((s.without key).place ⟨key, interval, lastCheck, nextCheck⟩) where
  nodup := Schedule.nodup_replace h.nodup ⟨key, interval, lastCheck, nextCheck⟩
  entryOf k := by
    rw [Schedule.entryOf_replace s ⟨key, interval, lastCheck, nextCheck⟩, h.entryOf, get?_book]
  before := by
    have hkept (k) (hk : k ≠ key) :
        (m.book key interval lastCheck nextCheck).bookings k = m.bookings k := if_neg hk
    have hnew : (m.book key interval lastCheck nextCheck).bookings key =
        some ⟨interval, lastCheck, nextCheck, m.next⟩ := if_pos rfl
    refine Schedule.pairwise_place (h.ordered.without key) (h.before_without key hkept) ?_ ?_
    · intro f hf hle
      obtain ⟨hf, hk⟩ := Schedule.mem_without.mp hf
      obtain ⟨b, hb, hbf⟩ := h.booking hf
      refine ⟨b, _, (hkept _ hk).trans hb, hnew, ?_⟩
      rw [hbf]
      exact (Nat.lt_or_eq_of_le hle).imp_right fun heq => ⟨heq, hm _ b hb⟩
    · intro f hf hlt
      obtain ⟨hf, hk⟩ := Schedule.mem_without.mp hf
      obtain ⟨b, hb, hbf⟩ := h.booking hf
      exact ⟨_, b, hnew, (hkept _ hk).trans hb, Or.inl (hbf ▸ hlt)⟩

end ListedBy

theorem Fresh.book (h : m.Fresh) (key : PatternKey) (interval : Span)
    (lastCheck : Option Instant) (nextCheck : Instant) :
    (m.book key interval lastCheck nextCheck).Fresh := by
  intro k b hb
  simp only [Ledger.book] at hb ⊢
  split at hb
  · cases hb
    exact Nat.lt_succ_self _
  · exact Nat.lt_succ_of_lt (h k b hb)

theorem Fresh.erase (h : m.Fresh) (key : PatternKey) : (m.erase key).Fresh := by
  intro k b hb
  simp only [Ledger.erase] at hb ⊢
  split at hb
  · cases hb
  · exact h k b hb

/-- An operation is answered alike, and leaves the schedule a listing of what is booked. -/
theorem perform_listedBy (h : m.ListedBy s) (hm : m.Fresh) (o : Operation) :
    (s.perform o).1 = (m.perform o).1 ∧ (m.perform o).2.ListedBy (s.perform o).2 ∧
      (m.perform o).2.Fresh := by
  cases o with
  | upsert key interval now =>
    simp only [Schedule.perform, perform, Schedule.upsert, Instant.after?]
    split_ifs
    · exact ⟨by simp [h.contains], h.book hm .., hm.book _ _ _ _⟩
    · exact ⟨rfl, h.erase key, hm.erase key⟩
  | remove key =>
    exact ⟨congrArg Reply.entry (h.entryOf key), h.erase key, hm.erase key⟩
  | get key => exact ⟨congrArg Reply.entry (h.entryOf key), h, hm⟩
  | contains key => exact ⟨by simp [Schedule.perform, perform, h.contains], h, hm⟩
  | complete key finished =>
    have he := h.entryOf key
    rw [get?] at he
    simp only [Schedule.perform, perform, Schedule.complete, he, Instant.after?]
    cases hb : m.bookings key with
    | none => exact ⟨rfl, h, hm⟩
    | some b =>
      simp only [Option.map_some, Booking.entry]
      split_ifs
      · exact ⟨rfl, h, hm⟩
      · exact ⟨rfl, h.book hm .., hm.book _ _ _ _⟩
      · exact ⟨rfl, h.erase key, hm.erase key⟩

end Ledger

namespace Schedule

/-- Everything ahead of a place is due no later than a time, and everything from there on is. -/
def PartsAt (s : Schedule) (due : Instant) (i : ℕ) : Prop :=
  i ≤ s.length ∧ ∀ j f, s[j]? = some f → (j < i ↔ f.nextCheck ≤ due)

/-- Searches the places from `lo` to `hi` for the first entry that is due later. -/
def bisect (s : Schedule) (due : Instant) (lo hi : ℕ) : ℕ :=
  if lo < hi then
    match s[(lo + hi) / 2]? with
    | some e =>
      if e.nextCheck ≤ due then bisect s due ((lo + hi) / 2 + 1) hi
      else bisect s due lo ((lo + hi) / 2)
    | none => lo
  else lo
termination_by hi - lo

theorem place_of_partsAt {i : ℕ} (h : PartsAt s e.nextCheck i) : place e s = s.insertIdx i e := by
  induction s generalizing i with
  | nil =>
    obtain rfl : i = 0 := Nat.le_zero.mp h.1
    rfl
  | cons f s ih =>
    have hf := h.2 0 f rfl
    rw [place]
    cases i with
    | zero => rw [if_neg (fun hle => absurd (hf.mpr hle) (Nat.lt_irrefl 0)), List.insertIdx_zero]
    | succ i =>
      rw [if_pos (hf.mp (Nat.succ_pos i)), List.insertIdx_succ_cons]
      congr 1
      refine ih ⟨Nat.le_of_succ_le_succ h.1, fun j g hg => ?_⟩
      rw [← h.2 (j + 1) g hg, Nat.add_lt_add_iff_right]

theorem Ordered.le_of_getElem? (h : Ordered s) {i j : ℕ} (he : s[i]? = some e)
    (hf : s[j]? = some f) (hij : i ≤ j) : e.nextCheck ≤ f.nextCheck := by
  obtain ⟨hi, rfl⟩ := List.getElem?_eq_some_iff.mp he
  obtain ⟨hj, rfl⟩ := List.getElem?_eq_some_iff.mp hf
  rcases Nat.lt_or_eq_of_le hij with hlt | rfl
  · exact List.pairwise_iff_getElem.mp h i j hi hj hlt
  · exact Nat.le_refl _

/-- Nothing behind the lower end of the search is due later, and nothing from its upper end on is
due by then, which the order of the schedule keeps up when one half is dropped. -/
theorem partsAt_bisect (ho : Ordered s) {due : Instant} {lo hi : ℕ} (hle : lo ≤ hi)
    (hhi : hi ≤ s.length) (hbelow : ∀ j f, s[j]? = some f → j < lo → f.nextCheck ≤ due)
    (habove : ∀ j f, s[j]? = some f → hi ≤ j → due < f.nextCheck) :
    PartsAt s due (bisect s due lo hi) := by
  fun_induction bisect s due lo hi with
  | case1 lo hi hlt e he hdue ih =>
    refine ih (by omega) hhi (fun j f hf hj => ?_) habove
    exact Nat.le_trans (ho.le_of_getElem? hf he (by omega)) hdue
  | case2 lo hi hlt e he hdue ih =>
    refine ih (by omega) (by omega) hbelow fun j f hf hj => ?_
    exact Nat.lt_of_lt_of_le (Nat.lt_of_not_le hdue) (ho.le_of_getElem? he hf hj)
  | case3 lo hi hlt hnone =>
    have hlen := List.getElem?_eq_none_iff.mp hnone
    omega
  | case4 lo hi hnlt =>
    obtain rfl : lo = hi := by omega
    refine ⟨hhi, fun j f hf => ⟨hbelow j f hf, fun hdue => ?_⟩⟩
    by_contra hj
    exact absurd hdue (Nat.not_le.mpr (habove j f hf (Nat.not_lt.mp hj)))

theorem place_eq_insertIdx_bisect (ho : Ordered s) (e : Entry) :
    place e s = s.insertIdx (bisect s e.nextCheck 0 s.length) e := by
  refine place_of_partsAt (partsAt_bisect ho (Nat.zero_le _) (Nat.le_refl _) (by simp) ?_)
  intro j f hf hj
  rw [List.getElem?_eq_none hj] at hf
  cases hf

end Schedule

/-- Operations one after another, with the replies to them. -/
def performAll {σ : Type} (perform : σ → Operation → Reply × σ) :
    σ → List Operation → List Reply × σ
  | s, [] => ([], s)
  | s, o :: os =>
    let (reply, s) := perform s o
    let (replies, s) := performAll perform s os
    (reply :: replies, s)

theorem performAll_listedBy (h : m.ListedBy s) (hm : m.Fresh) (os : List Operation) :
    (performAll Schedule.perform s os).1 = (performAll Ledger.perform m os).1 ∧
      (performAll Ledger.perform m os).2.ListedBy (performAll Schedule.perform s os).2 ∧
      (performAll Ledger.perform m os).2.Fresh := by
  induction os generalizing s m with
  | nil => exact ⟨rfl, h, hm⟩
  | cons o os ih =>
    obtain ⟨hreply, hlisted, hfresh⟩ := Ledger.perform_listedBy h hm o
    obtain ⟨hreplies, hrest⟩ := ih hlisted hfresh
    exact ⟨congrArg₂ List.cons hreply hreplies, hrest⟩

/-- Whatever is asked of a schedule, it answers as the map from keys to bookings does, and it lists
the bookings in the order of their next checks and stamps. In such a list an entry is put where a
search by halving finds its place. -/
theorem schedule_refines_ledger (os : List Operation) :
    (performAll Schedule.perform [] os).1 = (performAll Ledger.perform {} os).1 ∧
    (∀ s, (performAll Ledger.perform {} os).2.ListedBy s ↔
      s = (performAll Schedule.perform [] os).2) ∧
    (performAll Ledger.perform {} os).2.Fresh ∧
    ∀ s key e, s = (performAll Schedule.perform [] os).2.without key →
      s.Ordered ∧ s.place e = s.insertIdx (s.bisect e.nextCheck 0 s.length) e := by
  have hempty : Ledger.ListedBy {} [] := ⟨List.nodup_nil, fun _ => rfl, List.Pairwise.nil⟩
  obtain ⟨hreplies, hlisted, hfresh⟩ := performAll_listedBy hempty (fun _ _ hb => by cases hb) os
  refine ⟨hreplies, fun s => ⟨fun h => h.unique hlisted, fun h => h ▸ hlisted⟩, hfresh, ?_⟩
  rintro s key e rfl
  have ho := hlisted.ordered.without key
  exact ⟨ho, Schedule.place_eq_insertIdx_bisect ho e⟩

/-- Of keys that are due at one time, the one that was booked last comes last. -/
example :
    let mcg : PatternKey := ⟨"mcg", "patterns"⟩
    let hub : PatternKey := ⟨"hub", "patterns"⟩
    (performAll Schedule.perform [] [.upsert mcg 5 0, .upsert hub 3 2, .upsert mcg 2 3]).2.keys =
      [hub, mcg] := by
  decide

end GitDrift.Drift
