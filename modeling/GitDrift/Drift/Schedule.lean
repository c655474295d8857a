import GitDrift.Pattern.Key
import GitDrift.Time.Clock

/-!
The schedule of drift checks: one entry for each watched Pattern, in the order in which their next
checks are due. Of entries that are due at one time, the one scheduled first comes first.
-/
namespace GitDrift.Drift

structure Entry where
  key : PatternKey
  interval : Span
  lastCheck : Option Instant := none
  nextCheck : Instant
deriving DecidableEq, Inhabited

/-- Entries in the order of their next checks. -/
abbrev Schedule := List Entry

/-- Adding to the clock went beyond its last reading. -/
inductive ClockOverflow where
  | overflow
deriving DecidableEq

namespace Schedule

variable (s : Schedule)

/-- The entry of a key. -/
def entryOf (key : PatternKey) : Option Entry := s.find? (·.key = key)

def contains (key : PatternKey) : Bool := (entryOf s key).isSome

def keys : List PatternKey := s.map (·.key)

/-- The schedule without the entry of a key. -/
def without (key : PatternKey) : Schedule := s.filter (·.key ≠ key)

/-- Puts an entry behind those that are due no later. -/
def place (e : Entry) : Schedule → Schedule
  | [] => [e]
  | f :: s => if f.nextCheck ≤ e.nextCheck then f :: place e s else e :: f :: s

/-- Schedules a key for one interval from now, in place of its old entry, and says whether the key
is new. The old entry is gone even when the clock overflows. -/
def upsert (key : PatternKey) (interval : Span) (now : Instant) :
    Except ClockOverflow Bool × Schedule :=
  match now.after? interval with
  | some next => (.ok (!contains s key), place ⟨key, interval, none, next⟩ (without s key))
  | none => (.error .overflow, without s key)

/-- Drops the entry of a key and answers with it. -/
def remove (key : PatternKey) : Option Entry × Schedule := (entryOf s key, without s key)

/-- Records a check of a key that finished, and schedules the next. Nothing happens when the key
has no entry, or one that is due later. -/
def complete (key : PatternKey) (finished : Instant) : Except ClockOverflow Bool × Schedule :=
  match entryOf s key with
  | none => (.ok false, s)
  | some e =>
    if finished < e.nextCheck then (.ok false, s)
    else
      match finished.after? e.interval with
      | some next =>
        (.ok true, place { e with lastCheck := some finished, nextCheck := next } (without s key))
      | none => (.error .overflow, without s key)

end Schedule
end GitDrift.Drift
