import GitDrift.Text.Numeral

/-!
Points in time on the UTC scale, and how they are written (RFC 3339 with whole seconds). The
calendar is the Gregorian one for all years.
-/
namespace GitDrift

/-- Seconds since the start of 1970, and nanoseconds. A leap second belongs to the second before
it and has its nanoseconds at or above `10 ^ 9`. -/
structure Moment where
  seconds : Int
  nanos : Nat := 0
deriving DecidableEq, Repr

/-- A day of the Gregorian calendar. -/
structure CalendarDay where
  year : Int
  month : Nat
  day : Nat
deriving DecidableEq, Repr

namespace CalendarDay

def isLeapYear (year : Int) : Bool := year % 4 = 0 && (year % 100 ≠ 0 || year % 400 = 0)

def daysInMonth (year : Int) (month : Nat) : Nat :=
  if month = 2 then (if isLeapYear year then 29 else 28)
  else if month = 4 ∨ month = 6 ∨ month = 9 ∨ month = 11 then 30
  else 31

/-- The day that is `n` days after 1970-01-01. Years are counted from March here, in cycles of 400
years, so that a leap day is the last of its year. -/
def ofDays (n : Int) : CalendarDay :=
  let z := n + 719468
  let cycle := z.fdiv 146097
  let dayOfCycle := (z - cycle * 146097).toNat
  let yearOfCycle :=
    (dayOfCycle - dayOfCycle / 1460 + dayOfCycle / 36524 - dayOfCycle / 146096) / 365
  let dayOfYear := dayOfCycle - (365 * yearOfCycle + yearOfCycle / 4 - yearOfCycle / 100)
  let monthFromMarch := (5 * dayOfYear + 2) / 153
  let month := if monthFromMarch < 10 then monthFromMarch + 3 else monthFromMarch - 9
  { year := cycle * 400 + yearOfCycle + (if month ≤ 2 then 1 else 0)
    month
    day := dayOfYear - (153 * monthFromMarch + 2) / 5 + 1 }

/-- How many days after 1970-01-01 a day is. -/
def toDays (d : CalendarDay) : Int :=
  let y := if d.month ≤ 2 then d.year - 1 else d.year
  let cycle := y.fdiv 400
  let yearOfCycle := (y - cycle * 400).toNat
  let monthFromMarch := if 2 < d.month then d.month - 3 else d.month + 9
  let dayOfYear := (153 * monthFromMarch + 2) / 5 + d.day - 1
  cycle * 146097 + (yearOfCycle * 365 + yearOfCycle / 4 - yearOfCycle / 100 + dayOfYear : Nat)
    - 719468

/-- A year in four digits, with a sign when four digits without one cannot hold it. -/
def yearText (year : Int) : List Char :=
  if 0 ≤ year ∧ year ≤ 9999 then Text.paddedDigits 4 year.natAbs
  else (if year < 0 then '-' else '+') :: Text.paddedDigits 4 year.natAbs

end CalendarDay

namespace Moment

/-- The times that have a calendar day of their own: years -262143 to 262142, and nanoseconds of a
leap second only in the last second of a minute. -/
def IsValid (t : Moment) : Prop :=
  -8334601228800 ≤ t.seconds ∧ t.seconds ≤ 8210266876799 ∧
    (t.nanos < 1000000000 ∨ t.seconds % 60 = 59 ∧ t.nanos < 2000000000)

instance (t : Moment) : Decidable t.IsValid := inferInstanceAs (Decidable (_ ∧ _))

/-- The time in RFC 3339, in UTC, without a fraction. A leap second is the sixtieth of its
minute. -/
def format (t : Moment) : String :=
  let day := CalendarDay.ofDays (t.seconds.fdiv 86400)
  let s := (t.seconds.fmod 86400).toNat
  let second := s % 60 + (if t.nanos < 1000000000 then 0 else 1)
  let two := Text.paddedDigits 2
  String.ofList (CalendarDay.yearText day.year ++ '-' :: two day.month ++ '-' :: two day.day ++
    'T' :: two (s / 3600) ++ ':' :: two (s / 60 % 60) ++ ':' :: two second ++ ['Z'])

end Moment
end GitDrift
