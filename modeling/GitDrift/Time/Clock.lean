import GitDrift.Text.Numeral

/-!
The clock that checks are scheduled by. It counts milliseconds since the machine started, and its
readings have to stay below `2 ^ 63` seconds.
-/
namespace GitDrift

/-- A reading of the clock, in milliseconds. -/
abbrev Instant := Nat

/-- A length of time, in milliseconds. -/
abbrev Span := Nat

def Span.ofSeconds (n : Nat) : Span := n * 1000

/-- The longest sleep: thirty years of 365 days. The bound is that of the runtime's timer, which
ends any longer sleep there. -/
def Span.longestSleep : Span := 946080000000

/-- How long a sleep of a given length lasts. -/
def Span.slept (d : Span) : Span := min d Span.longestSleep

/-- Every reading is below this one. -/
def Instant.limit : Nat := 0x8000000000000000 * 1000

/-- The reading after a span of time, unless the clock overflows. -/
def Instant.after? (t : Instant) (d : Span) : Option Instant :=
  if t + d < Instant.limit then some (t + d) else none

/-- Decimal places that are worth writing: those up to the last that is not zero. -/
def decimalPlaces (width n : Nat) : List Char :=
  match ((Text.paddedDigits width n).reverse.dropWhile (· = '0')).reverse with
  | [] => []
  | ds => '.' :: ds

/-- A span of time in the largest unit that it fills. -/
def Span.text (d : Span) : String :=
  if d = 0 then "0ns"
  else if d < 1000 then Text.ofNat d ++ "ms"
  else Text.ofNat (d / 1000) ++ String.ofList (decimalPlaces 3 (d % 1000)) ++ "s"

end GitDrift
