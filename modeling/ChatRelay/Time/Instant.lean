import ChatRelay.Decimal.Shortest
import ChatRelay.Time.Calendar

/-!
# Points in time

A point in time is a number of seconds since the first of January 1970 in UTC,
and of nanoseconds. `Instant.text` writes it in the form of RFC 3339.

A leap second has no number of its own. It shares the one of the second in
front of it, and is told apart by a count of nanoseconds beyond one second.
-/

namespace ChatRelay.Time

/-- A point in time. -/
structure Instant where
  seconds : Int
  /-- Below 10^9, or up to 2 * 10^9 in the leap second behind `seconds`. -/
  nanos : Nat
  deriving DecidableEq, Repr

/-- How many nanoseconds a second has. -/
def nanosPerSecond : Nat := 1000000000

/-- Whether a point in time lies before another. -/
def Instant.isBefore (s t : Instant) : Bool :=
  s.seconds < t.seconds || (s.seconds == t.seconds && s.nanos < t.nanos)

/-- The last full microsecond. -/
def Instant.truncate (t : Instant) : Instant :=
  { t with nanos := t.nanos / 1000 * 1000 }

/-- How the fraction of a second is written. -/
inductive Fraction where
  /-- The least of no, three, six and nine digits that is exact. -/
  | exact
  /-- Six digits. -/
  | micros
  deriving DecidableEq, Repr

/-- The digits of a fraction and the point in front of them. -/
def Fraction.chars (f : Fraction) (nanos : Nat) : List Char :=
  match f with
  | .micros => '.' :: paddedDigits 6 (nanos / 1000)
  | .exact =>
    if nanos = 0 then []
    else if nanos % 1000000 = 0 then '.' :: paddedDigits 3 (nanos / 1000000)
    else if nanos % 1000 = 0 then '.' :: paddedDigits 6 (nanos / 1000)
    else '.' :: paddedDigits 9 nanos

/-- Four digits; a year that needs more, or comes before the year 0, has a sign. -/
def yearChars (year : Int) : List Char :=
  if 0 ≤ year ∧ year ≤ 9999 then paddedDigits 4 year.toNat
  else (if year < 0 then '-' else '+') :: paddedDigits 4 year.natAbs

def Date.chars (d : Date) : List Char :=
  yearChars d.year ++ '-' :: paddedDigits 2 d.month ++ '-' :: paddedDigits 2 d.day

/-- The date of a point in time. -/
def Instant.date (t : Instant) : Date :=
  Date.ofDayNumber (t.seconds / 86400)

/-- The second of the day. -/
def Instant.secondOfDay (t : Instant) : Nat :=
  (t.seconds % 86400).toNat

/-- Hours and minutes. -/
def Instant.clockChars (t : Instant) : List Char :=
  paddedDigits 2 (t.secondOfDay / 3600) ++ ':' :: paddedDigits 2 (t.secondOfDay / 60 % 60)

/-- Date and time in UTC. -/
def Instant.chars (f : Fraction) (t : Instant) : List Char :=
  let (leap, nanos) :=
    if t.nanos < nanosPerSecond then (0, t.nanos) else (1, t.nanos - nanosPerSecond)
  t.date.chars ++ 'T' :: t.clockChars ++ ':' :: paddedDigits 2 (t.secondOfDay % 60 + leap) ++
    f.chars nanos ++ ['Z']

/-- Date and time in UTC, to the nanosecond. -/
def Instant.text (t : Instant) : String :=
  String.ofList (t.chars .exact)

/-- Date and time in UTC to the minute, for a reader of tables. -/
def Instant.minuteText (t : Instant) : String :=
  String.ofList (t.date.chars ++ ' ' :: t.clockChars)

end ChatRelay.Time
