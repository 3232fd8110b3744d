/-!
# The calendar

Dates of the Gregorian calendar, continued in both directions, and the days
counted from the first of January 1970.

A year is counted from March here: the leap day is its last day then, and the
lengths of the months follow one formula.

* `Date.dayNumber` counts, `Date.ofDayNumber` finds the date for a count.
-/

namespace ChatRelay.Time

/-- A date. The year 0 is the one before the year 1. -/
structure Date where
  year : Int
  month : Nat
  day : Nat
  deriving DecidableEq, Repr

def isLeapYear (year : Int) : Bool :=
  year % 4 == 0 && (year % 100 != 0 || year % 400 == 0)

def daysInMonth (year : Int) (month : Nat) : Nat :=
  if month = 2 then if isLeapYear year then 29 else 28
  else if month = 4 ∨ month = 6 ∨ month = 9 ∨ month = 11 then 30
  else 31

/-- A date of the calendar. -/
def Date.Valid (d : Date) : Prop :=
  1 ≤ d.month ∧ d.month ≤ 12 ∧ 1 ≤ d.day ∧ d.day ≤ daysInMonth d.year d.month

instance (d : Date) : Decidable d.Valid :=
  inferInstanceAs (Decidable (_ ∧ _ ∧ _ ∧ _))

/-- The days from the first of March of the year 0 to the first of January 1970. -/
def epochDay : Int := 719468

/-- The days from the first of March of the year 0 to that of another year. -/
def daysToMarch (year : Int) : Int :=
  365 * year + year / 4 - year / 100 + year / 400

/-- The days from the first of March to the first of the month `m` months later. -/
def daysToMonth (m : Nat) : Nat :=
  (153 * m + 2) / 5

/-- The days from the first of January 1970 to a date. -/
def Date.dayNumber (d : Date) : Int :=
  if d.month ≤ 2 then
    daysToMarch (d.year - 1) + daysToMonth (d.month + 9) + d.day - 1 - epochDay
  else
    daysToMarch d.year + daysToMonth (d.month - 3) + d.day - 1 - epochDay

/-- A day of an era of 400 years, counted from a first of March: the year of the era and the day of
that year. A century has its leap day at the end, and so has an era, which is why the last day of
either belongs to the year before. -/
def yearOfEra (dayOfEra : Nat) : Nat × Nat :=
  let century := min (dayOfEra / 36524) 3
  let dayOfCentury := dayOfEra - 36524 * century
  let fours := dayOfCentury / 1461
  let dayOfFours := dayOfCentury - 1461 * fours
  let year := min (dayOfFours / 365) 3
  (100 * century + 4 * fours + year, dayOfFours - 365 * year)

/-- The date this many days after the first of January 1970. -/
def Date.ofDayNumber (n : Int) : Date :=
  let sinceMarch := n + epochDay
  let era := sinceMarch / 146097
  let (yearInEra, dayOfYear) := yearOfEra (sinceMarch % 146097).toNat
  let m := (5 * dayOfYear + 2) / 153
  let day := dayOfYear - daysToMonth m + 1
  let year := 400 * era + yearInEra
  if m < 10 then ⟨year, m + 3, day⟩ else ⟨year + 1, m - 9, day⟩

end ChatRelay.Time
