import ChatRelay.Time.Calendar

/-!
# Days and dates

`Date.ofDayNumber` finds a date of the calendar for every count of days
(`ofDayNumber_valid`), and `Date.dayNumber` counts back (`dayNumber_ofDayNumber`).
Later days have later dates (`ofDayNumber_before`).
-/

namespace ChatRelay.Time

/-- Whether a date comes before another in the calendar. -/
def Date.Before (d d' : Date) : Prop :=
  d.year < d'.year ∨
    d.year = d'.year ∧ (d.month < d'.month ∨ d.month = d'.month ∧ d.day < d'.day)

/-- A day of an era by the century, the four years, the year and the day: centuries of 36524 days,
four years of 1461 days, years of 365 days, each of them perhaps with one more day at its end. -/
structure EraDay where
  century : Nat
  fours : Nat
  year : Nat
  day : Nat

namespace EraDay

/-- The count of days. -/
def number (e : EraDay) : Nat := 36524 * e.century + 1461 * e.fours + 365 * e.year + e.day

def yearOfEra (e : EraDay) : Nat := 100 * e.century + 4 * e.fours + e.year

/-- A day that there is. The last day of four years is a leap day, which a century lacks unless it
is the last of the era. -/
structure Real (e : EraDay) : Prop where
  century : e.century ≤ 3
  fours : e.fours ≤ 24
  year : e.year ≤ 3
  day : e.day ≤ 365
  leap : e.day = 365 → e.year = 3 ∧ (e.fours = 24 → e.century = 3)

end EraDay

theorem yearOfEra_eq {n : Nat} (h : n < 146097) :
    ∃ e : EraDay, e.Real ∧ e.number = n ∧ yearOfEra n = (e.yearOfEra, e.day) := by
  let c := min (n / 36524) 3
  let f := (n - 36524 * c) / 1461
  let y := min ((n - 36524 * c - 1461 * f) / 365) 3
  refine ⟨⟨c, f, y, n - 36524 * c - 1461 * f - 365 * y⟩, ?_, ?_, rfl⟩
  · refine ⟨?_, ?_, ?_, ?_, ?_⟩ <;> simp only [c, f, y] <;> omega
  · simp only [EraDay.number, c, f, y]
    omega

theorem EraDay.Real.number_lt {e : EraDay} (h : e.Real) : e.number < 146097 := by
  obtain ⟨hc, hf, hy, hd, hl⟩ := h
  rw [number]
  omega

/-- Later days of an era are in later years, or later in the same year. -/
theorem EraDay.Real.lt {e e' : EraDay} (h : e.Real) (h' : e'.Real) (hlt : e.number < e'.number) :
    e.yearOfEra < e'.yearOfEra ∨ e.yearOfEra = e'.yearOfEra ∧ e.day < e'.day := by
  obtain ⟨c, f, y, d⟩ := e
  obtain ⟨c', f', y', d'⟩ := e'
  obtain ⟨hc, hf, hy, hd, hl⟩ := h
  obtain ⟨hc', hf', hy', hd', hl'⟩ := h'
  simp only [number, yearOfEra] at *
  omega

/-- The date of a day of an era. -/
def EraDay.date (era : Int) (e : EraDay) : Date :=
  let m := (5 * e.day + 2) / 153
  let year := 400 * era + e.yearOfEra
  if m < 10 then ⟨year, m + 3, e.day - daysToMonth m + 1⟩
  else ⟨year + 1, m - 9, e.day - daysToMonth m + 1⟩

/-- Every day is a day of an era. -/
theorem ofDayNumber_eq (n : Int) :
    ∃ (era : Int) (e : EraDay), e.Real ∧ n + epochDay = 146097 * era + e.number ∧
      Date.ofDayNumber n = e.date era := by
  have hlt : ((n + epochDay) % 146097).toNat < 146097 := by omega
  obtain ⟨e, hreal, hnumber, heq⟩ := yearOfEra_eq hlt
  refine ⟨(n + epochDay) / 146097, e, hreal, by omega, ?_⟩
  simp only [Date.ofDayNumber, heq]
  rfl

/-- The day of a year, by the month counted from March. -/
theorem daysToMonth_le (day : Nat) :
    daysToMonth ((5 * day + 2) / 153) ≤ day ∧ day < daysToMonth ((5 * day + 2) / 153 + 1) := by
  simp only [daysToMonth]
  omega

theorem dayNumber_date (era : Int) {e : EraDay} (h : e.Real) :
    (e.date era).dayNumber + epochDay = 146097 * era + e.number := by
  obtain ⟨hc, hf, hy, hd, hl⟩ := h
  have hm := daysToMonth_le e.day
  have hyear : daysToMarch (400 * era + e.yearOfEra) =
      146097 * era + 36524 * e.century + 1461 * e.fours + 365 * e.year := by
    simp only [daysToMarch, EraDay.yearOfEra]
    omega
  rw [EraDay.date, EraDay.number]
  split
  · rename_i h10
    rw [Date.dayNumber, if_neg (by simp), Nat.add_sub_cancel, hyear]
    dsimp only
    omega
  · rename_i h10
    rw [Date.dayNumber, if_pos (by simp; omega)]
    dsimp only
    rw [Int.add_sub_cancel, hyear, Nat.sub_add_cancel (by omega)]
    omega

theorem isLeapYear_iff (year : Int) :
    isLeapYear year = true ↔ year % 4 = 0 ∧ (year % 100 ≠ 0 ∨ year % 400 = 0) := by
  simp [isLeapYear]

/-- A year of 366 days ends in a February of 29 days. -/
theorem EraDay.Real.isLeapYear {e : EraDay} (h : e.Real) (era : Int) (hday : e.day = 365) :
    isLeapYear (400 * era + e.yearOfEra + 1) = true := by
  obtain ⟨hc, hf, hy, hd, hl⟩ := h
  rw [isLeapYear_iff, yearOfEra]
  omega

theorem date_valid (era : Int) {e : EraDay} (h : e.Real) : (e.date era).Valid := by
  have hday := h.day
  rw [EraDay.date]
  split
  · rename_i h10
    refine ⟨by simp, by simp; omega, by simp, ?_⟩
    simp only [daysInMonth, daysToMonth]
    split
    · omega
    · split <;> omega
  · rename_i h10
    refine ⟨by simp; omega, by simp; omega, by simp, ?_⟩
    simp only [daysInMonth, daysToMonth]
    rcases Nat.lt_or_ge e.day 337 with hjanuary | hfebruary
    · rw [if_neg (by omega), if_neg (by omega)]
      omega
    · rw [show (5 * e.day + 2) / 153 = 11 by omega, if_pos rfl]
      by_cases hleap : e.day = 365
      · rw [if_pos (h.isLeapYear era hleap)]
        omega
      · have : 28 ≤ if isLeapYear (400 * era + e.yearOfEra + 1) = true then 29 else 28 := by
          split <;> omega
        omega

/-- Counting the days to the date that was found for a count gives the count. -/
theorem dayNumber_ofDayNumber (n : Int) : (Date.ofDayNumber n).dayNumber = n := by
  obtain ⟨era, e, hreal, hn, heq⟩ := ofDayNumber_eq n
  have := dayNumber_date era hreal
  rw [heq]
  omega

/-- The date that is found is one of the calendar. -/
theorem ofDayNumber_valid (n : Int) : (Date.ofDayNumber n).Valid := by
  obtain ⟨era, e, hreal, -, heq⟩ := ofDayNumber_eq n
  rw [heq]
  exact date_valid era hreal

/-- Later days have later dates. -/
theorem ofDayNumber_before {n n' : Int} (h : n < n') :
    (Date.ofDayNumber n).Before (Date.ofDayNumber n') := by
  obtain ⟨era, e, hreal, hn, heq⟩ := ofDayNumber_eq n
  obtain ⟨era', e', hreal', hn', heq'⟩ := ofDayNumber_eq n'
  have hlex : era < era' ∨ era = era' ∧ (e.yearOfEra < e'.yearOfEra ∨
      e.yearOfEra = e'.yearOfEra ∧ e.day < e'.day) := by
    have hbound := hreal.number_lt
    have hbound' := hreal'.number_lt
    rcases Int.lt_trichotomy era era' with hlt | rfl | hgt
    · exact .inl hlt
    · exact .inr ⟨rfl, hreal.lt hreal' (by omega)⟩
    · omega
  have hyear : e.yearOfEra < 400 := by
    have := hreal.century
    have := hreal.fours
    have := hreal.year
    rw [EraDay.yearOfEra]
    omega
  have hm := daysToMonth_le e.day
  have hm' := daysToMonth_le e'.day
  have hday := hreal.day
  have hday' := hreal'.day
  rw [heq, heq', Date.Before]
  simp only [EraDay.date]
  split <;> split <;> simp only [daysToMonth] at * <;> omega

end ChatRelay.Time
