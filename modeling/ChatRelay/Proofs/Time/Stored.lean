import ChatRelay.Proofs.Time.Calendar
import ChatRelay.Proofs.Time.Digits
import ChatRelay.Store.Row

/-!
# Stored points in time

A point in time that the store can keep (`Instant.Storable`) is written as its
fields say (`Storable.chars_eq`), and fields of fixed widths are read back
(`Stamp.Fits.ofStored`).
-/

namespace ChatRelay.Time

/-- The fields of a stored point in time. -/
structure Stamp where
  year : Nat
  month : Nat
  day : Nat
  hour : Nat
  minute : Nat
  second : Nat
  micros : Nat

namespace Stamp

/-- The fields have the widths of their numbers. -/
structure Fits (s : Stamp) : Prop where
  year : s.year < 10000
  month : s.month < 100
  day : s.day < 100
  hour : s.hour < 100
  minute : s.minute < 100
  second : s.second < 100
  micros : s.micros < 1000000

/-- Date and time to the second, in front of `cs`. -/
def charsBefore (s : Stamp) (cs : List Char) : List Char :=
  paddedDigits 4 s.year ++ '-' :: (paddedDigits 2 s.month ++ '-' :: (paddedDigits 2 s.day ++ 'T' ::
    (paddedDigits 2 s.hour ++ ':' :: (paddedDigits 2 s.minute ++ ':' ::
      (paddedDigits 2 s.second ++ cs)))))

def chars (s : Stamp) : List Char :=
  paddedDigits 4 s.year ++ '-' :: (paddedDigits 2 s.month ++ '-' :: (paddedDigits 2 s.day ++ 'T' ::
    (paddedDigits 2 s.hour ++ ':' :: (paddedDigits 2 s.minute ++ ':' ::
      (paddedDigits 2 s.second ++ '.' :: (paddedDigits 6 s.micros ++ ['Z']))))))

end Stamp

namespace Instant

/-- A point in time that the store can keep: its year has four digits, and it lies in no leap
second. -/
structure Storable (t : Instant) : Prop where
  yearLow : 0 ≤ t.date.year
  yearHigh : t.date.year ≤ 9999
  nanos : t.nanos < nanosPerSecond

def stamp (t : Instant) : Stamp :=
  { year := t.date.year.toNat
    month := t.date.month
    day := t.date.day
    hour := t.secondOfDay / 3600
    minute := t.secondOfDay / 60 % 60
    second := t.secondOfDay % 60
    micros := t.nanos / 1000 }

theorem secondOfDay_lt (t : Instant) : t.secondOfDay < 86400 := by
  rw [secondOfDay]
  omega

/-- However its fraction is written, a point in time is written as its fields say. -/
theorem Storable.chars_eq {t : Instant} (h : t.Storable) (f : Fraction) :
    t.chars f = t.stamp.charsBefore (f.chars t.nanos ++ ['Z']) := by
  simp [Instant.chars, h.nanos, Date.chars, yearChars, h.yearLow, h.yearHigh, clockChars,
    Stamp.charsBefore, stamp]

end Instant

/-- A fraction of up to nine digits is read in nanoseconds. -/
theorem readFraction_paddedDigits (width : Nat) {n : Nat} (hwidth : 0 < width) (hmost : width ≤ 9)
    (h : n < Nat.pow 10 width) :
    readFraction ('.' :: (paddedDigits width n ++ ['Z'])) =
      .ok (n * Nat.pow 10 (9 - width), ['Z']) := by
  have hlength := length_paddedDigits width hwidth h
  have hread : readDigits 1 9 (paddedDigits width n ++ ['Z']) =
      .ok (paddedDigits width n, ['Z']) := by
    refine readDigits_append (fun _ => isDigit_of_mem_paddedDigits) ?_ ?_ ?_
    · exact hlength.symm ▸ hwidth
    · exact hlength.symm ▸ hmost
    · intro c hc
      have hmem : c ∈ ['Z'] := List.mem_of_mem_take (List.mem_of_mem_head? hc)
      rw [List.mem_singleton.1 hmem]
      rfl
  rw [readFraction, hread]
  show Except.ok (numberOfDigits (paddedDigits width n) *
    Nat.pow 10 (9 - (paddedDigits width n).length), ['Z'].dropWhile Char.isDigit) = _
  rw [hlength, numberOfDigits_paddedDigits]
  rfl

theorem length_le_byteLength (cs : List Char) : cs.length ≤ Text.byteLength cs := by
  induction cs with
  | nil => exact Nat.le_refl _
  | cons c cs ih =>
    have := c.utf8Size_pos
    rw [Text.byteLength, List.length_cons]
    omega

namespace Stamp

theorem Fits.length {s : Stamp} (h : s.Fits) : s.chars.length = 27 := by
  have hyear := length_paddedDigits 4 (by decide) h.year
  have hmonth := length_paddedDigits 2 (by decide) h.month
  have hday := length_paddedDigits 2 (by decide) h.day
  have hhour := length_paddedDigits 2 (by decide) h.hour
  have hminute := length_paddedDigits 2 (by decide) h.minute
  have hsecond := length_paddedDigits 2 (by decide) h.second
  have hmicros := length_paddedDigits 6 (by decide) h.micros
  simp only [chars, List.length_append, List.length_cons, List.length_nil, hyear, hmonth, hday,
    hhour, hminute, hsecond, hmicros]

def date (s : Stamp) : Date := ⟨s.year, s.month, s.day⟩

/-- The fields that are read are those that were written. -/
theorem Fits.ofStored {s : Stamp} {t : Instant} (h : s.Fits) (hdate : s.date.Valid)
    (ht : instantAt s.date s.hour s.minute s.second (s.micros * 1000) 0 = .ok t) :
    Instant.ofStored s.chars = .ok t := by
  have hlength : ¬ Text.byteLength s.chars < 19 := by
    have := length_le_byteLength s.chars
    rw [h.length] at this
    omega
  have hyear := readNumber_paddedDigits 4 (by decide) h.year
  have hmonth := readNumber_paddedDigits 2 (by decide) h.month
  have hday := readNumber_paddedDigits 2 (by decide) h.day
  have hhour := readNumber_paddedDigits 2 (by decide) h.hour
  have hminute := readNumber_paddedDigits 2 (by decide) h.minute
  have hsecond := readNumber_paddedDigits 2 (by decide) h.second
  have hmicros : readFraction ('.' :: (paddedDigits 6 s.micros ++ ['Z'])) =
      .ok (s.micros * 1000, ['Z']) :=
    readFraction_paddedDigits 6 (by decide) (by decide) h.micros
  rw [Instant.ofStored, if_neg hlength, chars]
  have hchar : ∀ c cs, readChar [c] (c :: cs) = .ok cs := fun c cs => by simp [readChar]
  have htime : ∀ cs, readChar ['T', 't', ' '] ('T' :: cs) = .ok cs := fun cs => rfl
  have hzone : readOffset (readChar [':']) ['Z'] = .ok (0, []) := rfl
  rw [date] at hdate ht
  simp only [hyear, hmonth, hday, hhour, hminute, hsecond, hmicros, ok_bind, hchar, htime, hzone,
    ht, hdate, not_true, ne_eq, if_false]

end Stamp

namespace Instant

theorem truncate_truncate (t : Instant) : t.truncate.truncate = t.truncate := by
  simp [truncate]

/-- Date and time of the day tell the second. -/
theorem instantAt_clock (t : Instant) (nanos : Nat) :
    instantAt t.date (t.secondOfDay / 3600) (t.secondOfDay / 60 % 60) (t.secondOfDay % 60) nanos 0 =
      .ok ⟨t.seconds, nanos⟩ := by
  have hday : t.date.dayNumber = t.seconds / 86400 := dayNumber_ofDayNumber _
  have hsecond := t.secondOfDay_lt
  have hseconds : t.seconds = 86400 * (t.seconds / 86400) + t.secondOfDay := by
    rw [secondOfDay]
    omega
  have hrange : ¬ (23 < t.secondOfDay / 3600 ∨ 59 < t.secondOfDay / 60 % 60 ∨
      60 < t.secondOfDay % 60 ∨ 86400 ≤ (0 : Int).natAbs) := by
    omega
  have hleap : ¬ t.secondOfDay % 60 = 60 := by
    omega
  rw [instantAt, if_neg hrange, if_neg hleap, hday]
  dsimp only
  congr 2
  omega

end Instant

end ChatRelay.Time
