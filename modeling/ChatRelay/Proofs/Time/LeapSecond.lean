import ChatRelay.Proofs.Time.Stored

/-!
# Points in time that can be written

Every point in time in the years 0 to 9999 can be written in a fixed width
(`Instant.Writable`), one in a leap second too: it is written with the second 60,
and read back with the nanoseconds that are more than one second
(`Writable.ofStored`).
-/

namespace ChatRelay.Time.Instant

/-- A point in time whose year has four digits. If it lies in a leap second, then behind the last
second of a minute. -/
structure Writable (t : Instant) : Prop where
  yearLow : 0 ≤ t.date.year
  yearHigh : t.date.year ≤ 9999
  nanos : t.nanos < nanosPerSecond ∨ t.seconds % 60 = 59 ∧ t.nanos < 2 * nanosPerSecond

/-- How many leap seconds lie between the start of the second and a point in time. -/
def leap (t : Instant) : Nat :=
  if t.nanos < nanosPerSecond then 0 else 1

/-- The fields that are written, where a leap second is the second 60. -/
def written (t : Instant) : Stamp :=
  { t.stamp with
    second := t.secondOfDay % 60 + t.leap
    micros := (t.nanos - t.leap * nanosPerSecond) / 1000 }

theorem Storable.writable {t : Instant} (h : t.Storable) : t.Writable :=
  ⟨h.yearLow, h.yearHigh, .inl h.nanos⟩

/-- Outside of a leap second the nanoseconds stay below a second, and in one below two. -/
theorem Writable.leap_cases {t : Instant} (h : t.Writable) :
    t.leap = 0 ∧ t.nanos < nanosPerSecond ∨
      t.leap = 1 ∧ t.secondOfDay % 60 = 59 ∧ nanosPerSecond ≤ t.nanos ∧
        t.nanos < 2 * nanosPerSecond := by
  rw [leap]
  split
  · exact .inl ⟨rfl, ‹_›⟩
  · rename_i hleap
    obtain hnanos | ⟨hlast, hnanos⟩ := h.nanos
    · exact absurd hnanos hleap
    · refine .inr ⟨rfl, ?_, Nat.le_of_not_lt hleap, hnanos⟩
      rw [secondOfDay]
      omega

theorem Writable.fits {t : Instant} (h : t.Writable) : t.written.Fits := by
  obtain ⟨-, hmonth, -, hday⟩ : t.date.Valid := ofDayNumber_valid _
  have hdays : daysInMonth t.date.year t.date.month ≤ 31 := by
    rw [daysInMonth]
    split
    · split <;> omega
    · split <;> omega
  have hsecond := t.secondOfDay_lt
  have hlow := h.yearLow
  have hhigh := h.yearHigh
  have hleap := h.leap_cases
  rw [nanosPerSecond] at hleap
  constructor <;> simp only [written, stamp, nanosPerSecond] <;> omega

theorem Writable.chars_micros {t : Instant} (h : t.Writable) :
    t.chars .micros = t.written.chars := by
  have hdate : t.date.chars = paddedDigits 4 t.date.year.toNat ++
      '-' :: paddedDigits 2 t.date.month ++ '-' :: paddedDigits 2 t.date.day := by
    rw [Date.chars, yearChars, if_pos ⟨h.yearLow, h.yearHigh⟩]
  have hchars : ∀ leap nanos : Nat,
      t.date.chars ++ 'T' :: t.clockChars ++ ':' :: paddedDigits 2 (t.secondOfDay % 60 + leap) ++
          Fraction.micros.chars nanos ++ ['Z'] =
        Stamp.chars
          { t.stamp with second := t.secondOfDay % 60 + leap, micros := nanos / 1000 } := by
    intro leap nanos
    rw [hdate]
    simp only [clockChars, Fraction.chars, Stamp.chars, stamp, List.append_assoc, List.cons_append]
  have hsplit : (if t.nanos < nanosPerSecond then (0, t.nanos) else (1, t.nanos - nanosPerSecond)) =
      (t.leap, t.nanos - t.leap * nanosPerSecond) := by
    rw [leap]
    split
    · rw [Nat.zero_mul, Nat.sub_zero]
    · rw [Nat.one_mul]
  rw [Instant.chars, hsplit]
  exact hchars _ _

theorem Writable.date_eq {t : Instant} (h : t.Writable) : t.written.date = t.date := by
  have hyear : (t.date.year.toNat : Int) = t.date.year := Int.toNat_of_nonneg h.yearLow
  rw [Stamp.date, written, stamp, hyear]

theorem Storable.written_eq {t : Instant} (h : t.Storable) : t.written = t.stamp := by
  rw [written, leap, if_pos h.nanos, Nat.add_zero, Nat.zero_mul, Nat.sub_zero]
  rfl

theorem Storable.fits {t : Instant} (h : t.Storable) : t.stamp.Fits :=
  h.written_eq ▸ h.writable.fits

theorem Storable.date_eq {t : Instant} (h : t.Storable) : t.stamp.date = t.date :=
  h.written_eq ▸ h.writable.date_eq

/-- The second 60 is the leap second behind the second 59. -/
theorem instantAt_leap {t : Instant} (hlast : t.secondOfDay % 60 = 59) (nanos : Nat) :
    instantAt t.date (t.secondOfDay / 3600) (t.secondOfDay / 60 % 60) 60 nanos 0 =
      .ok ⟨t.seconds, nanos + nanosPerSecond⟩ := by
  have hclock := t.instantAt_clock (nanos + nanosPerSecond)
  have hsecond := t.secondOfDay_lt
  have hhour : ¬ 23 < t.secondOfDay / 3600 := by omega
  have hminute : ¬ 59 < t.secondOfDay / 60 % 60 := by omega
  rw [hlast] at hclock
  simpa [instantAt, hhour, hminute] using hclock

/-- What is read is the point in time that was written, to the microsecond. -/
theorem Writable.ofStored {t : Instant} (h : t.Writable) :
    ofStored (t.chars .micros) = .ok t.truncate := by
  rw [h.chars_micros]
  refine h.fits.ofStored (h.date_eq ▸ ofDayNumber_valid _) ?_
  rw [h.date_eq]
  obtain ⟨hleap, -⟩ | ⟨hleap, hlast, hlow, -⟩ := h.leap_cases
  · simp only [written, hleap, Nat.add_zero, Nat.zero_mul, Nat.sub_zero]
    exact t.instantAt_clock _
  · simp only [written, hleap, hlast, Nat.one_mul]
    have hnanos : t.nanos / 1000 * 1000 =
        (t.nanos - nanosPerSecond) / 1000 * 1000 + nanosPerSecond := by
      rw [nanosPerSecond] at hlow ⊢
      omega
    rw [Instant.truncate, hnanos]
    exact instantAt_leap hlast _

theorem leap_truncate (t : Instant) : t.truncate.leap = t.leap := by
  have hsame : t.nanos / 1000 * 1000 < nanosPerSecond ↔ t.nanos < nanosPerSecond := by
    rw [nanosPerSecond]
    omega
  simp only [leap, truncate, hsame]

theorem Writable.truncate {t : Instant} (h : t.Writable) : t.truncate.Writable := by
  refine ⟨h.yearLow, h.yearHigh, ?_⟩
  have hnanos := h.nanos
  rw [nanosPerSecond] at hnanos ⊢
  simp only [Instant.truncate]
  omega

end ChatRelay.Time.Instant
