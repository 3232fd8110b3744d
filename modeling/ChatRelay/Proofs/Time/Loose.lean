import ChatRelay.Proofs.Time.LeapSecond

/-!
# Written points in time are read back

`Instant.text` writes as many digits of the fraction as it takes, and
`Instant.ofLoose?` reads the same point in time (`Storable.ofLoose?_text`).
-/

namespace ChatRelay

theorem isWhiteSpace_of_isDigit {c : Char} (h : c.isDigit = true) :
    Text.isWhiteSpace c = false := by
  simp only [Char.isDigit, Bool.and_eq_true, decide_eq_true_eq, ge_iff_le,
    UInt32.le_iff_toNat_le] at h
  have hlow : 48 ≤ c.toNat := h.1
  have hhigh : c.toNat ≤ 57 := h.2
  simp [Text.isWhiteSpace]
  omega

theorem trimStart_paddedDigits (width n : Nat) (cs : List Char) :
    Text.trimStart (paddedDigits width n ++ cs) = paddedDigits width n ++ cs := by
  obtain ⟨d, ds, hds, hdigit⟩ := exists_cons_paddedDigits width n
  rw [hds, List.cons_append, Text.trimStart,
    List.dropWhile_cons_of_neg (by simp [isWhiteSpace_of_isDigit hdigit])]

namespace Time

/-! ## Parts -/

theorem readLooseNumber_paddedDigits {n : Nat} (h : n < 100) (cs : List Char) :
    readLooseNumber (paddedDigits 2 n ++ cs) = .ok (n, cs) := by
  rw [readLooseNumber, trimStart_paddedDigits]
  exact readNumber_paddedDigits_of_le 2 (by decide) (by decide) h cs

/-- A year without a sign. -/
theorem readLooseYear_paddedDigits {n : Nat} (h : n < 10000) (cs : List Char) :
    readLooseYear (paddedDigits 4 n ++ cs) = .ok (n, cs) := by
  obtain ⟨d, ds, hds, hdigit⟩ := exists_cons_paddedDigits 4 n
  have hread : readNumber 1 4 (paddedDigits 4 n ++ cs) = .ok (n, cs) :=
    readNumber_paddedDigits_of_le 4 (by decide) (by decide) h cs
  rw [readLooseYear, trimStart_paddedDigits]
  split
  · rename_i heq
    rw [hds] at heq
    cases heq
    cases hdigit
  · rename_i heq
    rw [hds] at heq
    cases heq
    cases hdigit
  · rw [hread]
    rfl

/-- A fraction is read back when it is written with enough digits. -/
theorem readFraction_of_exact (width : Nat) {nanos : Nat} (hwidth : 0 < width) (hmost : width ≤ 9)
    (h : nanos < nanosPerSecond) (hexact : nanos % Nat.pow 10 (9 - width) = 0) :
    readFraction ('.' :: (paddedDigits width (nanos / Nat.pow 10 (9 - width)) ++ ['Z'])) =
      .ok (nanos, ['Z']) := by
  have hscale : Nat.pow 10 (9 - width) * Nat.pow 10 width = nanosPerSecond := by
    calc 10 ^ (9 - width) * 10 ^ width
      _ = 10 ^ (9 - width + width) := (Nat.pow_add 10 (9 - width) width).symm
      _ = 10 ^ 9 := by rw [Nat.sub_add_cancel hmost]
  have hdigits : nanos / Nat.pow 10 (9 - width) < Nat.pow 10 width :=
    Nat.div_lt_of_lt_mul (hscale ▸ h)
  rw [readFraction_paddedDigits width hwidth hmost hdigits,
    Nat.div_mul_cancel (Nat.dvd_of_mod_eq_zero hexact)]

/-- As many digits are written as it takes to tell the fraction. -/
theorem readFraction_exact {nanos : Nat} (h : nanos < nanosPerSecond) :
    readFraction (Fraction.exact.chars nanos ++ ['Z']) = .ok (nanos, ['Z']) := by
  have hread := fun width hwidth hmost => readFraction_of_exact width hwidth hmost h
  rw [Fraction.chars]
  split
  · rename_i hzero
    rw [hzero]
    rfl
  split
  · rename_i hmillis
    exact hread 3 (by decide) (by decide) hmillis
  split
  · rename_i hmicros
    exact hread 6 (by decide) (by decide) hmicros
  · have hnanos := hread 9 (by decide) (by decide) (Nat.mod_one nanos)
    rwa [show nanos / Nat.pow 10 (9 - 9) = nanos from Nat.div_one nanos] at hnanos

/-! ## Whole points in time -/

namespace Stamp

/-- The fields that are read are those that were written. -/
theorem Fits.ofLoose {s : Stamp} {t : Instant} {nanos : Nat} (h : s.Fits) (hdate : s.date.Valid)
    (hnanos : nanos < nanosPerSecond)
    (ht : instantAt s.date s.hour s.minute s.second nanos 0 = .ok t)
    (hyear : isKnownYear t.date.year = true) :
    Instant.ofLoose (s.charsBefore (Fraction.exact.chars nanos ++ ['Z'])) = .ok t := by
  have hknown : isKnownYear s.year = true := by
    have := h.year
    simp only [isKnownYear, Bool.and_eq_true, decide_eq_true_eq]
    omega
  have hhyphen : ∀ cs, readLooseChar ['-'] ('-' :: cs) = .ok cs := fun _ => rfl
  have hcolon : ∀ cs, readLooseChar [':'] (':' :: cs) = .ok cs := fun _ => rfl
  have htime : ∀ cs, readChar ['T', 't', ' '] ('T' :: cs) = .ok cs := fun _ => rfl
  have hzone : readLooseZone (Text.trimStart ['Z']) = .ok (0, []) := rfl
  have hend : Text.trimStart [] = [] := rfl
  rw [date] at hdate ht
  rw [Instant.ofLoose, charsBefore]
  simp only [readLooseYear_paddedDigits h.year, readLooseNumber_paddedDigits h.month,
    readLooseNumber_paddedDigits h.day, readLooseNumber_paddedDigits h.hour,
    readLooseNumber_paddedDigits h.minute, readLooseNumber_paddedDigits h.second,
    readFraction_exact hnanos, ok_bind, hhyphen, hcolon, htime, hzone, hend, hdate, hknown, ht,
    hyear, not_true, ne_eq, Bool.not_true, Bool.false_eq_true, or_self, if_true, if_false]

end Stamp

namespace Instant

/-- What is read is the point in time that was written. -/
theorem Storable.ofLoose?_text {t : Instant} (h : t.Storable) : ofLoose? t.text = some t := by
  have hread : ofLoose (t.chars .exact) = .ok t := by
    rw [h.chars_eq]
    refine h.fits.ofLoose (h.date_eq ▸ ofDayNumber_valid _) h.nanos ?_ ?_
    · rw [h.date_eq]
      exact t.instantAt_clock _
    · have hlow := h.yearLow
      have hhigh := h.yearHigh
      simp only [isKnownYear, Bool.and_eq_true, decide_eq_true_eq]
      omega
  rw [ofLoose?, text, String.toList_ofList, hread]
  rfl

end Instant

end Time

end ChatRelay
