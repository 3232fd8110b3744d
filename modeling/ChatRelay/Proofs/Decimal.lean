import ChatRelay.Decimal.Shortest

/-!
# Decimal digits

The digits of a number tell the number (`foldl_toDigits`). `paddedDigits` writes
a number that is not too large with as many digits as are wanted
(`length_paddedDigits`).
-/

namespace ChatRelay

/-- The digits of a number stand for it. -/
theorem foldl_toDigits (n : Nat) :
    (Nat.toDigits 10 n).foldl (fun n c => n * 10 + (c.toNat - 48)) 0 = n := by
  have h := Nat.ofDigitChars_ten_toDigits (n := n)
  rw [Nat.ofDigitChars_eq_foldl] at h
  simpa [Nat.mul_comm] using h

/-- The last digit of a padded number. -/
theorem paddedDigits_succ {width : Nat} (hwidth : 0 < width) (n : Nat) :
    paddedDigits (width + 1) n = paddedDigits width (n / 10) ++ [Nat.digitChar (n % 10)] := by
  rcases Nat.lt_or_ge n 10 with h | h
  · obtain ⟨width, rfl⟩ := Nat.exists_eq_add_of_le' hwidth
    simp [paddedDigits, Nat.toDigits_of_lt_base h, Nat.div_eq_of_lt h, Nat.mod_eq_of_lt h,
      Nat.toDigits_zero, List.replicate_succ']
  · simp [paddedDigits, Nat.toDigits_of_base_le (by decide) h]

theorem paddedDigits_one {n : Nat} (h : n < 10) : paddedDigits 1 n = [Nat.digitChar n] := by
  simp [paddedDigits, Nat.toDigits_of_lt_base h]

theorem length_paddedDigits (width : Nat) {n : Nat} (hwidth : 0 < width)
    (h : n < Nat.pow 10 width) : (paddedDigits width n).length = width := by
  have : (Nat.toDigits 10 n).length ≤ width := (Nat.length_toDigits_le_iff (by decide) hwidth).2 h
  simp [paddedDigits]
  omega

theorem isDigit_of_mem_paddedDigits {width n : Nat} {c : Char} (h : c ∈ paddedDigits width n) :
    c.isDigit = true := by
  rcases List.mem_append.1 h with h | h
  · rw [List.eq_of_mem_replicate h]
    decide
  · exact Nat.isDigit_of_mem_toDigits (by decide) (by decide) h

/-- A padded number begins with a digit. -/
theorem exists_cons_paddedDigits (width n : Nat) :
    ∃ d ds, paddedDigits width n = d :: ds ∧ d.isDigit = true := by
  have hne : paddedDigits width n ≠ [] :=
    List.append_ne_nil_of_right_ne_nil _ Nat.toDigits_ne_nil
  obtain ⟨d, ds, hds⟩ := List.exists_cons_of_ne_nil hne
  exact ⟨d, ds, hds, isDigit_of_mem_paddedDigits (hds ▸ List.mem_cons_self)⟩

end ChatRelay
