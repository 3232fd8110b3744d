import ChatRelay.Time.Instant

/-!
# The order of points in time

Points in time are ordered by their seconds and then by their nanoseconds, which
is the order of `Instant.isBefore`.
-/

namespace ChatRelay.Time.Instant

instance : LE Instant where
  le s t := s.seconds < t.seconds ∨ s.seconds = t.seconds ∧ s.nanos ≤ t.nanos

theorem le_def {s t : Instant} :
    s ≤ t ↔ s.seconds < t.seconds ∨ s.seconds = t.seconds ∧ s.nanos ≤ t.nanos := Iff.rfl

theorem le_iff_not_isBefore {s t : Instant} : s ≤ t ↔ t.isBefore s = false := by
  simp [le_def, isBefore]
  omega

theorem isBefore_iff {s t : Instant} : s.isBefore t = true ↔ ¬ t ≤ s := by
  rw [le_iff_not_isBefore, Bool.not_eq_false]

theorem isBefore_trans {s t u : Instant} (h : s.isBefore t = true) (h' : t.isBefore u = true) :
    s.isBefore u = true := by
  rw [isBefore_iff, le_def] at *
  omega

theorem le_refl (t : Instant) : t ≤ t := .inr ⟨rfl, Nat.le_refl _⟩

theorem le_trans {s t u : Instant} (h : s ≤ t) (h' : t ≤ u) : s ≤ u := by
  rw [le_def] at *
  omega

theorem le_total (s t : Instant) : s ≤ t ∨ t ≤ s := by
  rw [le_def, le_def]
  omega

theorem le_antisymm {s t : Instant} (h : s ≤ t) (h' : t ≤ s) : s = t := by
  obtain ⟨seconds, nanos⟩ := s
  obtain ⟨seconds', nanos'⟩ := t
  simp only [le_def] at h h'
  rw [mk.injEq]
  omega

/-- Cutting to the microsecond keeps the order. -/
theorem truncate_le_truncate {s t : Instant} (h : s ≤ t) : s.truncate ≤ t.truncate := by
  rw [le_def] at h ⊢
  rcases h with h | ⟨hs, hn⟩
  · exact .inl h
  · exact .inr ⟨hs, Nat.mul_le_mul_right _ (Nat.div_le_div_right hn)⟩

theorem truncate_le (t : Instant) : t.truncate ≤ t := .inr ⟨rfl, Nat.div_mul_le_self _ _⟩

end ChatRelay.Time.Instant
