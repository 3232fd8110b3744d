import ChatRelay.Text.WhiteSpace

/-!
# Trimming a text

* `trimEnd_append`: the end of a text decides how much is cut off;
* `prefix_trimEnd_append`: a text that does not end in a blank is never cut into;
* `exists_blank_append`: what is cut off is blank.
-/

namespace ChatRelay.Text

theorem trimEnd_isPrefix (cs : List Char) : trimEnd cs <+: cs := by
  induction cs with
  | nil => exact List.prefix_refl _
  | cons c cs ih =>
    simp only [trimEnd]
    split
    · split
      · exact List.nil_prefix
      · exact List.cons_prefix_cons.2 ⟨rfl, List.nil_prefix⟩
    · rename_i h
      exact List.cons_prefix_cons.2 ⟨rfl, h ▸ ih⟩

theorem trimEnd_append (cs ds : List Char) :
    trimEnd (cs ++ ds) = if trimEnd ds = [] then trimEnd cs else cs ++ trimEnd ds := by
  split
  · rename_i h
    exact trimEnd_append_of_blank cs ((trimEnd_eq_nil_iff ds).1 h)
  · rename_i h
    induction cs with
    | nil => rfl
    | cons c cs ih =>
      obtain ⟨d, ds', hd⟩ := List.exists_cons_of_ne_nil h
      simp only [List.cons_append, trimEnd, ih, hd]
      cases cs <;> rfl

theorem trimEnd_trimEnd (cs : List Char) : trimEnd (trimEnd cs) = trimEnd cs := by
  induction cs with
  | nil => rfl
  | cons c cs ih =>
    simp only [trimEnd]
    cases h : trimEnd cs with
    | nil =>
      by_cases hc : isWhiteSpace c = true <;> simp [trimEnd, hc]
    | cons d ds =>
      rw [h] at ih
      rw [trimEnd, ih]

/-- What does not end in a blank stays whole when text that follows it is trimmed. -/
theorem prefix_trimEnd_append {cs : List Char} (h : trimEnd cs = cs) (ds : List Char) :
    cs <+: trimEnd (cs ++ ds) := by
  rw [trimEnd_append]
  split
  · exact h.symm ▸ List.prefix_refl cs
  · exact List.prefix_append _ _

/-- More text at the end never makes more of the text be cut off. -/
theorem trimEnd_isPrefix_trimEnd_append (cs ds : List Char) :
    trimEnd cs <+: trimEnd (cs ++ ds) := by
  rw [trimEnd_append]
  split
  · exact List.prefix_refl _
  · exact (trimEnd_isPrefix cs).trans (List.prefix_append _ _)

/-- What is cut off is blank. -/
theorem exists_blank_append (cs : List Char) :
    ∃ ws, trimEnd cs ++ ws = cs ∧ ws.all isWhiteSpace = true := by
  induction cs with
  | nil => exact ⟨[], rfl, rfl⟩
  | cons c cs ih =>
    cases h : trimEnd (c :: cs) with
    | nil => exact ⟨c :: cs, rfl, (trimEnd_eq_nil_iff _).1 h⟩
    | cons d ds =>
      obtain ⟨ws, hws, hall⟩ := ih
      refine ⟨ws, ?_, hall⟩
      rw [trimEnd] at h
      split at h
      · rename_i hnil
        split at h
        · cases h
        · rw [← h, ← hws, hnil]
          rfl
      · rename_i hcons
        rw [← h, List.cons_append, ← hcons, hws]

/-- What is left of a text does not begin with a blank. -/
theorem trimStart_trim (cs : List Char) : trimStart (trim cs) = trim cs := by
  obtain ⟨rest, hrest⟩ := trimEnd_isPrefix (cs.dropWhile isWhiteSpace)
  cases h : trim cs with
  | nil => rfl
  | cons c ds =>
    rw [← trim_eq, h, List.cons_append] at hrest
    have hblank : isWhiteSpace c = false := by
      have hnot := List.head?_dropWhile_not isWhiteSpace cs
      rw [← hrest] at hnot
      simpa using hnot
    rw [trimStart, List.dropWhile_cons_of_neg (by simp [hblank])]

theorem trim_trim (cs : List Char) : trim (trim cs) = trim cs := by
  rw [trim, trimStart_trim, trim, trimEnd_trimEnd]

theorem trim_isInfix (cs : List Char) : trim cs <:+: cs :=
  (trimEnd_isPrefix _).isInfix.trans (List.dropWhile_suffix _).isInfix

end ChatRelay.Text
