import ChatRelay.Proofs.Text.Search
import ChatRelay.Proofs.Text.WhiteSpace
import ChatRelay.Title.Scanner

/-!
# Markers and title lines

What can be known of a marker while an answer is still coming in:

* `Forwardable`: so many characters will be seen whatever follows them, and
  `forwardable_safeEnd` says that `safeEnd` finds such a number;
* `titleLine_eq_iff`: the title line ends at the first line feed or marker, and
  `titleLine_append`: once it is closed it stays as it is.
-/

namespace ChatRelay.Title

open Text (FirstAt trim trimEnd)

theorem markerChars_ne_nil : markerChars ≠ [] := by decide

/-- Only the front of a marker can stand in front of a line feed or of another marker. -/
theorem markerChars_tail : ∀ c ∈ markerChars.tail, c ≠ '\n' ∧ c ≠ 'C' := by
  have hall : (markerChars.tail.all fun c => c != '\n' && c != 'C') = true := by decide
  intro c hc
  simpa using List.all_eq_true.1 hall c hc

theorem mem_of_markerChars_isPrefix {cs : List Char} (h : markerChars <+: cs) : 'C' ∈ cs :=
  h.subset (by decide)

/-! ## Text that is held back -/

theorem le_find?_reverse_range {p : Nat → Bool} {bound n : Nat} (hn : n < bound) (hp : p n = true) :
    n ≤ ((List.range bound).reverse.find? p).getD 0 := by
  induction bound with
  | zero => omega
  | succ bound ih =>
    rw [List.range_succ, List.reverse_append, List.reverse_singleton, List.singleton_append,
      List.find?_cons]
    cases hb : p bound with
    | true => exact Nat.le_of_lt_succ hn
    | false =>
      have : n ≠ bound := fun h => by simp [h, hb] at hp
      exact ih (by omega)

theorem le_heldMarker {raw : List Char} {n : Nat} (hn : n < markerChars.length)
    (h : markerChars.take n <:+ raw) : n ≤ heldMarker raw :=
  le_find?_reverse_range hn (List.isSuffixOf_iff_suffix.2 h)

/-- The first `n` characters of `raw` will be seen whatever follows: no marker begins among them,
and they do not end in a blank. -/
structure Forwardable (raw : List Char) (n : Nat) : Prop where
  le_length : n ≤ raw.length
  le_marker : ∀ ext k, markerChars <+: (raw ++ ext).drop k → n ≤ k
  trimmed : trimEnd (raw.take n) = raw.take n

theorem forwardable_zero (raw : List Char) : Forwardable raw 0 :=
  ⟨Nat.zero_le _, fun _ _ _ => Nat.zero_le _, by simp [trimEnd]⟩

namespace Forwardable

variable {raw : List Char} {m n : Nat}

theorem append (h : Forwardable raw n) (ext : List Char) : Forwardable (raw ++ ext) n := by
  refine ⟨?_, fun ext' k hk => h.le_marker (ext ++ ext') k ?_, ?_⟩
  · rw [List.length_append]
    exact Nat.le_add_right_of_le h.le_length
  · rwa [← List.append_assoc]
  · rw [List.take_append_of_le_length h.le_length]
    exact h.trimmed

theorem max (hm : Forwardable raw m) (hn : Forwardable raw n) : Forwardable raw (max m n) := by
  rcases Nat.le_total m n with h | h
  · rwa [Nat.max_eq_right h]
  · rwa [Nat.max_eq_left h]

/-- It stands in front of the marker, when one follows, and is not cut off there. -/
theorem prefix_trimEnd {ext before after : List Char} (h : Forwardable raw n)
    (hf : FirstAt markerChars (raw ++ ext) before after) : raw.take n <+: trimEnd before := by
  have hn : n ≤ before.length :=
    h.le_marker ext before.length (by rw [hf.parts]; simp [List.append_assoc])
  have htake : raw.take n = before.take n := by
    have := congrArg (List.take n) hf.parts
    rwa [List.take_append_of_le_length h.le_length, List.append_assoc,
      List.take_append_of_le_length hn] at this
  have ht := h.trimmed
  rw [htake] at ht ⊢
  simpa using Text.prefix_trimEnd_append ht (before.drop n)

end Forwardable

/-- A marker that is not complete begins at the earliest where text is held back. -/
theorem le_of_marker_isPrefix {raw ext : List Char} {k : Nat} (hfree : ¬ markerChars <:+: raw)
    (hk : markerChars <+: (raw ++ ext).drop k) : raw.length - heldMarker raw ≤ k := by
  rcases Nat.lt_or_ge k raw.length with hlt | hge
  · rw [List.drop_append_of_le_length (by omega)] at hk
    -- as no marker is complete, what is left of `raw` is a proper beginning of one
    have hnot : ¬ markerChars <+: raw.drop k := fun h => hfree (Text.infix_of_prefix_drop h)
    have hshort : (raw.drop k).length < markerChars.length := by
      apply Nat.lt_of_not_le
      exact fun hle => hnot (List.prefix_of_prefix_length_le hk (List.prefix_append _ _) hle)
    have hbegin : raw.drop k <+: markerChars :=
      List.prefix_of_prefix_length_le (List.prefix_append _ _) hk (by omega)
    have hheld : raw.length - k ≤ heldMarker raw := by
      refine le_heldMarker (by simpa using hshort) ?_
      rw [← List.length_drop, ← List.prefix_iff_eq_take.1 hbegin]
      exact List.drop_suffix k raw
    omega
  · omega

theorem trimEnd_take_isPrefix (raw : List Char) (n : Nat) : trimEnd (raw.take n) <+: raw :=
  (Text.trimEnd_isPrefix _).trans (List.take_prefix n raw)

/-- As long as there is no marker, everything in front of the text that may begin one, and of the
blanks before that, can be forwarded. -/
theorem forwardable_safeEnd {raw : List Char} (hfree : ¬ markerChars <:+: raw) :
    Forwardable raw (safeEnd raw) := by
  have hpre := trimEnd_take_isPrefix raw (raw.length - heldMarker raw)
  refine ⟨hpre.length_le, fun ext k hk => ?_, ?_⟩
  · have := le_of_marker_isPrefix hfree hk
    have := (Text.trimEnd_isPrefix (raw.take (raw.length - heldMarker raw))).length_le
    rw [List.length_take] at this
    exact Nat.le_trans this (by omega)
  · rw [safeEnd, ← List.prefix_iff_eq_take.1 hpre, Text.trimEnd_trimEnd]

/-! ## The title line -/

/-- A line feed or a marker stands in front. -/
def EndsLine (cs : List Char) : Prop := ['\n'] <+: cs ∨ markerChars <+: cs

/-- `line` is what stands in front of the first line feed or marker, or everything when there is
neither. -/
structure IsTitleLine (after line : List Char) : Prop where
  begins : line <+: after
  unbroken : ∀ n < line.length, ¬ EndsLine (after.drop n)
  ends : after.drop line.length = [] ∨ EndsLine (after.drop line.length)

theorem endsLine_cons_iff {c : Char} {cs : List Char} :
    EndsLine (c :: cs) ↔ c = '\n' ∨ (Text.stripStart? markerChars (c :: cs)).isSome := by
  rw [EndsLine, Text.stripStart?_isSome_iff, List.cons_prefix_cons]
  simp [eq_comm]

theorem titleLine_nil : titleLine [] = ([], false) := rfl

theorem titleLine_cons_of_endsLine {c : Char} {cs : List Char} (h : EndsLine (c :: cs)) :
    titleLine (c :: cs) = ([], true) := by
  rw [titleLine, if_pos (endsLine_cons_iff.1 h)]

theorem titleLine_cons_of_not_endsLine {c : Char} {cs : List Char} (h : ¬ EndsLine (c :: cs)) :
    titleLine (c :: cs) = (c :: (titleLine cs).1, (titleLine cs).2) := by
  rw [titleLine, if_neg (fun hc => h (endsLine_cons_iff.2 hc))]

theorem titleLine_isTitleLine (after : List Char) : IsTitleLine after (titleLine after).1 := by
  induction after with
  | nil => exact ⟨List.prefix_refl _, by simp [titleLine_nil], .inl rfl⟩
  | cons c cs ih =>
    by_cases h : EndsLine (c :: cs)
    · rw [titleLine_cons_of_endsLine h]
      exact ⟨List.nil_prefix, by simp, .inr h⟩
    · rw [titleLine_cons_of_not_endsLine h]
      refine ⟨List.cons_prefix_cons.2 ⟨rfl, ih.begins⟩, fun n hn => ?_, ih.ends⟩
      cases n with
      | zero => exact h
      | succ n => exact ih.unbroken n (by simpa using hn)

theorem IsTitleLine.length_le {after line line' : List Char} (h : IsTitleLine after line)
    (h' : IsTitleLine after line') : line'.length ≤ line.length := by
  apply Nat.le_of_not_lt
  intro hlt
  rcases h.ends with hnil | hends
  · have := List.drop_eq_nil_iff.1 hnil
    have := h'.begins.length_le
    omega
  · exact h'.unbroken _ hlt hends

/-- There is one title line. -/
theorem titleLine_eq_iff {after line : List Char} :
    (titleLine after).1 = line ↔ IsTitleLine after line := by
  refine ⟨fun h => h ▸ titleLine_isTitleLine after, fun h => ?_⟩
  have hl := titleLine_isTitleLine after
  have hlen : (titleLine after).1.length = line.length :=
    Nat.le_antisymm (h.length_le hl) (hl.length_le h)
  exact (List.prefix_of_prefix_length_le hl.begins h.begins (Nat.le_of_eq hlen)).eq_of_length hlen

/-- What closes a title line is no part of the inside of a marker. -/
theorem mem_of_titleLine_closed {after : List Char} (h : (titleLine after).2 = true) :
    '\n' ∈ after ∨ 'C' ∈ after := by
  induction after with
  | nil => simp [titleLine_nil] at h
  | cons c cs ih =>
    by_cases he : EndsLine (c :: cs)
    · exact he.imp (fun h => h.subset (by simp)) mem_of_markerChars_isPrefix
    · rw [titleLine_cons_of_not_endsLine he] at h
      exact (ih h).imp (List.mem_cons_of_mem _) (List.mem_cons_of_mem _)

/-- Once it is closed, the title line stays as it is. -/
theorem titleLine_append {after : List Char} (h : (titleLine after).2 = true) (ext : List Char) :
    titleLine (after ++ ext) = titleLine after := by
  induction after with
  | nil => simp [titleLine_nil] at h
  | cons c cs ih =>
    by_cases he : EndsLine (c :: cs)
    · have he' : EndsLine (c :: (cs ++ ext)) := by
        rw [← List.cons_append]
        exact he.imp (·.trans (List.prefix_append _ _)) (·.trans (List.prefix_append _ _))
      rw [List.cons_append, titleLine_cons_of_endsLine he', titleLine_cons_of_endsLine he]
    · rw [titleLine_cons_of_not_endsLine he] at h
      have he' : ¬ EndsLine (c :: (cs ++ ext)) := by
        rintro (hn | hm)
        · exact he (.inl (by simpa using hn))
        · -- the marker would reach over what closes the line
          have hlong : ¬ markerChars <+: c :: cs := fun hp => he (.inr hp)
          have hpre : c :: cs <+: markerChars := by
            rw [← List.cons_append] at hm
            rcases Nat.le_total markerChars.length (c :: cs).length with hle | hle
            · exact absurd (List.prefix_of_prefix_length_le hm (List.prefix_append _ _) hle) hlong
            · exact List.prefix_of_prefix_length_le (List.prefix_append _ _) hm hle
          have htail : ∀ d ∈ cs, d ∈ markerChars.tail := by
            obtain ⟨rest, hrest⟩ := hpre
            intro d hd
            rw [← hrest, List.cons_append, List.tail_cons]
            exact List.mem_append_left _ hd
          rcases mem_of_titleLine_closed h with hd | hd
          · exact (markerChars_tail _ (htail _ hd)).1 rfl
          · exact (markerChars_tail _ (htail _ hd)).2 rfl
      rw [List.cons_append, titleLine_cons_of_not_endsLine he', titleLine_cons_of_not_endsLine he,
        ih h]

end ChatRelay.Title
