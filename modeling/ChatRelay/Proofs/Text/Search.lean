import ChatRelay.Text.Search

/-!
# Where a text occurs

What `stripStart?` and `splitAtFirst` find, in terms of the parts of a text:

* `splitAtFirst_eq_none_iff`: nothing is found in a text in which the pattern does not occur;
* `splitAtFirst_eq_some_iff`: otherwise the text is cut at the first place (`FirstAt`);
* `FirstAt.append`: more text at the end leaves the first place where it was.
-/

namespace ChatRelay.Text

/-- `pattern` stands in `text` between `before` and `after`, and at no earlier place. -/
structure FirstAt (pattern text before after : List Char) : Prop where
  parts : text = before ++ pattern ++ after
  first : ∀ n < before.length, ¬ pattern <+: text.drop n

theorem stripStart?_isSome_iff {p cs : List Char} : (stripStart? p cs).isSome ↔ p <+: cs := by
  rw [Option.isSome_iff_exists]
  exact exists_congr fun rest => stripStart?_eq_some.trans eq_comm

theorem stripStart?_eq_none_iff {p cs : List Char} : stripStart? p cs = none ↔ ¬ p <+: cs := by
  rw [← stripStart?_isSome_iff, Option.not_isSome_iff_eq_none]

/-- A text that occurs at some place of another is part of it. -/
theorem infix_of_prefix_drop {p cs : List Char} {n : Nat} (h : p <+: cs.drop n) : p <:+: cs :=
  h.isInfix.trans (List.drop_suffix n cs).isInfix

/-- A text that is part of another occurs at some place of it. -/
theorem exists_prefix_drop_of_infix {p cs : List Char} (h : p <:+: cs) : ∃ n, p <+: cs.drop n := by
  obtain ⟨before, after, rfl⟩ := h
  exact ⟨before.length, by simp [List.append_assoc]⟩

/-- A text that stands at some place still stands there when more text comes. -/
theorem prefix_drop_append {p cs : List Char} {n : Nat} (h : p <+: cs.drop n) (ext : List Char) :
    p <+: (cs ++ ext).drop n := by
  rw [List.drop_append]
  exact h.trans (List.prefix_append _ _)

theorem splitAtFirst_eq_none_iff {p cs : List Char} :
    splitAtFirst p cs = none ↔ ¬ p <:+: cs := by
  induction cs with
  | nil => simp [splitAtFirst, stripStart?_eq_none_iff]
  | cons c cs ih =>
    rw [List.infix_cons_iff, not_or, ← ih, ← stripStart?_eq_none_iff]
    simp only [splitAtFirst]
    cases stripStart? p (c :: cs) <;> simp

theorem occursIn_iff {p cs : List Char} : occursIn p cs = true ↔ p <:+: cs := by
  rw [occursIn, Option.isSome_iff_ne_none, ne_eq, splitAtFirst_eq_none_iff, Classical.not_not]

theorem FirstAt.of_split {p cs before after : List Char}
    (h : splitAtFirst p cs = some (before, after)) : FirstAt p cs before after := by
  refine ⟨splitAtFirst_eq_some h, ?_⟩
  induction cs generalizing before with
  | nil =>
    have := congrArg List.length (splitAtFirst_eq_some h)
    simp only [List.length_nil, List.length_append] at this
    exact fun n hn => absurd hn (by omega)
  | cons c cs ih =>
    simp only [splitAtFirst] at h
    split at h
    · cases h
      exact fun n hn => absurd hn (by simp)
    · rename_i hne
      obtain ⟨⟨b, r⟩, hb, hbr⟩ := Option.map_eq_some_iff.1 h
      cases hbr
      intro n hn
      cases n with
      | zero => exact stripStart?_eq_none_iff.1 hne
      | succ n => exact ih hb n (by simpa using hn)

theorem FirstAt.split {p cs before after : List Char} (h : FirstAt p cs before after) :
    splitAtFirst p cs = some (before, after) := by
  obtain ⟨rfl, hfirst⟩ := h
  induction before with
  | nil =>
    have hs : stripStart? p (p ++ after) = some after := stripStart?_eq_some.2 rfl
    cases hp : p ++ after with
    | nil =>
      obtain ⟨rfl, rfl⟩ := List.append_eq_nil_iff.1 hp
      rfl
    | cons c cs =>
      rw [hp] at hs
      simp [splitAtFirst, hp, hs]
  | cons c before ih =>
    have h0 := hfirst 0 (by simp)
    have hs : stripStart? p (c :: before ++ p ++ after) = none := stripStart?_eq_none_iff.2 h0
    simp only [List.cons_append] at hs ⊢
    simp only [splitAtFirst, hs, ih fun n hn => hfirst (n + 1) (by simpa using hn), Option.map_some]

/-- A split is the one at the first place. -/
theorem splitAtFirst_eq_some_iff {p cs before after : List Char} :
    splitAtFirst p cs = some (before, after) ↔ FirstAt p cs before after :=
  ⟨FirstAt.of_split, FirstAt.split⟩

/-- Nothing stands in front of the text that is found unless it is found later. -/
theorem FirstAt.le {p cs before after : List Char} (h : FirstAt p cs before after) {n : Nat}
    (hn : p <+: cs.drop n) : before.length ≤ n :=
  Nat.le_of_not_lt fun hlt => h.first n hlt hn

/-- More text at the end leaves the first place where it was. -/
theorem FirstAt.append {p cs before after : List Char} (h : FirstAt p cs before after)
    (ext : List Char) : FirstAt p (cs ++ ext) before (after ++ ext) := by
  obtain ⟨rfl, hfirst⟩ := h
  refine ⟨by simp, fun n hn hp => hfirst n hn ?_⟩
  -- the pattern is no longer than what stands from `n` on, so that it ends inside the old text
  rw [List.drop_append_of_le_length (by simp; omega)] at hp
  exact List.prefix_of_prefix_length_le hp (List.prefix_append _ _) (by simp; omega)

/-- The first place in the rest of a text is the first place, if none comes before the rest. -/
theorem FirstAt.of_drop {p cs before after : List Char} {n : Nat}
    (h : FirstAt p (cs.drop n) before after) (hfree : ∀ k, p <+: cs.drop k → n ≤ k) :
    FirstAt p cs (cs.take n ++ before) after := by
  refine ⟨?_, fun k hk hp => ?_⟩
  · rw [List.append_assoc, List.append_assoc, ← List.append_assoc before, ← h.parts,
      List.take_append_drop]
  · have hle := hfree k hp
    rw [List.length_append, List.length_take] at hk
    have := h.le (n := k - n) (by rwa [List.drop_drop, Nat.add_sub_cancel' hle])
    omega

end ChatRelay.Text
