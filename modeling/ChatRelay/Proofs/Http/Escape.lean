import ChatRelay.Http.Route
import ChatRelay.Proofs.Path

/-!
# Escapes

Decoding changes nothing in a text without escapes (`percentDecode_of_not_hasEscape`).
In every other text something is lost: an escape weighs more than the byte that it
stands for (`weight_percentDecode`).
-/

namespace ChatRelay.Http

open ChatRelay.Path (weight weight_append weight_cons weight_flatMap textWeight textWeight_append
  textWeight_cons isWeighed)
open String (utf8EncodeChar)

/-- A percent sign and two digits stand somewhere in a text. -/
def HasEscape (cs : List Char) : Prop :=
  ∃ a b, (Text.hexValue? a).isSome ∧ (Text.hexValue? b).isSome ∧ ['%', a, b] <:+: cs

theorem hasEscape_cons_iff {c : Char} {cs : List Char} :
    HasEscape (c :: cs) ↔
      (c = '%' ∧ ∃ a b back, (Text.hexValue? a).isSome ∧ (Text.hexValue? b).isSome ∧
        cs = a :: b :: back) ∨ HasEscape cs := by
  constructor
  · rintro ⟨a, b, ha, hb, hpart⟩
    rcases List.infix_cons_iff.1 hpart with hfront | hback
    · obtain ⟨rfl, back, rfl⟩ := List.cons_prefix_cons.1 hfront
      exact .inl ⟨rfl, a, b, back, ha, hb, rfl⟩
    · exact .inr ⟨a, b, ha, hb, hback⟩
  · rintro (⟨rfl, a, b, back, ha, hb, rfl⟩ | ⟨a, b, ha, hb, hpart⟩)
    · exact ⟨a, b, ha, hb, [], back, rfl⟩
    · exact ⟨a, b, ha, hb, hpart.trans (List.suffix_cons c cs).isInfix⟩

theorem not_hasEscape_nil : ¬ HasEscape [] := by
  rintro ⟨a, b, -, -, hpart⟩
  exact absurd (List.infix_nil.1 hpart) (List.cons_ne_nil _ _)

theorem HasEscape.mono {cs ds : List Char} (h : HasEscape cs) (hpart : cs <:+: ds) :
    HasEscape ds := by
  obtain ⟨a, b, ha, hb, hescape⟩ := h
  exact ⟨a, b, ha, hb, hescape.trans hpart⟩

theorem HasEscape.percent_mem {cs : List Char} (h : HasEscape cs) : '%' ∈ cs := by
  obtain ⟨a, b, -, -, hescape⟩ := h
  exact hescape.mem List.mem_cons_self

/-- No escape goes on behind a slash. -/
theorem HasEscape.of_append_slash {cs rest : List Char} (h : HasEscape (cs ++ '/' :: rest)) :
    HasEscape cs ∨ HasEscape rest := by
  induction cs with
  | nil =>
    rcases hasEscape_cons_iff.1 h with ⟨hc, -⟩ | hrest
    · cases hc
    · exact .inr hrest
  | cons c cs ih =>
    rcases hasEscape_cons_iff.1 h with ⟨hc, a, b, back, ha, hb, hparts⟩ | hrest
    · match cs with
      | [] =>
        cases hparts
        cases ha
      | [x] =>
        cases hparts
        cases hb
      | x :: y :: cs =>
        cases hparts
        exact .inl (hasEscape_cons_iff.2 (.inl ⟨hc, a, b, cs, ha, hb, rfl⟩))
    · exact (ih hrest).imp_left fun hcs => hasEscape_cons_iff.2 (.inr hcs)

theorem isWeighed_of_hexValue? {c : Char} {n : Nat} (h : Text.hexValue? c = some n) :
    isWeighed c.toNat = true := by
  have hdigit : '0' ≤ c ∧ c ≤ 'f' := by
    simp only [Text.hexValue?] at h
    split at h
    · rename_i hc
      exact ⟨hc.1, Nat.le_trans hc.2 (by decide)⟩
    split at h
    · rename_i hc
      exact ⟨Nat.le_trans (by decide) hc.1, hc.2⟩
    split at h
    · rename_i hc
      exact ⟨Nat.le_trans (by decide) hc.1, Nat.le_trans hc.2 (by decide)⟩
    · cases h
  have hlow : 0x30 ≤ c.toNat := hdigit.1
  have hhigh : c.toNat ≤ 0x66 := hdigit.2
  simp only [isWeighed, Bool.and_eq_true, decide_eq_true_eq, bne_iff_ne, ne_eq]
  omega

theorem encodeUtf8_singleton (c : Char) :
    Text.encodeUtf8 (String.singleton c) = utf8EncodeChar c := by
  rw [Text.encodeUtf8_eq, String.toList_singleton]
  exact List.append_nil _

/-- Where nothing is escaped, decoding changes nothing. -/
theorem percentDecode_of_not_hasEscape {cs : List Char} (h : ¬ HasEscape cs) :
    percentDecode cs = cs.flatMap utf8EncodeChar := by
  fun_induction percentDecode cs with
  | case1 a b rest m n hb ha ih =>
    refine absurd (hasEscape_cons_iff.2 (.inl ⟨rfl, a, b, rest, ?_, ?_, rfl⟩)) h
    · rw [ha, Option.isSome_some]
    · rw [hb, Option.isSome_some]
  | case2 a b rest hdigits ih =>
    rw [ih fun hrest => h (hasEscape_cons_iff.2 (.inr hrest))]
    rfl
  | case3 c rest hplain ih =>
    rw [ih fun hrest => h (hasEscape_cons_iff.2 (.inr hrest)), encodeUtf8_singleton,
      List.flatMap_cons]
  | case4 => rfl

/-- An escape weighs more than the byte that it stands for. -/
theorem weight_percentDecode (cs : List Char) :
    weight (percentDecode cs) ≤ textWeight cs ∧
      (HasEscape cs → weight (percentDecode cs) < textWeight cs) := by
  fun_induction percentDecode cs with
  | case1 a b rest m n hb ha ih =>
    have hone : weight (UInt8.ofNat (16 * m + n) :: percentDecode rest) ≤
        weight (percentDecode rest) + 1 := by
      rw [weight_cons]
      split <;> omega
    have hthree : textWeight ('%' :: a :: b :: rest) = textWeight rest + 3 := by
      simp only [textWeight_cons, isWeighed_of_hexValue? ha, isWeighed_of_hexValue? hb, if_true]
      rfl
    omega
  | case2 a b rest hdigits ih =>
    have hsign : textWeight ('%' :: a :: b :: rest) = textWeight (a :: b :: rest) + 1 :=
      textWeight_cons '%' (a :: b :: rest)
    have hbyte : weight (0x25 :: percentDecode (a :: b :: rest)) =
        weight (percentDecode (a :: b :: rest)) + 1 := weight_cons _ _
    refine ⟨by omega, fun h => ?_⟩
    rcases hasEscape_cons_iff.1 h with ⟨-, a', b', back, ha, hb, heq⟩ | hrest
    · cases heq
      obtain ⟨m, hm⟩ := Option.isSome_iff_exists.1 ha
      obtain ⟨n, hn⟩ := Option.isSome_iff_exists.1 hb
      exact (hdigits m n hm hn).elim
    · have := ih.2 hrest
      omega
  | case3 c rest hplain ih =>
    have hchar : weight (Text.encodeUtf8 (String.singleton c)) = textWeight [c] := by
      rw [Text.encodeUtf8_eq, String.toList_singleton, weight_flatMap]
    have htext : textWeight (c :: rest) = textWeight [c] + textWeight rest :=
      textWeight_append [c] rest
    rw [weight_append, hchar, htext]
    refine ⟨by omega, fun h => ?_⟩
    rcases hasEscape_cons_iff.1 h with ⟨hc, a, b, back, -, -, heq⟩ | hrest
    · exact (hplain a b back hc heq).elim
    · have := ih.2 hrest
      omega
  | case4 => exact ⟨Nat.le_refl _, fun h => absurd h not_hasEscape_nil⟩

/-- Whether something is escaped shows in what decoding takes away. -/
theorem hasEscape_iff {cs : List Char} :
    HasEscape cs ↔ weight (percentDecode cs) < textWeight cs := by
  refine ⟨(weight_percentDecode cs).2, fun h => Classical.byContradiction fun hnone => ?_⟩
  rw [percentDecode_of_not_hasEscape hnone, weight_flatMap] at h
  exact Nat.lt_irrefl _ h

instance : DecidablePred HasEscape := fun _ => decidable_of_iff' _ hasEscape_iff

end ChatRelay.Http
