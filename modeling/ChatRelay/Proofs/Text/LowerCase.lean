import ChatRelay.Text.LowerCase

/-!
# Words in lower case

The lower case of a character can depend on what stands around it. For an ASCII
character it does not, and so an ASCII word can be found in the lower case of a text
wherever it stands in the text, in letters of any case (`infix_lowerCase`).
-/

namespace ChatRelay.Text

/-- Behind some part of a text stands the lower case of what stands behind that part. -/
theorem lowerFrom_append (cased : Bool) (before rest : List Char) :
    ∃ cased', lowerFrom cased' rest <:+ lowerFrom cased (before ++ rest) := by
  induction before generalizing cased with
  | nil => exact ⟨cased, List.suffix_rfl⟩
  | cons c before ih =>
    obtain ⟨cased', h⟩ := ih (if isCaseIgnorable c then cased else isCased c)
    rw [List.cons_append, lowerFrom]
    exact ⟨cased', h.trans (List.suffix_append _ _)⟩

theorem lowerFrom_ascii {p : List Char} (h : ∀ c ∈ p, c.toNat < 0x80) (cased : Bool)
    (rest : List Char) : p.map Char.toLower <+: lowerFrom cased (p ++ rest) := by
  induction p generalizing cased with
  | nil => exact List.nil_prefix
  | cons c p ih =>
    obtain ⟨hc, hp⟩ := List.forall_mem_cons.1 h
    have hsigma : c.toNat ≠ 0x3A3 := by omega
    simp only [List.cons_append, lowerFrom, hsigma, if_false, lowerChar, hc, if_true,
      List.nil_append, List.map_cons, List.prefix_cons_inj]
    exact ih hp _

theorem toNat_lt_of_toLower {c : Char} (h : c.toLower.toNat < 0x80) : c.toNat < 0x80 := by
  by_cases hcapital : 'A'.val ≤ c.val ∧ c.val ≤ 'Z'.val
  · exact Nat.lt_of_le_of_lt (UInt32.le_iff_toNat_le.1 hcapital.2) (by decide)
  · have hsame : c.toLower = c := dif_neg hcapital
    rwa [hsame] at h

/-- A part of a text is part of its lower case, if it is an ASCII word, with its letters made
small. -/
theorem infix_lowerCase {p : List Char} {s : String} (h : p <:+: s.toList)
    (hascii : ∀ c ∈ p.map Char.toLower, c.toNat < 0x80) :
    p.map Char.toLower <:+: (lowerCase s).toList := by
  have hp : ∀ c ∈ p, c.toNat < 0x80 := fun c hc =>
    toNat_lt_of_toLower (hascii _ (List.mem_map_of_mem hc))
  obtain ⟨before, after, hs⟩ := h
  obtain ⟨cased, hsuffix⟩ := lowerFrom_append false before (p ++ after)
  rw [lowerCase, String.toList_ofList, ← hs, List.append_assoc]
  exact (lowerFrom_ascii hp cased after).isInfix.trans hsuffix.isInfix

end ChatRelay.Text
