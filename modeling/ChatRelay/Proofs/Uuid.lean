import ChatRelay.Uuid

/-!
# Identifiers are read back

The text of an identifier is read as the same identifier (`Uuid.ofText_text`),
so that different identifiers have different texts (`Uuid.text_inj`).
-/

namespace ChatRelay

namespace Text

theorem length_hexDigits (width n : Nat) : (hexDigits width n).length = width := by
  induction width generalizing n with
  | zero => rfl
  | succ width ih => rw [hexDigits, List.length_append, ih, List.length_singleton]

theorem mem_hexDigits {width n : Nat} {c : Char} (h : c ∈ hexDigits width n) :
    ∃ d < 16, c = hexDigit d := by
  induction width generalizing n with
  | zero => cases h
  | succ width ih =>
    rcases List.mem_append.1 h with h | h
    · exact ih h
    · exact ⟨n % 16, Nat.mod_lt _ (by decide), List.mem_singleton.1 h⟩

theorem hexNumber?_concat (cs : List Char) (c : Char) :
    hexNumber? (cs ++ [c]) = (hexNumber? cs).bind fun n => (hexValue? c).map (16 * n + ·) := by
  simp [hexNumber?]

theorem hexNumber?_hexDigits (width n : Nat) :
    hexNumber? (hexDigits width n) = some (n % Nat.pow 16 width) := by
  induction width generalizing n with
  | zero => simp [hexDigits, hexNumber?, Nat.mod_one]
  | succ width ih =>
    have hdigit := hexValue?_hexDigit (Nat.mod_lt n (show 0 < 16 by decide))
    have hpow : Nat.pow 16 (width + 1) = 16 * Nat.pow 16 width := Nat.mul_comm _ _
    rw [hexDigits, hexNumber?_concat, ih, Option.bind_some, hdigit, Option.map_some, hpow,
      Nat.mod_mul, Nat.add_comm]

theorem splitOnChar_ne_nil (sep : Char) (cs : List Char) : splitOnChar sep cs ≠ [] := by
  induction cs with
  | nil => simp [splitOnChar]
  | cons c cs ih =>
    rw [splitOnChar]
    split
    · simp
    · split <;> simp

/-- A part in front of a separator is split off. -/
theorem splitOnChar_append {sep : Char} {part : List Char} (h : sep ∉ part) (cs : List Char) :
    splitOnChar sep (part ++ sep :: cs) = part :: splitOnChar sep cs := by
  induction part with
  | nil =>
    rw [List.nil_append, splitOnChar]
    split
    · exact absurd ‹_› (splitOnChar_ne_nil sep cs)
    · simp [*]
  | cons c part ih =>
    rw [List.cons_append, splitOnChar, ih (fun hin => h (List.mem_cons_of_mem _ hin))]
    simp [Ne.symm (List.ne_of_not_mem_cons h)]

/-- A text without a separator has one part. -/
theorem splitOnChar_of_not_mem {sep : Char} {part : List Char} (h : sep ∉ part) :
    splitOnChar sep part = [part] := by
  induction part with
  | nil => rfl
  | cons c part ih =>
    rw [splitOnChar, ih (fun hin => h (List.mem_cons_of_mem _ hin))]
    simp [Ne.symm (List.ne_of_not_mem_cons h)]

/-- No digit is a hyphen, or begins one of the forms in which an identifier is wrapped. -/
theorem hexDigit_ne {d : Nat} (h : d < 16) :
    hexDigit d ≠ '-' ∧ hexDigit d ≠ '\x7b' ∧ (hexDigit d).toLower ≠ 'u' := by
  have : ∀ d : Fin 16, hexDigit d ≠ '-' ∧ hexDigit d ≠ '\x7b' ∧ (hexDigit d).toLower ≠ 'u' := by
    decide
  exact this ⟨d, h⟩

end Text

namespace Uuid

open Text

/-- The digits of an identifier. -/
def digits (u : Uuid) : List Char := hexDigits 32 u.bits.toNat

/-- The groups of digits of an identifier. -/
def groups (u : Uuid) : List (List Char) :=
  [u.digits.take 8, (u.digits.drop 8).take 4, (u.digits.drop 12).take 4, (u.digits.drop 16).take 4,
    u.digits.drop 20]

theorem length_digits (u : Uuid) : u.digits.length = 32 := length_hexDigits _ _

theorem splitOnChar_chars (u : Uuid) : splitOnChar '-' u.chars = u.groups := by
  have hyphen : '-' ∉ u.digits := fun hin => by
    obtain ⟨d, hd, heq⟩ := mem_hexDigits hin
    exact (hexDigit_ne hd).1 heq.symm
  have htake : ∀ m n, '-' ∉ (u.digits.drop m).take n :=
    fun m n hin => hyphen (List.mem_of_mem_drop (List.mem_of_mem_take hin))
  have hchars : u.chars = (u.digits.drop 0).take 8 ++ '-' :: ((u.digits.drop 8).take 4 ++
      '-' :: ((u.digits.drop 12).take 4 ++ '-' :: ((u.digits.drop 16).take 4 ++
        '-' :: u.digits.drop 20))) := by
    simp [chars, digits]
  rw [hchars, splitOnChar_append (htake 0 8), splitOnChar_append (htake 8 4),
    splitOnChar_append (htake 12 4), splitOnChar_append (htake 16 4),
    splitOnChar_of_not_mem fun hin => hyphen (List.mem_of_mem_drop hin)]
  rfl

theorem flatten_groups (u : Uuid) : u.groups.flatten = u.digits := by
  have hpart : ∀ m n, (u.digits.drop m).take n ++ u.digits.drop (m + n) = u.digits.drop m := by
    intro m n
    rw [← List.drop_drop, List.take_append_drop]
  simp only [groups, List.flatten_cons, List.flatten_nil, List.append_nil]
  rw [hpart 16 4, hpart 12 4, hpart 8 4, List.take_append_drop]

theorem ofGroups?_chars (u : Uuid) : ofGroups? u.chars = some u := by
  have hlengths : u.groups.map List.length = groupLengths := by
    simp [groups, u.length_digits, groupLengths]
  have hbits : u.bits.toNat % Nat.pow 16 32 = u.bits.toNat := Nat.mod_eq_of_lt u.bits.isLt
  have hread : hexNumber? u.groups.flatten = some u.bits.toNat := by
    rw [flatten_groups, digits, hexNumber?_hexDigits, hbits]
  rw [ofGroups?]
  simp only [splitOnChar_chars, hlengths, if_true, hread, Option.map_some, ofNat,
    BitVec.ofNat_toNat, BitVec.setWidth_eq]

theorem unwrap_cons {c : Char} {cs : List Char} (hbrace : c ≠ '\x7b') (hname : c.toLower ≠ 'u') :
    unwrap (c :: cs) = none := by
  have hname : ((c :: cs).take resourceName.length).map Char.toLower ≠ resourceName := by
    intro heq
    exact hname (List.cons.inj heq).1
  rw [unwrap]
  · rw [if_neg hname]
  · rintro rest ⟨⟩
    exact hbrace rfl

theorem unwrap_chars (u : Uuid) : unwrap u.chars = none := by
  obtain ⟨c, cs, hcs⟩ : ∃ c cs, u.digits = c :: cs :=
    List.exists_cons_of_length_eq_add_one u.length_digits
  have hc : c ∈ u.digits := hcs ▸ List.mem_cons_self
  obtain ⟨d, hd, rfl⟩ := mem_hexDigits hc
  rw [chars, ← digits, hcs]
  exact unwrap_cons (hexDigit_ne hd).2.1 (hexDigit_ne hd).2.2

/-- The text of an identifier is read as this identifier. -/
theorem ofText_text (u : Uuid) : ofText u.text = .ok u := by
  have hlength : u.chars.length ≠ 32 := by
    simp [chars, length_hexDigits]
  rw [ofText, text, String.toList_ofList, ofChars?, if_neg hlength, unwrap_chars, ofGroups?_chars]

/-- Small numbers are different identifiers. -/
theorem ofNat_ne {m n : Nat} (hlt : m < n) (hn : n < Nat.pow 2 128) : ofNat m ≠ ofNat n := by
  intro heq
  have hmod := congrArg (fun u : Uuid => u.bits.toNat) heq
  simp only [ofNat, BitVec.toNat_ofNat] at hmod
  rw [Nat.mod_eq_of_lt (Nat.lt_trans hlt hn), Nat.mod_eq_of_lt hn] at hmod
  exact Nat.ne_of_lt hlt hmod

theorem text_inj {u v : Uuid} : u.text = v.text ↔ u = v := by
  refine ⟨fun h => ?_, congrArg text⟩
  have := u.ofText_text
  rw [h, ofText_text] at this
  exact (Except.ok.inj this).symm

@[simp] theorem text_beq (u v : Uuid) : (u.text == v.text) = (u == v) := by
  rw [Bool.eq_iff_iff, beq_iff_eq, beq_iff_eq, text_inj]

end Uuid

end ChatRelay
