import ChatRelay.Proofs.Text.Search

/-!
# Places in a text by the byte

A place in a text may be given by the number of bytes in front of it. No place
lies behind the end of the text, and none inside a character: `slice?` gives
nothing then. Places that are given by the character always are such places
(`slice?_offset`), and they are in the same order (`offset_le_iff`).
-/

namespace ChatRelay.Text

/-- The parts of a text in front of a place and behind it, if there is such a place. -/
def splitAtByte? : Nat → List Char → Option (List Char × List Char)
  | 0, cs => some ([], cs)
  | _ + 1, [] => none
  | n + 1, c :: cs =>
    if c.utf8Size ≤ n + 1 then
      (splitAtByte? (n + 1 - c.utf8Size) cs).map fun (front, rest) => (c :: front, rest)
    else none

/-- The part of a text between two places, if there are such places in this order. -/
def slice? (cs : List Char) (start stop : Nat) : Option (List Char) := do
  let (front, _) ← splitAtByte? stop cs
  let (_, part) ← splitAtByte? start front
  return part

/-- The place where a text occurs first. -/
def firstByte? (pattern cs : List Char) : Option Nat :=
  (splitAtFirst pattern cs).map fun (before, _) => byteLength before

/-- The place in front of the character with this number. -/
def offset (cs : List Char) (n : Nat) : Nat := byteLength (cs.take n)

@[simp] theorem byteLength_append (cs ds : List Char) :
    byteLength (cs ++ ds) = byteLength cs + byteLength ds := by
  induction cs with
  | nil => simp [byteLength]
  | cons c cs ih => simp [byteLength, ih, Nat.add_assoc]

theorem byteLength_pos {cs : List Char} (h : cs ≠ []) : 0 < byteLength cs := by
  obtain ⟨c, cs, rfl⟩ := List.exists_cons_of_ne_nil h
  exact Nat.add_pos_left c.utf8Size_pos _

/-- Behind a part of a text there is a place. -/
theorem splitAtByte?_byteLength (front rest : List Char) :
    splitAtByte? (byteLength front) (front ++ rest) = some (front, rest) := by
  induction front with
  | nil => simp [byteLength, splitAtByte?]
  | cons c front ih =>
    obtain ⟨n, hn⟩ := Nat.exists_eq_succ_of_ne_zero (Nat.pos_iff_ne_zero.1 (byteLength_pos
      (List.cons_ne_nil c front)))
    have hlength : byteLength (c :: front) = c.utf8Size + byteLength front := rfl
    have hrest : n + 1 - c.utf8Size = byteLength front := by omega
    rw [hn, List.cons_append, splitAtByte?, if_pos (by omega), hrest, ih]
    rfl

/-! ## Places by the character -/

theorem offset_zero (cs : List Char) : offset cs 0 = 0 := by
  rw [offset, List.take_zero, byteLength]

theorem offset_length (cs : List Char) : offset cs cs.length = byteLength cs := by
  rw [offset, List.take_length]

/-- A part at the start of a text ends at a place. -/
theorem byteLength_of_isPrefix {front cs : List Char} (h : front <+: cs) :
    byteLength front = offset cs front.length := by
  rw [offset, ← List.prefix_iff_eq_take.1 h]

theorem offset_append {cs : List Char} {n : Nat} (h : n ≤ cs.length) (ds : List Char) :
    offset (cs ++ ds) n = offset cs n := by
  rw [offset, offset, List.take_append_of_le_length h]

theorem offset_add (cs : List Char) (m n : Nat) :
    offset cs (m + n) = offset cs m + offset (cs.drop m) n := by
  rw [offset, List.take_add, byteLength_append, offset, offset]

theorem offset_lt {cs : List Char} {m n : Nat} (h : m < n) (hn : n ≤ cs.length) :
    offset cs m < offset cs n := by
  obtain ⟨k, rfl⟩ := Nat.exists_eq_add_of_le (Nat.le_of_lt h)
  rw [offset_add]
  refine Nat.lt_add_of_pos_right (byteLength_pos fun hnil => ?_)
  have := congrArg List.length hnil
  simp only [List.length_take, List.length_drop, List.length_nil] at this
  omega

/-- Places are in the order of their characters. -/
theorem offset_le_iff {cs : List Char} {m n : Nat} (hm : m ≤ cs.length) (hn : n ≤ cs.length) :
    offset cs m ≤ offset cs n ↔ m ≤ n := by
  rcases Nat.lt_trichotomy m n with h | rfl | h
  · exact iff_of_true (Nat.le_of_lt (offset_lt h hn)) (Nat.le_of_lt h)
  · exact iff_of_true (Nat.le_refl _) (Nat.le_refl _)
  · exact iff_of_false (Nat.not_le_of_lt (offset_lt h hm)) (Nat.not_le_of_lt h)

theorem offset_max {cs : List Char} {m n : Nat} (hm : m ≤ cs.length) (hn : n ≤ cs.length) :
    offset cs (max m n) = max (offset cs m) (offset cs n) := by
  rcases Nat.le_total m n with h | h
  · rw [Nat.max_eq_right h, Nat.max_eq_right ((offset_le_iff hm hn).2 h)]
  · rw [Nat.max_eq_left h, Nat.max_eq_left ((offset_le_iff hn hm).2 h)]

/-- Between the places of two characters stand the characters between them. -/
theorem slice?_offset (cs : List Char) {m n : Nat} (h : m ≤ n) :
    slice? cs (offset cs m) (offset cs n) = some ((cs.take n).drop m) := by
  have hstop : splitAtByte? (offset cs n) cs = some (cs.take n, cs.drop n) := by
    have h := splitAtByte?_byteLength (cs.take n) (cs.drop n)
    rwa [List.take_append_drop] at h
  have hstart : splitAtByte? (offset cs m) (cs.take n) = some (cs.take m, (cs.take n).drop m) := by
    have h' := splitAtByte?_byteLength ((cs.take n).take m) ((cs.take n).drop m)
    rw [List.take_append_drop, List.take_take, Nat.min_eq_left h] at h'
    exact h'
  rw [slice?, hstop]
  exact congrArg (Option.bind · _) hstart

theorem slice?_to_offset (cs : List Char) (n : Nat) :
    slice? cs 0 (offset cs n) = some (cs.take n) := by
  have h := slice?_offset cs (Nat.zero_le n)
  rwa [offset_zero, List.drop_zero] at h

theorem slice?_from_offset {cs : List Char} {n : Nat} (h : n ≤ cs.length) :
    slice? cs (offset cs n) (byteLength cs) = some (cs.drop n) := by
  have h := slice?_offset cs h
  rwa [offset_length, List.take_length] at h

/-- There is no place inside a character, and none behind the end. -/
example : slice? ['é', 'a'] 1 3 = none ∧ slice? ['é', 'a'] 2 3 = some ['a'] ∧
    slice? ['é', 'a'] 2 4 = none := by decide

theorem firstByte?_cons_of_not_isPrefix {p cs : List Char} {c : Char} (h : ¬ p <+: c :: cs) :
    firstByte? p (c :: cs) = (firstByte? p cs).map (c.utf8Size + ·) := by
  rw [firstByte?, splitAtFirst, stripStart?_eq_none_iff.2 h, firstByte?]
  cases splitAtFirst p cs <;> rfl

theorem firstByte?_cons_of_isPrefix {p cs : List Char} {c : Char} (h : p <+: c :: cs) :
    firstByte? p (c :: cs) = some 0 := by
  obtain ⟨rest, hrest⟩ := Option.isSome_iff_exists.1 (stripStart?_isSome_iff.2 h)
  rw [firstByte?, splitAtFirst, hrest]
  rfl

end ChatRelay.Text
