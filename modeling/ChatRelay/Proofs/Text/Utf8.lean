import ChatRelay.Text.Utf8

/-!
# The bytes of a text

The bytes of a text are the bytes of its characters, one after the other
(`encodeUtf8_ofList`), and bytes are read as a text exactly if they are those of the
text (`decodeUtf8_eq_ok_iff`). `Coded` says what the bytes of one character are.

Where bytes are shown that are no text, no character of seven bits is shown that does
not stand there (`countP_decodeLossy_le`).
-/

namespace ChatRelay.Text

open String (utf8EncodeChar)

/-- The list of the bytes from an index on, behind some that were collected before. -/
theorem toList_loop (bytes : ByteArray) (i : Nat) (before : List UInt8) :
    ByteArray.toList.loop bytes i before = before.reverse ++ bytes.data.toList.drop i := by
  fun_induction ByteArray.toList.loop bytes i before with
  | case1 i before h ih =>
    have hbyte : bytes.get! i = bytes.data.toList[i] := getElem!_pos bytes.data i h
    rw [ih, hbyte, List.reverse_cons, List.append_assoc, List.singleton_append,
      List.getElem_cons_drop]
  | case2 i before h =>
    rw [List.drop_of_length_le (Nat.le_of_not_lt h), List.append_nil]

theorem encodeUtf8_ofList (cs : List Char) :
    encodeUtf8 (String.ofList cs) = cs.flatMap String.utf8EncodeChar := by
  have hbytes : (String.ofList cs).toUTF8 = (cs.flatMap String.utf8EncodeChar).toByteArray := by
    exact String.toByteArray_ofList
  rw [encodeUtf8, hbytes, ByteArray.toList, toList_loop]
  simp

theorem encodeUtf8_eq (s : String) : encodeUtf8 s = s.toList.flatMap utf8EncodeChar := by
  rw [← encodeUtf8_ofList, String.ofList_toList]

/-- A character of seven bits is one byte. -/
theorem utf8EncodeChar_of_lt {c : Char} (h : c.toNat < 128) :
    String.utf8EncodeChar c = [UInt8.ofNat c.toNat] := by
  rw [String.utf8EncodeChar]
  exact if_pos (Nat.le_of_lt_succ h)

/-! ## The bytes of a character -/

theorem isContinuation_iff {b : UInt8} :
    isContinuation b = true ↔ 0x80 ≤ b.toNat ∧ b.toNat ≤ 0xBF := by
  rw [isContinuation, Bool.and_eq_true, decide_eq_true_iff, decide_eq_true_iff]
  rfl

theorem isSecond_iff {a b : UInt8} :
    isSecond a b = true ↔ (0x80 ≤ b.toNat ∧ b.toNat ≤ 0xBF) ∧
      (a.toNat = 0xE0 → 0xA0 ≤ b.toNat) ∧ (a.toNat = 0xED → b.toNat ≤ 0x9F) ∧
      (a.toNat = 0xF0 → 0x90 ≤ b.toNat) ∧ (a.toNat = 0xF4 → b.toNat ≤ 0x8F) := by
  simp only [isSecond, Bool.and_eq_true, decide_eq_true_iff, UInt8.le_iff_toNat_le,
    ← UInt8.toNat_inj, apply_ite UInt8.toNat, UInt8.reduceToNat]
  grind

/-- These bytes make up a character. -/
inductive Coded (c : Char) : List UInt8 → Prop where
  | one {a : UInt8} (ha : a.toNat < 0x80) (hc : c.toNat = a.toNat) : Coded c [a]
  | two {a b : UInt8} (ha : 0xC2 ≤ a.toNat ∧ a.toNat ≤ 0xDF) (hb : isContinuation b = true)
      (hc : c.toNat = (a.toNat - 0xC0) * 64 + (b.toNat - 0x80)) : Coded c [a, b]
  | three {a b d : UInt8} (ha : 0xE0 ≤ a.toNat ∧ a.toNat ≤ 0xEF) (hb : isSecond a b = true)
      (hd : isContinuation d = true)
      (hc : c.toNat = ((a.toNat - 0xE0) * 64 + (b.toNat - 0x80)) * 64 + (d.toNat - 0x80)) :
      Coded c [a, b, d]
  | four {a b d e : UInt8} (ha : 0xF0 ≤ a.toNat ∧ a.toNat ≤ 0xF4) (hb : isSecond a b = true)
      (hd : isContinuation d = true) (he : isContinuation e = true)
      (hc : c.toNat = (((a.toNat - 0xF0) * 64 + (b.toNat - 0x80)) * 64 + (d.toNat - 0x80)) * 64 +
        (e.toNat - 0x80)) :
      Coded c [a, b, d, e]

/-- Every character is coded, by the number of bytes that its own number asks for. -/
theorem coded (c : Char) : Coded c (utf8EncodeChar c) := by
  have hvalid : c.toNat.isValidChar := c.valid
  rw [Nat.isValidChar] at hvalid
  simp only [utf8EncodeChar, Char.toNat_val]
  split
  · refine .one ?_ ?_ <;> simp <;> omega
  split
  · refine .two ?_ (isContinuation_iff.2 ?_) ?_ <;> simp <;> omega
  split
  · refine .three ?_ (isSecond_iff.2 ?_) (isContinuation_iff.2 ?_) ?_ <;> simp <;> omega
  · refine .four ?_ (isSecond_iff.2 ?_) (isContinuation_iff.2 ?_) (isContinuation_iff.2 ?_) ?_ <;>
      simp <;> omega

theorem toNat_joinBytes {lead : Nat} {rest : List UInt8}
    (h : (rest.foldl (fun n b => n * 64 + (b.toNat - 0x80)) lead).isValidChar) :
    (joinBytes lead rest).toNat = rest.foldl (fun n b => n * 64 + (b.toNat - 0x80)) lead := by
  rw [joinBytes, Char.ofNat, dif_pos h]
  rfl

namespace Coded

variable {c : Char} {a b d e : UInt8} {bytes : List UInt8}

theorem ofByte (ha : a < 0x80) : Coded (Char.ofNat a.toNat) [a] := by
  have hlow : a.toNat < 0x80 := ha
  have hchar : (joinBytes a.toNat []).toNat = a.toNat :=
    toNat_joinBytes (.inl (Nat.lt_trans hlow (by decide)))
  exact .one hlow hchar

theorem ofTwo (ha : 0xC2 ≤ a ∧ a ≤ 0xDF) (hb : isContinuation b = true) :
    Coded (joinBytes (a.toNat - 0xC0) [b]) [a, b] := by
  refine .two ha hb (toNat_joinBytes ?_)
  rw [isContinuation_iff] at hb
  simp only [UInt8.le_iff_toNat_le, UInt8.reduceToNat] at ha
  simp only [List.foldl_cons, List.foldl_nil, Nat.isValidChar]
  omega

theorem ofThree (ha : 0xE0 ≤ a ∧ a ≤ 0xEF) (hb : isSecond a b = true)
    (hd : isContinuation d = true) : Coded (joinBytes (a.toNat - 0xE0) [b, d]) [a, b, d] := by
  refine .three ha hb hd (toNat_joinBytes ?_)
  rw [isContinuation_iff] at hd
  rw [isSecond_iff] at hb
  simp only [UInt8.le_iff_toNat_le, UInt8.reduceToNat] at ha
  simp only [List.foldl_cons, List.foldl_nil, Nat.isValidChar]
  omega

theorem ofFour (ha : 0xF0 ≤ a ∧ a ≤ 0xF4) (hb : isSecond a b = true)
    (hd : isContinuation d = true) (he : isContinuation e = true) :
    Coded (joinBytes (a.toNat - 0xF0) [b, d, e]) [a, b, d, e] := by
  refine .four ha hb hd he (toNat_joinBytes ?_)
  rw [isContinuation_iff] at hd he
  rw [isSecond_iff] at hb
  simp only [UInt8.le_iff_toNat_le, UInt8.reduceToNat] at ha
  simp only [List.foldl_cons, List.foldl_nil, Nat.isValidChar]
  omega

/-- A character is coded in one way. -/
theorem unique (h : Coded c bytes) : utf8EncodeChar c = bytes := by
  cases h with
  | one ha hc => rw [utf8EncodeChar_of_lt (hc ▸ ha), hc, UInt8.ofNat_toNat]
  | two ha hb hc =>
    rw [isContinuation_iff] at hb
    simp only [utf8EncodeChar, Char.toNat_val, hc]
    rw [if_neg (by omega), if_pos (by omega)]
    simp only [List.cons.injEq, ← UInt8.toNat_inj, UInt8.toNat_ofNat', Nat.reducePow, and_true]
    omega
  | three ha hb hd hc =>
    rw [isContinuation_iff] at hd
    rw [isSecond_iff] at hb
    simp only [utf8EncodeChar, Char.toNat_val, hc]
    rw [if_neg (by omega), if_neg (by omega), if_pos (by omega)]
    simp only [List.cons.injEq, ← UInt8.toNat_inj, UInt8.toNat_ofNat', Nat.reducePow, and_true]
    omega
  | four ha hb hd he hc =>
    rw [isContinuation_iff] at hd he
    rw [isSecond_iff] at hb
    simp only [utf8EncodeChar, Char.toNat_val, hc]
    rw [if_neg (by omega), if_neg (by omega), if_neg (by omega)]
    simp only [List.cons.injEq, ← UInt8.toNat_inj, UInt8.toNat_ofNat', Nat.reducePow, and_true]
    omega

/-- A character that is coded is read in front of anything. -/
theorem decode (h : Coded c bytes) (i : Nat) (rest : List UInt8) :
    decodeUtf8From i (bytes ++ rest) = (decodeUtf8From (i + bytes.length) rest).map (c :: ·) := by
  have hjoin : Char.ofNat c.toNat = c := Char.ofNat_toNat c
  cases h with
  | @one a ha hc =>
    have hrange : a < 0x80 := ha
    rw [hc] at hjoin
    rw [List.singleton_append, decodeUtf8From.eq_def]
    simp only [hrange, if_true, hjoin, List.length_singleton]
  | @two a b ha hb hc =>
    have hrange : ¬ a < 0x80 ∧ 0xC2 ≤ a ∧ a ≤ 0xDF := by
      simp only [UInt8.lt_iff_toNat_lt, UInt8.le_iff_toNat_le, UInt8.reduceToNat]
      omega
    rw [hc] at hjoin
    rw [List.cons_append, decodeUtf8From.eq_def]
    simp only [hrange, hb, joinBytes, hjoin, List.singleton_append, if_true, if_false,
      List.foldl_cons, List.foldl_nil, List.length_cons, List.length_nil, and_self]
  | @three a b d ha hb hd hc =>
    have hrange : ¬ a < 0x80 ∧ ¬ (0xC2 ≤ a ∧ a ≤ 0xDF) ∧ 0xE0 ≤ a ∧ a ≤ 0xEF := by
      simp only [UInt8.lt_iff_toNat_lt, UInt8.le_iff_toNat_le, UInt8.reduceToNat]
      omega
    rw [hc] at hjoin
    rw [List.cons_append, decodeUtf8From.eq_def]
    simp only [hrange, hb, hd, joinBytes, hjoin, List.cons_append, List.nil_append,
      if_true, if_false, Bool.not_true, Bool.false_eq_true, List.foldl_cons, List.foldl_nil,
      List.length_cons, List.length_nil, and_self]
  | @four a b d e ha hb hd he hc =>
    have hrange : ¬ a < 0x80 ∧ ¬ (0xC2 ≤ a ∧ a ≤ 0xDF) ∧ ¬ (0xE0 ≤ a ∧ a ≤ 0xEF) ∧
        0xF0 ≤ a ∧ a ≤ 0xF4 := by
      simp only [UInt8.lt_iff_toNat_lt, UInt8.le_iff_toNat_le, UInt8.reduceToNat]
      omega
    rw [hc] at hjoin
    rw [List.cons_append, decodeUtf8From.eq_def]
    simp only [hrange, hb, hd, he, joinBytes, hjoin, List.cons_append,
      List.nil_append, if_true, if_false, Bool.not_true, Bool.false_eq_true, List.foldl_cons,
      List.foldl_nil, List.length_cons, List.length_nil, and_self]

/-- The bytes of a character in front of the bytes of the characters that were read behind it. -/
theorem flatMap_of_map (h : Coded c bytes) {rest : List UInt8} {cs : List Char}
    {r : Except Utf8Fault (List Char)} (hread : r.map (c :: ·) = .ok cs)
    (hrest : ∀ {ds}, r = .ok ds → rest = ds.flatMap utf8EncodeChar) :
    bytes ++ rest = cs.flatMap utf8EncodeChar := by
  cases r with
  | error f => cases hread
  | ok ds =>
    cases hread
    rw [List.flatMap_cons, h.unique, ← hrest rfl]

/-- A character of more than seven bits has no byte of seven bits. -/
theorem le_of_mem (h : Coded c bytes) (hc : 128 ≤ c.toNat) (hmem : b ∈ bytes) :
    128 ≤ b.toNat := by
  cases h with
  | one ha hone => omega
  | two ha hb =>
    rw [isContinuation_iff] at hb
    simp only [List.mem_cons, List.not_mem_nil, or_false] at hmem
    rcases hmem with rfl | rfl <;> omega
  | three ha hb hd =>
    rw [isSecond_iff] at hb
    rw [isContinuation_iff] at hd
    simp only [List.mem_cons, List.not_mem_nil, or_false] at hmem
    rcases hmem with rfl | rfl | rfl <;> omega
  | four ha hb hd he =>
    rw [isSecond_iff] at hb
    rw [isContinuation_iff] at hd he
    simp only [List.mem_cons, List.not_mem_nil, or_false] at hmem
    rcases hmem with rfl | rfl | rfl | rfl <;> omega

end Coded

/-- A character counts as often as its bytes, if no byte of more than seven bits counts. -/
theorem countP_utf8EncodeChar {p : Nat → Bool} (hp : ∀ n, 128 ≤ n → p n = false) (c : Char) :
    (utf8EncodeChar c).countP (fun b => p b.toNat) = [c].countP fun c => p c.toNat := by
  rcases Nat.lt_or_ge c.toNat 128 with hlow | hhigh
  · simp [utf8EncodeChar_of_lt hlow, Nat.mod_eq_of_lt (Nat.lt_trans hlow (by decide : 128 < 256))]
  · rw [List.countP_eq_zero.2, List.countP_eq_zero.2]
    · simp [hp _ hhigh]
    · intro b hb
      simp [hp _ ((coded c).le_of_mem hhigh hb)]

theorem countP_flatMap_utf8EncodeChar {p : Nat → Bool} (hp : ∀ n, 128 ≤ n → p n = false)
    (cs : List Char) :
    (cs.flatMap utf8EncodeChar).countP (fun b => p b.toNat) = cs.countP fun c => p c.toNat := by
  induction cs with
  | nil => rfl
  | cons c cs ih =>
    rw [List.flatMap_cons, List.countP_append, ih, countP_utf8EncodeChar hp, ← List.countP_append,
      List.singleton_append]

/-! ## Reading bytes -/

theorem decodeUtf8From_flatMap (i : Nat) (cs : List Char) :
    decodeUtf8From i (cs.flatMap utf8EncodeChar) = .ok cs := by
  induction cs generalizing i with
  | nil => rfl
  | cons c cs ih =>
    rw [List.flatMap_cons, (coded c).decode, ih]
    rfl

theorem eq_flatMap_of_decodeUtf8From {i : Nat} {bytes : List UInt8} {cs : List Char}
    (h : decodeUtf8From i bytes = .ok cs) : bytes = cs.flatMap utf8EncodeChar := by
  -- the cases are those that end well, with one byte or more
  fun_induction decodeUtf8From i bytes generalizing cs with
  | case1 =>
    cases h
    rfl
  | case2 i a rest ha ih => exact (Coded.ofByte ha).flatMap_of_map h ih
  | case4 i a _ ha b rest hb ih => exact (Coded.ofTwo ha hb).flatMap_of_map h ih
  | case10 i a _ _ ha b d rest hb hd ih =>
    rw [Bool.not_eq_true', Bool.not_eq_false] at hb hd
    exact (Coded.ofThree ha hb hd).flatMap_of_map h ih
  | case17 i a _ _ _ ha b d e rest hb hd he ih =>
    rw [Bool.not_eq_true', Bool.not_eq_false] at hb hd he
    exact (Coded.ofFour ha hb hd he).flatMap_of_map h ih
  | _ => cases h

/-- Bytes are read as a text exactly if they are the bytes of the text. -/
theorem decodeUtf8_eq_ok_iff {bytes : List UInt8} {s : String} :
    decodeUtf8 bytes = .ok s ↔ bytes = encodeUtf8 s := by
  rw [encodeUtf8_eq, decodeUtf8]
  constructor
  · intro h
    cases hread : decodeUtf8From 0 bytes with
    | error f =>
      rw [hread] at h
      cases h
    | ok cs =>
      rw [hread] at h
      cases h
      rw [String.toList_ofList, eq_flatMap_of_decodeUtf8From hread]
  · rintro rfl
    rw [decodeUtf8From_flatMap]
    exact congrArg Except.ok String.ofList_toList

/-! ## Showing bytes -/

/-- A text is shown as it is. -/
theorem decodeLossy_encodeUtf8 (s : String) : decodeLossy (encodeUtf8 s) = s := by
  rw [decodeLossy, lossyFrom, encodeUtf8_eq, decodeUtf8From_flatMap, String.ofList_toList]

/-- What is read of the first bytes counts no more than these. -/
theorem countP_splitUtf8_le {p : Nat → Bool} (hp : ∀ n, 128 ≤ n → p n = false)
    {bytes : List UInt8} {f : Utf8Fault} (h : decodeUtf8From 0 bytes = .error f) :
    (splitUtf8 bytes).1.countP (fun c => p c.toNat) ≤
      (bytes.take f.index).countP fun b => p b.toNat := by
  simp only [splitUtf8, h]
  cases hread : decodeUtf8From 0 (bytes.take f.index) with
  | error _ => exact Nat.zero_le _
  | ok cs =>
    rw [eq_flatMap_of_decodeUtf8From hread, countP_flatMap_utf8EncodeChar hp]
    exact Nat.le_refl _

theorem countP_lossyFrom_le {p : Nat → Bool} (hp : ∀ n, 128 ≤ n → p n = false) (fuel : Nat)
    (bytes : List UInt8) :
    (lossyFrom fuel bytes).countP (fun c => p c.toNat) ≤ bytes.countP fun b => p b.toNat := by
  induction fuel generalizing bytes with
  | zero => exact Nat.zero_le _
  | succ fuel ih =>
    rw [lossyFrom]
    split
    · rename_i cs hread
      rw [eq_flatMap_of_decodeUtf8From hread]
      exact Nat.le_of_eq (countP_flatMap_utf8EncodeChar hp cs).symm
    · rename_i f hread
      have hfront := countP_splitUtf8_le hp hread
      have hskipped := (bytes.drop f.index).drop_sublist (f.length.getD bytes.length)
      have hback := Nat.le_trans (ih _) (hskipped.countP_le (p := fun b => p b.toNat))
      have hparts := congrArg (List.countP fun b => p b.toNat) (bytes.take_append_drop f.index)
      rw [List.countP_append] at hparts
      rw [List.countP_append, List.countP_cons_of_neg (by simp [hp]), ← List.drop_drop]
      omega

/-- Showing bytes adds no character of seven bits. -/
theorem countP_decodeLossy_le {p : Nat → Bool} (hp : ∀ n, 128 ≤ n → p n = false)
    (bytes : List UInt8) :
    (decodeLossy bytes).toList.countP (fun c => p c.toNat) ≤ bytes.countP fun b => p b.toNat := by
  rw [decodeLossy, String.toList_ofList]
  exact countP_lossyFrom_le hp _ bytes

end ChatRelay.Text
