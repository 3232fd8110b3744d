import ChatRelay.Json.Decoder
import ChatRelay.Proofs.Decimal
import ChatRelay.Proofs.Json.Text

/-!
# Values are read back

`Value.source` is what is to be read of the text of a value. It is what is read,
if the value is not too deep and holds natural numbers only (`Value.Fits`), and
nothing of the text is left (`Fits.ofChars`).

A value `ReadsBack` when its text does in front of anything that may follow an
item or a member. Lists and objects do when what they hold does.
-/

namespace ChatRelay.Json

/-- What is to be read of a number. -/
def Number.source : Number → SourceNumber
  | .whole n => if 0 ≤ n then .natural n.toNat else .negative n.natAbs
  | .double x => .double x
  | .single x => .double x.toFloat

mutual

/-- What is to be read of a value. -/
def Value.source : Value → Source
  | .null => .null
  | .bool b => .bool b
  | .number n => .number n.source
  | .text s => .text s
  | .list items => .list (itemSources items) .closed
  | .object members => .object (memberSources members) .closed

def itemSources : List Value → List Source
  | [] => []
  | v :: vs => v.source :: itemSources vs

def memberSources : List (String × Value) → List (Source × Source)
  | [] => []
  | (k, v) :: ms => (.text k, v.source) :: memberSources ms

end

/-- The value has at most so many levels of lists and objects, and no other numbers in it than
natural ones that 64 bits hold. -/
inductive Value.Fits : Nat → Value → Prop where
  | text {room : Nat} (s : String) : Fits room (.text s)
  | nat {room n : Nat} (h : n ≤ maxSignificand) : Fits room (.nat n)
  | list {room : Nat} {items : List Value} (h : ∀ v ∈ items, Fits room v) :
      Fits (room + 1) (.list items)
  | object {room : Nat} {members : List (String × Value)} (h : ∀ m ∈ members, Fits room m.2) :
      Fits (room + 1) (.object members)

/-- What may follow a value: nothing, a comma or a closing bracket. -/
def Ends (rest : List Char) : Prop := ∀ c ∈ rest.head?, c = ',' ∨ c = ']' ∨ c = '}'

theorem ends_nil : Ends [] := nofun

/-! ## Numbers -/

theorem chars_nat (n : Nat) : (Value.nat n).chars = Nat.toDigits 10 n := by
  rw [Value.nat, Value.chars, Number.chars]
  exact String.toList_ofList

/-- A number is written without a zero in front. -/
theorem head?_toDigits {n : Nat} (h : (Nat.toDigits 10 n).head? = some '0') : n = 0 := by
  induction n using Nat.strongRecOn with
  | ind n ih =>
    rcases Nat.lt_or_ge n 10 with hlt | hge
    · rw [Nat.toDigits_of_lt_base hlt, List.head?_singleton, Option.some.injEq] at h
      have hdigit : ∀ m : Fin 10, Nat.digitChar m = '0' → m.val = 0 := by decide
      exact hdigit ⟨n, hlt⟩ h
    · obtain ⟨c, cs, hcs⟩ :=
        List.exists_cons_of_ne_nil (Nat.toDigits_ne_nil (b := 10) (n := n / 10))
      rw [Nat.toDigits_of_base_le (by decide) hge, hcs] at h
      have := ih (n / 10) (by omega) (by rw [hcs]; exact h)
      omega

theorem le_foldl_digits (ds : List Char) (n : Nat) :
    n ≤ ds.foldl (fun n c => n * 10 + (c.toNat - 48)) n := by
  induction ds generalizing n with
  | nil => exact Nat.le_refl n
  | cons c ds ih =>
    have hstep : n ≤ n * 10 + (c.toNat - 48) := by omega
    exact Nat.le_trans hstep (ih _)

-- Unfolding would look at the bound of 64 bits one by one, unless the step is kept closed.
attribute [local irreducible] addDigit? in
theorem addDigits_cons (significand : Nat) (c : Char) (cs : List Char) :
    addDigits significand (c :: cs) =
      match addDigit? significand c with
      | some n => addDigits n cs
      | none => (significand, c :: cs) := by
  delta addDigits
  rfl

theorem addDigit?_eq {significand : Nat} {c : Char}
    (h : significand * 10 + (c.toNat - 48) ≤ maxSignificand) :
    addDigit? significand c = some (significand * 10 + (c.toNat - 48)) := by
  rw [addDigit?, if_pos h]

/-- Digits are added to a significand as long as it holds them. -/
theorem addDigits_eq (ds : List Char) (significand : Nat)
    (h : ds.foldl (fun n c => n * 10 + (c.toNat - 48)) significand ≤ maxSignificand) :
    addDigits significand ds = (ds.foldl (fun n c => n * 10 + (c.toNat - 48)) significand, []) := by
  induction ds generalizing significand with
  | nil => rfl
  | cons c ds ih =>
    rw [List.foldl_cons] at h ⊢
    have hle := Nat.le_trans (le_foldl_digits ds _) h
    rw [addDigits_cons, addDigit?_eq hle]
    exact ih _ h

theorem numberOfParts_toDigits {n : Nat} (h : n ≤ maxSignificand) :
    numberOfParts false (Nat.toDigits 10 n) none none false = .number (.natural n) := by
  have hadd := addDigits_eq (Nat.toDigits 10 n) 0 (by rw [foldl_toDigits]; exact h)
  rw [foldl_toDigits] at hadd
  rw [numberOfParts, hadd]
  rfl

theorem readNumber_toDigits {n : Nat} (h : n ≤ maxSignificand) {rest : List Char}
    (hrest : Ends rest) :
    readNumber false (Nat.toDigits 10 n ++ rest) = (.number (.natural n), some rest) := by
  have hdigits : ∀ c ∈ Nat.toDigits 10 n, c.isDigit = true :=
    fun c hc => Nat.isDigit_of_mem_toDigits (by decide) (by decide) hc
  have hend : ∀ c ∈ rest.head?, c.isDigit = false ∧ c ≠ '.' ∧ c ≠ 'e' ∧ c ≠ 'E' := fun c hc => by
    rcases hrest c hc with rfl | rfl | rfl <;> decide
  have htake : (Nat.toDigits 10 n ++ rest).takeWhile Char.isDigit = Nat.toDigits 10 n := by
    rw [List.takeWhile_append_of_pos hdigits]
    rcases rest with _ | ⟨c, rest⟩
    · exact List.append_nil _
    · rw [List.takeWhile_cons_of_neg (by simp [(hend c rfl).1]), List.append_nil]
  have hdrop : (Nat.toDigits 10 n ++ rest).dropWhile Char.isDigit = rest := by
    rw [List.dropWhile_append_of_pos hdigits]
    rcases rest with _ | ⟨c, rest⟩
    · rfl
    · rw [List.dropWhile_cons_of_neg (by simp [(hend c rfl).1])]
  have hparts := numberOfParts_toDigits h
  rw [readNumber, htake, hdrop]
  generalize hds : Nat.toDigits 10 n = ds at hparts
  split
  · exact absurd hds Nat.toDigits_ne_nil
  · have hzero : n = 0 := head?_toDigits (by rw [hds]; rfl)
    rw [hzero] at hds
    cases hds
  · rcases rest with _ | ⟨c, rest⟩
    · rw [← hparts]
    · obtain ⟨-, hpoint, hsmall, hlarge⟩ := hend c rfl
      split <;> simp_all

/-! ## Lists and objects -/

/-- The items behind an item, and the closing bracket. -/
def itemsRest : List Value → List Char
  | [] => [']']
  | v :: vs => ',' :: (v.chars ++ itemsRest vs)

/-- The members behind a member, and the closing brace. -/
def membersRest : List (String × Value) → List Char
  | [] => ['}']
  | (k, v) :: ms => ',' :: (quote k ++ ':' :: (v.chars ++ membersRest ms))

theorem itemsChars_cons (v : Value) (vs : List Value) :
    itemsChars (v :: vs) = v.chars ++ itemsRest vs := by
  induction vs generalizing v with
  | nil => rfl
  | cons w ws ih => rw [itemsChars, ih, itemsRest]; simp

theorem membersChars_cons (k : String) (v : Value) (ms : List (String × Value)) :
    membersChars ((k, v) :: ms) = quote k ++ ':' :: (v.chars ++ membersRest ms) := by
  induction ms generalizing k v with
  | nil => simp [membersChars, membersRest]
  | cons m ms ih =>
    obtain ⟨k', v'⟩ := m
    rw [membersChars, ih, membersRest]
    · simp only [List.append_assoc, List.cons_append]
    · exact nofun

/-- The text of a value is read as this value, whatever may follow it. -/
structure ReadsBack (v : Value) : Prop where
  starts : ∃ c cs, v.chars = c :: cs ∧ isBlank c = false ∧ c ≠ ']'
  reads : ∀ fuel rest, 3 * v.chars.length ≤ fuel → Ends rest →
    readValue fuel (v.chars ++ rest) = (v.source, some rest)

theorem skipBlanks_cons {c : Char} (h : isBlank c = false) (cs : List Char) :
    skipBlanks (c :: cs) = c :: cs :=
  List.dropWhile_cons_of_neg (by simp [h])

theorem readItems_closed (fuel : Nat) (first : Bool) (cs : List Char) :
    readItems (fuel + 1) first (']' :: cs) = (([], .closed), some cs) := by
  simp [readItems, skipBlanks_cons (c := ']') rfl]

theorem readItems_first {c : Char} (hblank : isBlank c = false) (hbracket : c ≠ ']') (fuel : Nat)
    (cs : List Char) : readItems (fuel + 1) true (c :: cs) = readItem fuel (c :: cs) := by
  simp [readItems, skipBlanks_cons hblank, hbracket]

theorem readItems_comma {c : Char} (hblank : isBlank c = false) (hbracket : c ≠ ']') (fuel : Nat)
    (cs : List Char) : readItems (fuel + 1) false (',' :: c :: cs) = readItem fuel (c :: cs) := by
  simp [readItems, skipBlanks_cons (c := ',') rfl, skipBlanks_cons hblank, hbracket]

theorem readMembers_closed (fuel : Nat) (first : Bool) (cs : List Char) :
    readMembers (fuel + 1) first ('}' :: cs) = (([], .closed), some cs) := by
  simp [readMembers, skipBlanks_cons (c := '}') rfl]

theorem readMembers_first (fuel : Nat) (cs : List Char) :
    readMembers (fuel + 1) true ('"' :: cs) = readMember fuel cs := by
  simp [readMembers, skipBlanks_cons (c := '"') rfl]

theorem readMembers_comma (fuel : Nat) (cs : List Char) :
    readMembers (fuel + 1) false (',' :: '"' :: cs) = readMember fuel cs := by
  simp [readMembers, skipBlanks_cons (c := ',') rfl, skipBlanks_cons (c := '"') rfl]

theorem readValue_text (fuel : Nat) (cs : List Char) :
    readValue (fuel + 1) ('"' :: cs) = readText cs := by
  simp [readValue, skipBlanks_cons (c := '"') rfl]

theorem readValue_list (fuel : Nat) (cs : List Char) :
    readValue (fuel + 1) ('[' :: cs) =
      (.list (readItems fuel true cs).1.1 (readItems fuel true cs).1.2,
        (readItems fuel true cs).2) := by
  simp [readValue, skipBlanks_cons (c := '[') rfl]

theorem readValue_object (fuel : Nat) (cs : List Char) :
    readValue (fuel + 1) ('\x7b' :: cs) =
      (.object (readMembers fuel true cs).1.1 (readMembers fuel true cs).1.2,
        (readMembers fuel true cs).2) := by
  simp [readValue, skipBlanks_cons (c := '\x7b') rfl]

theorem not_blank_of_isDigit {c : Char} (h : c.isDigit = true) : isBlank c = false ∧ c ≠ ']' := by
  simp only [isBlank, Bool.or_eq_false_iff, beq_eq_false_iff_ne]
  refine ⟨⟨⟨⟨?_, ?_⟩, ?_⟩, ?_⟩, ?_⟩ <;> rintro rfl <;> cases h

theorem readValue_digit {c : Char} (h : c.isDigit = true) (fuel : Nat) (cs : List Char) :
    readValue (fuel + 1) (c :: cs) = readNumber false (c :: cs) := by
  rw [readValue.eq_def]
  dsimp only
  rw [skipBlanks_cons (not_blank_of_isDigit h).1]
  split <;> simp_all

theorem length_itemsRest_pos (items : List Value) : 0 < (itemsRest items).length := by
  cases items <;> exact Nat.zero_lt_succ _

theorem ends_itemsRest (items : List Value) (rest : List Char) :
    Ends (itemsRest items ++ rest) := by
  cases items with
  | nil =>
    rintro c ⟨⟩
    exact .inr (.inl rfl)
  | cons v vs =>
    rintro c ⟨⟩
    exact .inl rfl

theorem ends_membersRest (members : List (String × Value)) (rest : List Char) :
    Ends (membersRest members ++ rest) := by
  cases members with
  | nil =>
    rintro c ⟨⟩
    exact .inr (.inr rfl)
  | cons m ms =>
    rintro c ⟨⟩
    exact .inl rfl

/-- An item is read, and the items behind it. -/
theorem readItem_eq {v : Value} {cs : List Char} (h : ReadsBack v) (fuel : Nat)
    (hfuel : 3 * v.chars.length ≤ fuel) (hends : Ends cs) :
    readItem (fuel + 1) (v.chars ++ cs) =
      ((v.source :: (readItems fuel false cs).1.1, (readItems fuel false cs).1.2),
        (readItems fuel false cs).2) := by
  rw [readItem, h.reads fuel cs hfuel hends]

theorem readItems_rest {items : List Value} (h : ∀ v ∈ items, ReadsBack v) {fuel : Nat}
    (rest : List Char) (hfuel : 3 * (itemsRest items).length ≤ fuel) :
    readItems fuel false (itemsRest items ++ rest) = ((itemSources items, .closed), some rest) := by
  induction items generalizing fuel with
  | nil =>
    obtain ⟨fuel, rfl⟩ := Nat.exists_eq_add_of_le' (Nat.le_trans (by decide : 1 ≤ 3) hfuel)
    exact readItems_closed fuel false rest
  | cons v vs ih =>
    obtain ⟨hv, hvs⟩ := List.forall_mem_cons.1 h
    simp only [itemsRest, List.length_cons, List.length_append] at hfuel
    obtain ⟨fuel, rfl⟩ := Nat.exists_eq_add_of_le' (show 2 ≤ fuel by omega)
    obtain ⟨c, cs, hcs, hblank, hbracket⟩ := hv.starts
    have hlength : 0 < v.chars.length := by simp [hcs]
    have hitem := readItem_eq hv fuel (by omega) (ends_itemsRest vs rest)
    rw [ih hvs (by omega)] at hitem
    rw [itemsRest, List.cons_append, List.append_assoc, itemSources, ← hitem, hcs, List.cons_append,
      readItems_comma hblank hbracket]

/-- The items of a list are read one by one, by induction on the items. -/
theorem readItems_itemsChars {items : List Value} (h : ∀ v ∈ items, ReadsBack v) {fuel : Nat}
    (rest : List Char) (hfuel : 3 * (itemsChars items).length ≤ fuel) :
    readItems fuel true (itemsChars items ++ rest) = ((itemSources items, .closed), some rest) := by
  cases items with
  | nil =>
    obtain ⟨fuel, rfl⟩ := Nat.exists_eq_add_of_le' (Nat.le_trans (by decide : 1 ≤ 3) hfuel)
    exact readItems_closed fuel true rest
  | cons v vs =>
    obtain ⟨hv, hvs⟩ := List.forall_mem_cons.1 h
    rw [itemsChars_cons, List.length_append] at hfuel
    obtain ⟨c, cs, hcs, hblank, hbracket⟩ := hv.starts
    have hlength : 0 < v.chars.length := by simp [hcs]
    obtain ⟨fuel, rfl⟩ := Nat.exists_eq_add_of_le' (show 2 ≤ fuel by omega)
    have hlast := length_itemsRest_pos vs
    have hitem := readItem_eq hv fuel (by omega) (ends_itemsRest vs rest)
    rw [readItems_rest hvs rest (by omega)] at hitem
    rw [itemsChars_cons, List.append_assoc, itemSources, ← hitem, hcs, List.cons_append,
      readItems_first hblank hbracket]

theorem quote_append (k : String) (cs : List Char) :
    quote k ++ cs = '"' :: (k.toList.flatMap escape ++ '"' :: cs) := by
  simp [quote]

/-- A member is read, and the members behind it. -/
theorem readMember_eq (k : String) {v : Value} {cs : List Char} (h : ReadsBack v) (fuel : Nat)
    (hfuel : 3 * v.chars.length ≤ fuel) (hends : Ends cs) :
    readMember (fuel + 1) (k.toList.flatMap escape ++ '"' :: ':' :: (v.chars ++ cs)) =
      (((.text k, v.source) :: (readMembers fuel false cs).1.1, (readMembers fuel false cs).1.2),
        (readMembers fuel false cs).2) := by
  simp only [readMember, readText_quote, skipBlanks_cons (c := ':') rfl,
    h.reads fuel cs hfuel hends]

theorem readMembers_rest {members : List (String × Value)} (h : ∀ m ∈ members, ReadsBack m.2)
    {fuel : Nat} (rest : List Char) (hfuel : 3 * (membersRest members).length ≤ fuel) :
    readMembers fuel false (membersRest members ++ rest) =
      ((memberSources members, .closed), some rest) := by
  induction members generalizing fuel with
  | nil =>
    obtain ⟨fuel, rfl⟩ := Nat.exists_eq_add_of_le' (Nat.le_trans (by decide : 1 ≤ 3) hfuel)
    exact readMembers_closed fuel false rest
  | cons m ms ih =>
    obtain ⟨k, v⟩ := m
    obtain ⟨(hv : ReadsBack v), hms⟩ := List.forall_mem_cons.1 h
    simp only [membersRest, quote_append, List.length_cons, List.length_append] at hfuel
    obtain ⟨fuel, rfl⟩ := Nat.exists_eq_add_of_le' (show 2 ≤ fuel by omega)
    have hmember := readMember_eq k hv fuel (by omega) (ends_membersRest ms rest)
    rw [ih hms (by omega)] at hmember
    rw [membersRest, List.cons_append, List.append_assoc, quote_append, List.cons_append,
      List.append_assoc, memberSources, ← hmember, readMembers_comma]

/-- The members of an object are read one by one, by induction on the members. -/
theorem readMembers_membersChars {members : List (String × Value)}
    (h : ∀ m ∈ members, ReadsBack m.2) {fuel : Nat} (rest : List Char)
    (hfuel : 3 * (membersChars members).length ≤ fuel) :
    readMembers fuel true (membersChars members ++ rest) =
      ((memberSources members, .closed), some rest) := by
  cases members with
  | nil =>
    obtain ⟨fuel, rfl⟩ := Nat.exists_eq_add_of_le' (Nat.le_trans (by decide : 1 ≤ 3) hfuel)
    exact readMembers_closed fuel true rest
  | cons m ms =>
    obtain ⟨k, v⟩ := m
    obtain ⟨(hv : ReadsBack v), hms⟩ := List.forall_mem_cons.1 h
    rw [membersChars_cons, quote_append] at hfuel ⊢
    simp only [List.length_cons, List.length_append] at hfuel
    obtain ⟨fuel, rfl⟩ := Nat.exists_eq_add_of_le' (show 2 ≤ fuel by omega)
    have hmember := readMember_eq k hv fuel (by omega) (ends_membersRest ms rest)
    rw [readMembers_rest hms rest (by omega)] at hmember
    rw [List.cons_append, List.append_assoc, List.cons_append, List.cons_append, List.append_assoc,
      memberSources, ← hmember, readMembers_first]

/-! ## Whole values -/

/-- A value that is not too deep is read back, by induction on its levels. -/
theorem Value.Fits.readsBack {room : Nat} {v : Value} (h : v.Fits room) : ReadsBack v := by
  induction h with
  | text s =>
    have hchars : (Value.text s).chars = '"' :: (s.toList.flatMap escape ++ ['"']) := rfl
    refine ⟨⟨_, _, hchars, rfl, by decide⟩, fun fuel rest hfuel _ => ?_⟩
    rw [hchars, List.length_cons] at hfuel
    obtain ⟨fuel, rfl⟩ := Nat.exists_eq_add_of_le' (show 1 ≤ fuel by omega)
    rw [Value.chars, quote_append, readValue_text, readText_quote]
    rfl
  | @nat _ n h =>
    obtain ⟨c, cs, hcs⟩ := List.exists_cons_of_ne_nil (Nat.toDigits_ne_nil (b := 10) (n := n))
    have hdigit : c.isDigit = true :=
      Nat.isDigit_of_mem_toDigits (by decide) (by decide) (hcs ▸ List.mem_cons_self)
    have hblank : isBlank c = false ∧ c ≠ ']' := not_blank_of_isDigit hdigit
    refine ⟨⟨c, cs, (chars_nat n).trans hcs, hblank⟩, fun fuel rest hfuel hends => ?_⟩
    rw [chars_nat, hcs, List.length_cons] at hfuel
    obtain ⟨fuel, rfl⟩ := Nat.exists_eq_add_of_le' (show 1 ≤ fuel by omega)
    rw [chars_nat, hcs, List.cons_append, readValue_digit hdigit, ← List.cons_append, ← hcs,
      readNumber_toDigits h hends]
    rfl
  | @list _ items _ ih =>
    refine ⟨⟨'[', itemsChars items, rfl, rfl, by decide⟩, fun fuel rest hfuel _ => ?_⟩
    rw [Value.chars, List.length_cons] at hfuel
    obtain ⟨fuel, rfl⟩ := Nat.exists_eq_add_of_le' (show 1 ≤ fuel by omega)
    rw [Value.chars, List.cons_append, readValue_list, readItems_itemsChars ih rest (by omega)]
    rfl
  | @object _ members _ ih =>
    refine ⟨⟨'\x7b', membersChars members, rfl, rfl, by decide⟩, fun fuel rest hfuel _ => ?_⟩
    rw [Value.chars, List.length_cons] at hfuel
    obtain ⟨fuel, rfl⟩ := Nat.exists_eq_add_of_le' (show 1 ≤ fuel by omega)
    rw [Value.chars, List.cons_append, readValue_object,
      readMembers_membersChars ih rest (by omega)]
    rfl

/-- The whole text of a value is read as this value. -/
theorem Value.Fits.ofChars {room : Nat} {v : Value} (h : v.Fits room) :
    Source.ofChars v.chars = (v.source, some []) := by
  have hread := h.readsBack.reads (3 * v.chars.length + 3) [] (Nat.le_add_right _ _) ends_nil
  rwa [List.append_nil] at hread

end ChatRelay.Json
