import ChatRelay.Json.Source

/-!
# Texts are read back

A text in quotation marks is read as the same text (`readText_quote`). Every
character of it is read as one unit (`readUnits_escape`). Most control characters
come as the number of a code unit, and none of these is a surrogate.
-/

namespace ChatRelay.Json

/-- The unit that a character is read as behind its escape. -/
def unitOf (c : Char) : TextUnit :=
  if c.toNat < 0x20 ∧ c ≠ '\n' ∧ c ≠ '\r' ∧ c ≠ '\t' ∧ c.toNat ≠ 8 ∧ c.toNat ≠ 12 then
    .code c.toNat
  else .char c

/-- How a character is written: behind a backslash as a letter or as a number, or as it is. -/
inductive Escaped (c : Char) : Prop where
  | letter (l : Char) (hescape : escape c = ['\\', l]) (hread : unescape? l = some c)
      (hletter : l ≠ 'u') (hunit : unitOf c = .char c)
  | code (hlow : c.toNat < 0x20)
      (hescape : escape c =
        ['\\', 'u', '0', '0', Text.hexDigit (c.toNat / 16), Text.hexDigit (c.toNat % 16)])
      (hunit : unitOf c = .code c.toNat)
  | plain (hescape : escape c = [c]) (hquote : c ≠ '"') (hslash : c ≠ '\\')
      (hhigh : ¬ c.toNat < 0x20) (hunit : unitOf c = .char c)

theorem ofNat_eq {c : Char} {n : Nat} (h : c.toNat = n) : Char.ofNat n = c := by
  rw [← h, Char.ofNat_toNat]

theorem escaped (c : Char) : Escaped c := by
  by_cases hquote : c = '"'
  · subst hquote
    exact .letter '"' rfl rfl (by decide) rfl
  by_cases hslash : c = '\\'
  · subst hslash
    exact .letter '\\' rfl rfl (by decide) rfl
  by_cases hfeed : c = '\n'
  · subst hfeed
    exact .letter 'n' rfl rfl (by decide) rfl
  by_cases hreturn : c = '\r'
  · subst hreturn
    exact .letter 'r' rfl rfl (by decide) rfl
  by_cases htab : c = '\t'
  · subst htab
    exact .letter 't' rfl rfl (by decide) rfl
  by_cases hback : c.toNat = 8
  · obtain rfl := ofNat_eq hback
    exact .letter 'b' rfl rfl (by decide) rfl
  by_cases hform : c.toNat = 12
  · obtain rfl := ofNat_eq hform
    exact .letter 'f' rfl rfl (by decide) rfl
  by_cases hlow : c.toNat < 0x20
  · exact .code hlow (by simp [escape, *]) (by simp [unitOf, *])
  · exact .plain (by simp [escape, *]) hquote hslash hlow (by simp [unitOf, *])

/-! ## Reading units -/

theorem hexCode?_eq {n : Nat} (h : n < 0x20) :
    hexCode? '0' '0' (Text.hexDigit (n / 16)) (Text.hexDigit (n % 16)) = some n := by
  have : ∀ m : Fin 0x20, hexCode? '0' '0' (Text.hexDigit (m / 16)) (Text.hexDigit (m % 16)) =
      some m.val := by decide
  exact this ⟨n, h⟩

/-- Every character is read as one unit. -/
theorem readUnits_escape (c : Char) (cs : List Char) :
    readUnits (escape c ++ cs) = (unitOf c :: (readUnits cs).1, (readUnits cs).2) := by
  cases escaped c with
  | letter l hescape hread hletter hunit =>
    rw [hescape, hunit]
    simp [readUnits, hletter, hread]
  | code hlow hescape hunit =>
    rw [hescape, hunit]
    show readUnits ('\\' :: 'u' :: '0' :: '0' :: _ :: _ :: cs) = _
    rw [readUnits, hexCode?_eq hlow]
  | plain hescape hquote hslash hhigh hunit =>
    rw [hescape, hunit, List.singleton_append, readUnits.eq_def]
    split <;> simp_all

/-- So the units of a text are those of its characters. -/
theorem readUnits_flatMap_escape (cs rest : List Char) :
    readUnits (cs.flatMap escape ++ '"' :: rest) = (cs.map unitOf, .ok rest) := by
  induction cs with
  | nil => rfl
  | cons c cs ih => rw [List.flatMap_cons, List.append_assoc, readUnits_escape, ih, List.map_cons]

/-! ## Joining units -/

theorem not_surrogate {n : Nat} (h : n < 0x20) : isLeading n = false ∧ isTrailing n = false := by
  simp only [isLeading, isTrailing, Bool.and_eq_false_iff, decide_eq_false_iff_not]
  omega

/-- A unit that is no surrogate stands for its character. -/
theorem joinUnits_unitOf (atEnd : Fault) (c : Char) (units : List TextUnit) :
    joinUnits atEnd (unitOf c :: units) = (joinUnits atEnd units).map (c :: ·) := by
  cases escaped c with
  | letter l _ _ _ hunit => rw [hunit, joinUnits]
  | plain _ _ _ _ hunit => rw [hunit, joinUnits]
  | code hlow _ hunit =>
    obtain ⟨hleading, htrailing⟩ := not_surrogate hlow
    rw [hunit]
    rcases units with _ | ⟨_ | _, units⟩ <;>
      simp [joinUnits, hleading, htrailing, Char.ofNat_toNat, Except.map]

theorem joinUnits_map_unitOf (atEnd : Fault) (cs : List Char) :
    joinUnits atEnd (cs.map unitOf) = .ok cs := by
  induction cs with
  | nil => rfl
  | cons c cs ih =>
    rw [List.map_cons, joinUnits_unitOf, ih]
    rfl

/-- A text in quotation marks is read as the same text. -/
theorem readText_quote (s : String) (rest : List Char) :
    readText (s.toList.flatMap escape ++ '"' :: rest) = (.text s, some rest) := by
  simp only [readText, readUnits_flatMap_escape, joinUnits_map_unitOf, String.ofList_toList]

end ChatRelay.Json
