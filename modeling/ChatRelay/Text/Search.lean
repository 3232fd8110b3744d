/-!
# Searching a text

Where a fixed text occurs first, and what stands before and behind it.

* `splitAtFirst_eq_some`: the parts of a split are the parts of the text.
-/

namespace ChatRelay.Text

/-- The number of bytes of a text in UTF-8. -/
def byteLength : List Char → Nat
  | [] => 0
  | c :: cs => c.utf8Size + byteLength cs

/-- The rest of a text behind a text that it begins with. -/
def stripStart? : List Char → List Char → Option (List Char)
  | [], rest => some rest
  | _ :: _, [] => none
  | p :: ps, c :: cs => if p = c then stripStart? ps cs else none

/-- The parts of a text before and behind the first place where `pattern` occurs. -/
def splitAtFirst (pattern : List Char) : List Char → Option (List Char × List Char)
  | [] => (stripStart? pattern []).map ([], ·)
  | c :: cs =>
    match stripStart? pattern (c :: cs) with
    | some rest => some ([], rest)
    | none => (splitAtFirst pattern cs).map fun (before, rest) => (c :: before, rest)

/-- Whether `pattern` occurs in a text. -/
def occursIn (pattern text : List Char) : Bool :=
  (splitAtFirst pattern text).isSome

/-- The rest of a text behind a text that it begins with. -/
def stripTextStart? (start s : String) : Option String :=
  (stripStart? start.toList s.toList).map String.ofList

/-- The parts of a text at the separator `sep`; there is always at least one. -/
def splitOnChar (sep : Char) : List Char → List (List Char)
  | [] => [[]]
  | c :: cs =>
    match splitOnChar sep cs with
    | [] => [[c]]
    | part :: parts => if c = sep then [] :: part :: parts else (c :: part) :: parts

theorem stripStart?_eq_some {p cs rest : List Char} :
    stripStart? p cs = some rest ↔ cs = p ++ rest := by
  induction p generalizing cs with
  | nil => simp [stripStart?, eq_comm]
  | cons a p ih =>
    cases cs with
    | nil => simp [stripStart?]
    | cons c cs =>
      by_cases h : a = c <;> simp [stripStart?, h, ih]
      intro hc
      exact absurd hc.symm h

theorem splitAtFirst_eq_some {p cs before rest : List Char}
    (h : splitAtFirst p cs = some (before, rest)) : cs = before ++ p ++ rest := by
  induction cs generalizing before with
  | nil =>
    cases p with
    | nil => simp_all [splitAtFirst, stripStart?]
    | cons a p => simp [splitAtFirst, stripStart?] at h
  | cons c cs ih =>
    simp only [splitAtFirst] at h
    split at h
    · next r hr =>
      obtain ⟨rfl, rfl⟩ : [] = before ∧ r = rest := by simpa using h
      simpa using stripStart?_eq_some.1 hr
    · next hr =>
      obtain ⟨⟨b, r⟩, hb, hbr⟩ := Option.map_eq_some_iff.1 h
      obtain ⟨rfl, rfl⟩ : c :: b = before ∧ r = rest := by simpa using hbr
      simp [ih hb]

end ChatRelay.Text
