/-!
# White space

The Unicode property `White_Space` and the three ways of cutting it off a
text. Every function here works on the characters of a text; `trimText` is
the one most callers want.

* `trim_eq`: trimming is cutting the front, then the end;
* `trimEnd_append_of_blank`: blank text at the end makes no difference.
-/

namespace ChatRelay.Text

/-- The characters with the property `White_Space`. -/
def isWhiteSpace (c : Char) : Bool :=
  let n := c.toNat
  (9 ≤ n && n ≤ 13) || n == 0x20 || n == 0x85 || n == 0xA0 || n == 0x1680 ||
    (0x2000 ≤ n && n ≤ 0x200A) || n == 0x2028 || n == 0x2029 || n == 0x202F || n == 0x205F ||
    n == 0x3000

/-- The text from its first character that is not blank. -/
def trimStart (cs : List Char) : List Char :=
  cs.dropWhile isWhiteSpace

/-- The text up to its last character that is not blank. -/
def trimEnd : List Char → List Char
  | [] => []
  | c :: cs =>
    match trimEnd cs with
    | [] => if isWhiteSpace c then [] else [c]
    | d :: ds => c :: d :: ds

/-- The text without blank characters at either end. -/
def trim (cs : List Char) : List Char :=
  trimEnd (trimStart cs)

/-- The text without blank characters at either end. -/
def trimText (s : String) : String :=
  String.ofList (trim s.toList)

/-- A text of blank characters only; the empty text is one. -/
def isBlank (s : String) : Bool :=
  s.toList.all isWhiteSpace

theorem trim_eq (cs : List Char) : trim cs = trimEnd (cs.dropWhile isWhiteSpace) := rfl

theorem trimEnd_eq_nil_iff (cs : List Char) : trimEnd cs = [] ↔ cs.all isWhiteSpace = true := by
  induction cs with
  | nil => simp [trimEnd]
  | cons c cs ih =>
    simp only [trimEnd, List.all_cons, Bool.and_eq_true]
    cases h : trimEnd cs with
    | nil =>
      have := ih.1 h
      by_cases hc : isWhiteSpace c = true <;> simp [hc, this]
    | cons d ds =>
      have : ¬ cs.all isWhiteSpace = true := fun hall => by simp [ih.2 hall] at h
      simp [this]

theorem trimEnd_append_of_blank (cs : List Char) {ws : List Char}
    (h : ws.all isWhiteSpace = true) : trimEnd (cs ++ ws) = trimEnd cs := by
  induction cs with
  | nil => simpa [trimEnd] using (trimEnd_eq_nil_iff ws).2 h
  | cons c cs ih => simp [trimEnd, ih]

end ChatRelay.Text
