import ChatRelay.Proofs.Text.WhiteSpace
import Mathlib.Data.List.DropRight

/-!
# The ends of a text

`Stripped p cs rest` says that `rest` is left of `cs` when all characters of a class are
taken off at both ends. This is what trimming does (`trim_stripped`), and every other
way of dropping characters from the front and then from the end (`stripped_dropWhile`).
-/

namespace ChatRelay.Text

variable {p : Char → Bool} {cs rest : List Char}

/-- The text begins with a character of a class. -/
def begins (p : Char → Bool) (cs : List Char) : Bool := cs.head?.any p

/-- The text ends with a character of a class. -/
def ends (p : Char → Bool) (cs : List Char) : Bool := cs.getLast?.any p

@[simp] theorem begins_nil : begins p [] = false := rfl

@[simp] theorem ends_nil : ends p [] = false := rfl

@[simp] theorem begins_cons (c : Char) : begins p (c :: cs) = p c := rfl

@[simp] theorem ends_concat (c : Char) : ends p (cs ++ [c]) = p c := by
  rw [ends, List.getLast?_concat, Option.any_some]

/-- A text begins like every part of it that stands in front and is not empty. -/
theorem begins_of_isPrefix (h : rest <+: cs) (hrest : rest ≠ []) : begins p rest = begins p cs := by
  obtain ⟨tail, rfl⟩ := h
  obtain ⟨c, front, rfl⟩ := List.exists_cons_of_ne_nil hrest
  rfl

/-- What is left of a text without the characters of a class at either end. -/
structure Stripped (p : Char → Bool) (cs rest : List Char) : Prop where
  parts : ∃ front back, cs = front ++ rest ++ back ∧ front.all p = true ∧ back.all p = true
  front : begins p rest = false
  back : ends p rest = false

theorem Stripped.isInfix (h : Stripped p cs rest) : rest <:+: cs := by
  obtain ⟨front, back, rfl, -, -⟩ := h.parts
  exact ⟨front, back, rfl⟩

theorem ends_rdropWhile (p : Char → Bool) (cs : List Char) : ends p (cs.rdropWhile p) = false := by
  rcases List.eq_nil_or_concat (cs.rdropWhile p) with hnil | ⟨front, c, hconcat⟩
  · rw [hnil, ends_nil]
  · have hlast := List.rdropWhile_last_not p cs (by simp [hconcat])
    simpa [hconcat] using hlast

theorem begins_dropWhile (p : Char → Bool) (cs : List Char) :
    begins p (cs.dropWhile p) = false := by
  have hhead := List.head?_dropWhile_not p cs
  rw [begins]
  cases h : (cs.dropWhile p).head? with
  | none => rfl
  | some c => simpa [h] using hhead

/-- Dropping from the front and then from the end leaves nothing of the class at either. -/
theorem stripped_dropWhile (p : Char → Bool) (cs : List Char) :
    Stripped p cs ((cs.dropWhile p).rdropWhile p) where
  parts := by
    refine ⟨cs.takeWhile p, (cs.dropWhile p).rtakeWhile p, ?_, List.all_takeWhile, ?_⟩
    · rw [List.append_assoc, List.rdropWhile_append_rtakeWhile, List.takeWhile_append_dropWhile]
    · rw [List.rtakeWhile, List.all_reverse, List.all_takeWhile]
  front := by
    by_cases hnil : (cs.dropWhile p).rdropWhile p = []
    · rw [hnil, begins_nil]
    · rw [begins_of_isPrefix (List.rdropWhile_prefix p _) hnil, begins_dropWhile]
  back := ends_rdropWhile p _

/-! ## Blanks -/

/-- What is cut off at the end is what is dropped there, by induction from the end. -/
theorem trimEnd_eq_rdropWhile (cs : List Char) : trimEnd cs = cs.rdropWhile isWhiteSpace := by
  induction cs using List.reverseRecOn with
  | nil => rfl
  | append_singleton cs c ih =>
    rw [trimEnd_append, List.rdropWhile_concat, ← ih]
    by_cases hc : isWhiteSpace c = true <;> simp [trimEnd, hc]

theorem ends_trimEnd (cs : List Char) : ends isWhiteSpace (trimEnd cs) = false := by
  rw [trimEnd_eq_rdropWhile, ends_rdropWhile]

theorem trim_stripped (cs : List Char) : Stripped isWhiteSpace cs (trim cs) := by
  rw [trim, trimStart, trimEnd_eq_rdropWhile]
  exact stripped_dropWhile isWhiteSpace cs

/-- A text that does not begin with a blank does not become empty at its end. -/
theorem trimEnd_ne_nil (hcs : cs ≠ []) (h : begins isWhiteSpace cs = false) : trimEnd cs ≠ [] := by
  obtain ⟨c, cs, rfl⟩ := List.exists_cons_of_ne_nil hcs
  rw [begins_cons] at h
  rw [ne_eq, trimEnd_eq_nil_iff, List.all_cons, h]
  exact Bool.false_ne_true

end ChatRelay.Text
