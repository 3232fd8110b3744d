import ChatRelay.Proofs.Decimal
import ChatRelay.Time.Reader

/-!
# Numbers of a fixed width

`paddedDigits` writes a number with a fixed number of digits, which `readNumber`
reads back (`readNumber_paddedDigits`).
-/

namespace ChatRelay

theorem ok_bind {ε α β : Type} (a : α) (f : α → Except ε β) : (Except.ok a >>= f) = f a := rfl

namespace Time

theorem numberOfDigits_append (ds ds' : List Char) :
    numberOfDigits (ds ++ ds') =
      ds'.foldl (fun n c => n * 10 + (c.toNat - 48)) (numberOfDigits ds) :=
  List.foldl_append

theorem numberOfDigits_paddedDigits (width n : Nat) :
    numberOfDigits (paddedDigits width n) = n := by
  have hzeros : ∀ k, numberOfDigits (List.replicate k '0') = 0 := fun k => by
    induction k with
    | zero => rfl
    | succ k ih => rw [List.replicate_succ', numberOfDigits_append, ih]; rfl
  rw [paddedDigits, numberOfDigits_append, hzeros]
  exact foldl_toDigits n

/-- Digits are read up to the first character that is none, or up to the greatest number of them. -/
theorem readDigits_append {least most : Nat} {ds cs : List Char}
    (hdigits : ∀ c ∈ ds, c.isDigit = true) (hleast : least ≤ ds.length) (hmost : ds.length ≤ most)
    (hend : ∀ c ∈ (cs.take (most - ds.length)).head?, c.isDigit = false) :
    readDigits least most (ds ++ cs) = .ok (ds, cs) := by
  have htake : ((ds ++ cs).take most).takeWhile Char.isDigit = ds := by
    rw [List.take_append, List.take_of_length_le hmost, List.takeWhile_append_of_pos hdigits]
    rcases hrest : cs.take (most - ds.length) with _ | ⟨c, rest⟩
    · exact List.append_nil ds
    · have hc := hend c (by rw [hrest]; rfl)
      rw [List.takeWhile_cons_of_neg (by simp [hc]), List.append_nil]
  rw [readDigits, htake, if_pos hleast, List.drop_left]

/-- A number is read back where no more digits are read than it has, and fewer might do. -/
theorem readNumber_paddedDigits_of_le {least : Nat} (width : Nat) {n : Nat} (hwidth : 0 < width)
    (hleast : least ≤ width) (h : n < Nat.pow 10 width) (cs : List Char) :
    readNumber least width (paddedDigits width n ++ cs) = .ok (n, cs) := by
  have hlength := length_paddedDigits width hwidth h
  have hread : readDigits least width (paddedDigits width n ++ cs) =
      .ok (paddedDigits width n, cs) :=
    readDigits_append (fun _ => isDigit_of_mem_paddedDigits) (hlength.symm ▸ hleast)
      (Nat.le_of_eq hlength) (by simp [hlength])
  rw [readNumber, hread]
  exact congrArg (fun n => Except.ok (n, cs)) (numberOfDigits_paddedDigits width n)

theorem readNumber_paddedDigits (width : Nat) {n : Nat} (hwidth : 0 < width)
    (h : n < Nat.pow 10 width) (cs : List Char) :
    readNumber width width (paddedDigits width n ++ cs) = .ok (n, cs) :=
  readNumber_paddedDigits_of_le width hwidth (Nat.le_refl _) h cs

end Time

end ChatRelay
