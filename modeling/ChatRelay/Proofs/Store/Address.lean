import ChatRelay.Proofs.Http.Escape

/-!
# Addresses of databases

An address of a database spells the path of a file: behind the scheme and pairs of
slashes, in front of a question mark, with escapes. `Reads` says what is known of the
readers of addresses. What stands behind the question mark of an address is no part of
the path (`path_eq`), and pairs of slashes have to do with nothing but the question
whether the path is absolute (`head?_dropPairs`, `namesOf_dropPairs`).
-/

namespace ChatRelay.Address

open ChatRelay.Path (textWeight)
open String (utf8EncodeChar)

/-- Takes pairs of slashes off the front. -/
def dropPairs : List Char → List Char
  | '/' :: '/' :: cs => dropPairs cs
  | cs => cs

/-- What stands in an address behind the scheme and pairs of slashes. -/
def body (address : String) : List Char :=
  dropPairs ((Text.stripStart? "sqlite:".toList address.toList).getD address.toList)

/-- The path that an address spells. It stands in front of the first question mark. -/
def path (address : String) : Path :=
  ⟨Http.percentDecode ((body address).takeWhile (· != '?'))⟩

/-- What stands in an address behind the first question mark. -/
def parameters (address : String) : List Char :=
  ((body address).dropWhile (· != '?')).drop 1

/-- What is known of a reader of addresses, which gives the file to open. -/
structure Reads (file? : String → Option Path) : Prop where
  /-- The file is the one that the address spells. -/
  eq_path {address : String} {file : Path} (h : file? address = some file) : file = path address
  /-- An address is read that spells a path of text, other than the one for a database without a
  file, and asks for nothing but that the file be made if it is not there. -/
  isSome {address : String} (htext : Text.IsUtf8 (path address).bytes)
      (hfile : path address ≠ .ofText ":memory:")
      (hmode : parameters address = "mode=rwc".toList) : (file? address).isSome

/-- Reads the addresses that every reader reads. -/
def plainFile? (address : String) : Option Path :=
  if (path address).text?.isSome ∧ path address ≠ .ofText ":memory:" ∧
      parameters address = "mode=rwc".toList then some (path address)
  else none

theorem reads_plainFile? : Reads plainFile? where
  eq_path h := by
    rw [plainFile?] at h
    split at h
    · exact (Option.some.inj h).symm
    · cases h
  isSome {address} htext hfile hmode := by
    have hread : (path address).text?.isSome = true := by
      rw [Path.eq_ofText_shown htext, Path.text?_ofText, Option.isSome_some]
    rw [plainFile?, if_pos ⟨hread, hfile, hmode⟩, Option.isSome_some]

/-- How many slashes a text begins with. -/
def leadingSlashes (cs : List Char) : Nat := (cs.takeWhile (· == '/')).length

theorem dropPairs_append_query (front query : List Char) :
    dropPairs (front ++ '?' :: query) = dropPairs front ++ '?' :: query := by
  fun_induction dropPairs front with
  | case1 cs ih => exact ih
  | case2 cs hplain =>
    refine dropPairs.eq_2 _ fun rest heq => ?_
    match cs with
    | [] => simp at heq
    | [c] => simp at heq
    | c :: d :: cs =>
      simp only [List.cons_append, List.cons.injEq] at heq
      exact hplain cs (by rw [heq.1, heq.2.1])

/-- An odd number of slashes leaves one. -/
theorem head?_dropPairs (cs : List Char) :
    (dropPairs cs).head? = some '/' ↔ leadingSlashes cs % 2 = 1 := by
  fun_induction dropPairs cs with
  | case1 cs ih =>
    have hslashes : leadingSlashes ('/' :: '/' :: cs) = leadingSlashes cs + 2 := by
      simp [leadingSlashes]
    rw [ih, hslashes, Nat.add_mod_right]
  | case2 cs hplain =>
    match cs with
    | [] => simp [leadingSlashes]
    | [c] => by_cases hc : c = '/' <;> simp [leadingSlashes, hc]
    | c :: d :: cs =>
      by_cases hc : c = '/'
      · have hd : d ≠ '/' := fun hd => hplain cs (by rw [hc, hd])
        simp [leadingSlashes, hc, hd]
      · simp [leadingSlashes, hc]

theorem textWeight_dropPairs (cs : List Char) : textWeight (dropPairs cs) = textWeight cs := by
  fun_induction dropPairs cs with
  | case1 cs ih => exact ih
  | case2 => rfl

theorem hasEscape_dropPairs_iff {cs : List Char} :
    Http.HasEscape (dropPairs cs) ↔ Http.HasEscape cs := by
  fun_induction dropPairs cs with
  | case1 cs ih =>
    simp [Http.hasEscape_cons_iff, ih]
  | case2 => rfl

theorem namesOf_dropPairs (cs : List Char) :
    Path.namesOf ((dropPairs cs).flatMap utf8EncodeChar) =
      Path.namesOf (cs.flatMap utf8EncodeChar) := by
  fun_induction dropPairs cs with
  | case1 cs ih =>
    rw [ih]
    exact (Path.namesOf_slash_cons _).symm.trans (Path.namesOf_slash_cons _).symm
  | case2 => rfl

theorem dropPairs_isSuffix (cs : List Char) : dropPairs cs <:+ cs := by
  fun_induction dropPairs cs with
  | case1 cs ih => exact ih.trans (List.suffix_append ['/', '/'] cs)
  | case2 => exact List.suffix_refl _

/-- An address is cut at its first question mark. -/
theorem path_eq {address : String} {front query : List Char} (hfront : '?' ∉ front)
    (h : address.toList = "sqlite://".toList ++ front ++ '?' :: query) :
    path address = ⟨Http.percentDecode (dropPairs front)⟩ ∧ parameters address = query := by
  have hbody : body address = dropPairs front ++ '?' :: query := by
    rw [body, h, List.append_assoc, ← dropPairs_append_query]
    rfl
  have hplain : ∀ c ∈ dropPairs front, (c != '?') = true := fun c hc =>
    bne_iff_ne.2 fun heq => hfront (heq ▸ (dropPairs_isSuffix front).mem hc)
  constructor
  · rw [path, hbody, List.takeWhile_append_of_pos hplain, List.takeWhile_cons_of_neg (by decide),
      List.append_nil]
  · rw [parameters, hbody, List.dropWhile_append_of_pos hplain,
      List.dropWhile_cons_of_neg (by decide), List.drop_one, List.tail_cons]

end ChatRelay.Address
