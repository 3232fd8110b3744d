import ChatRelay.Path
import ChatRelay.Proofs.Text.Utf8

/-!
# Where paths lead

`Path.place` tells where a path leads: whether it starts at the root, and the names on
the way. Slashes in a row, a slash at the end and dots that stay in a directory make no
difference. Two dots are a name like any other, since a path does not tell whether there
are links on the way back. A name that is joined to the path of a directory leads to what
has this name there (`place_join`).

Two things can be told of a path from the names alone: how many of its bytes are
characters that stay whatever is passed over (`weight_namesOf`), and whether it is text
(`isUtf8_iff`).
-/

namespace ChatRelay

open String (utf8EncodeChar)
open Text (encodeUtf8)

/-! ## Bytes of text -/

namespace Text

/-- These bytes are those of some characters. -/
def IsUtf8 (bytes : List UInt8) : Prop := ∃ cs : List Char, bytes = cs.flatMap utf8EncodeChar

theorem isUtf8_nil : IsUtf8 [] := ⟨[], rfl⟩

theorem isUtf8_char (c : Char) : IsUtf8 (utf8EncodeChar c) := ⟨[c], (List.append_nil _).symm⟩

theorem IsUtf8.append {a b : List UInt8} (ha : IsUtf8 a) (hb : IsUtf8 b) : IsUtf8 (a ++ b) := by
  obtain ⟨cs, rfl⟩ := ha
  obtain ⟨ds, rfl⟩ := hb
  exact ⟨cs ++ ds, List.flatMap_append.symm⟩

end Text

namespace Path

theorem utf8EncodeChar_slash : utf8EncodeChar '/' = [slash] := rfl

/-- The byte of a slash is part of no other character. -/
theorem slash_not_mem {c : Char} (hc : c ≠ '/') : slash ∉ utf8EncodeChar c := by
  intro hmem
  rcases Nat.lt_or_ge c.toNat 128 with hlow | hhigh
  · rw [Text.utf8EncodeChar_of_lt hlow, List.mem_singleton, slash, ← UInt8.toNat_inj] at hmem
    refine hc (Char.toNat_inj.1 ?_)
    simpa [Nat.mod_eq_of_lt (Nat.lt_trans hlow (by decide : 128 < 256))] using hmem.symm
  · have := (Text.coded c).le_of_mem hhigh hmem
    exact absurd this (by decide)

/-! ## Names and places -/

/-- The name by which a directory calls itself. -/
def dot : List UInt8 := [0x2E]

/-- The names on the way. -/
def namesOf (bytes : List UInt8) : List (List UInt8) :=
  (bytes.splitOn slash).filter fun name => name != [] && name != dot

/-- Where a path leads. -/
structure Place where
  fromRoot : Bool
  names : List (List UInt8)
  deriving DecidableEq, Repr

def place (p : Path) : Place := ⟨p.isAbsolute, namesOf p.bytes⟩

/-- What has this name in a directory. -/
def Place.child (dir : Place) (name : String) : Place :=
  { dir with names := dir.names ++ [encodeUtf8 name] }

/-- This is a name that a file can have. -/
structure IsName (name : String) : Prop where
  slash : slash ∉ encodeUtf8 name
  empty : encodeUtf8 name ≠ []
  dot : encodeUtf8 name ≠ dot

@[simp] theorem namesOf_nil : namesOf [] = [] := rfl

theorem namesOf_append_slash (a b : List UInt8) :
    namesOf (a ++ slash :: b) = namesOf a ++ namesOf b := by
  rw [namesOf, List.splitOn_append_cons_self, List.filter_append]
  rfl

@[simp] theorem namesOf_slash_cons (bytes : List UInt8) :
    namesOf (slash :: bytes) = namesOf bytes :=
  namesOf_append_slash [] bytes

theorem namesOf_encodeUtf8 {name : String} (h : IsName name) :
    namesOf (encodeUtf8 name) = [encodeUtf8 name] := by
  rw [namesOf, List.splitOn_eq_singleton h.slash]
  simp [h.empty, h.dot]

theorem isAbsolute_ofText {name : String} (h : IsName name) : (ofText name).isAbsolute = false := by
  rw [isAbsolute, beq_eq_false_iff_ne, ofText]
  exact fun hhead => h.slash (List.mem_of_head? hhead)

/-- A name that is joined to the path of a directory leads to what has this name there. -/
theorem place_join (dir : Path) {name : String} (h : IsName name) :
    (dir.join (ofText name)).place = dir.place.child name := by
  have hname : namesOf (ofText name).bytes = [encodeUtf8 name] := namesOf_encodeUtf8 h
  have hrelative := isAbsolute_ofText h
  rw [join, hrelative, if_neg Bool.false_ne_true]
  by_cases hnil : dir.bytes = []
  · simpa [hnil, place, Place.child, isAbsolute, hname] using hrelative
  have hhead (rest : List UInt8) : (dir.bytes ++ rest).head? = dir.bytes.head? := by
    cases hbytes : dir.bytes <;> simp_all
  -- a slash is put between them unless there is one
  by_cases hslash : dir.bytes.getLast? = some slash
  · obtain ⟨front, hfront⟩ := List.getLast?_eq_some_iff.1 hslash
    have hnames (rest : List UInt8) :
        namesOf (dir.bytes ++ rest) = namesOf front ++ namesOf rest := by
      rw [hfront, List.append_assoc, List.singleton_append, namesOf_append_slash]
    have hdir : namesOf dir.bytes = namesOf front := by simpa using hnames []
    simp only [hslash, beq_self_eq_true, Bool.or_true, if_true, place, Place.child, isAbsolute,
      hhead, hnames, hname, hdir]
  · rw [if_neg (by simp [hslash, hnil])]
    simp only [place, Place.child, isAbsolute, hhead, namesOf_append_slash, hname]

/-! ## Weight -/

/-- A character of seven bits that is neither a slash nor a dot. -/
def isWeighed (n : Nat) : Bool := n < 128 && n != 0x2F && n != 0x2E

theorem isWeighed_of_le {n : Nat} (h : 128 ≤ n) : isWeighed n = false := by
  simp [isWeighed, Nat.not_lt.2 h]

/-- How many of the bytes stay whatever is passed over on the way. -/
def weight (bytes : List UInt8) : Nat := bytes.countP fun b => isWeighed b.toNat

@[simp] theorem weight_append (a b : List UInt8) : weight (a ++ b) = weight a + weight b :=
  List.countP_append

theorem weight_cons (b : UInt8) (bytes : List UInt8) :
    weight (b :: bytes) = weight bytes + if isWeighed b.toNat then 1 else 0 :=
  List.countP_cons

theorem weight_splitOn (bytes : List UInt8) :
    weight (bytes.splitOn slash).flatten = weight bytes := by
  induction bytes with
  | nil => rfl
  | cons b bytes ih =>
    rw [List.splitOn_cons_eq_if_modifyHead]
    split
    · rename_i hslash
      rw [List.flatten_cons, List.nil_append, ih, beq_iff_eq.1 hslash]
      rfl
    · obtain ⟨part, parts, hparts⟩ :=
        List.exists_cons_of_ne_nil (List.splitOn_ne_nil slash bytes)
      rw [hparts, List.flatten_cons] at ih
      rw [hparts, List.modifyHead_cons, List.flatten_cons, List.cons_append, weight_cons, ih,
        weight_cons]

/-- A name that is passed over has no weight. -/
theorem eq_of_passed {name : List UInt8} (h : ¬ (name != [] && name != dot) = true) :
    name = [] ∨ name = dot := by
  simpa [Classical.or_iff_not_imp_left] using h

theorem weight_namesOf (bytes : List UInt8) : weight (namesOf bytes).flatten = weight bytes := by
  rw [← weight_splitOn bytes, namesOf]
  generalize bytes.splitOn slash = parts
  induction parts with
  | nil => rfl
  | cons part parts ih =>
    rw [List.filter_cons, List.flatten_cons, weight_append, ← ih]
    split
    · rw [List.flatten_cons, weight_append]
    · rename_i hpassed
      rcases eq_of_passed hpassed with rfl | rfl <;> exact (Nat.zero_add _).symm

/-- What has a name in a directory weighs as much as the directory and the name. -/
theorem weight_of_place_eq {file dir : Path} {name : String}
    (h : file.place = dir.place.child name) :
    weight file.bytes = weight dir.bytes + weight (encodeUtf8 name) := by
  have hnames : namesOf file.bytes = namesOf dir.bytes ++ [encodeUtf8 name] :=
    congrArg Place.names h
  rw [← weight_namesOf file.bytes, hnames, List.flatten_append, weight_append, weight_namesOf,
    List.flatten_singleton]

/-- How many bytes of a text stay whatever is passed over on the way. -/
def textWeight (cs : List Char) : Nat := cs.countP fun c => isWeighed c.toNat

@[simp] theorem textWeight_append (cs ds : List Char) :
    textWeight (cs ++ ds) = textWeight cs + textWeight ds :=
  List.countP_append

theorem textWeight_cons (c : Char) (cs : List Char) :
    textWeight (c :: cs) = textWeight cs + if isWeighed c.toNat then 1 else 0 :=
  List.countP_cons

theorem weight_flatMap (cs : List Char) : weight (cs.flatMap utf8EncodeChar) = textWeight cs :=
  Text.countP_flatMap_utf8EncodeChar (fun _ => isWeighed_of_le) cs

/-- Nothing that has weight is added where a path is shown. -/
theorem textWeight_shown_le (p : Path) : textWeight p.shown.toList ≤ weight p.bytes :=
  Text.countP_decodeLossy_le (fun _ => isWeighed_of_le) p.bytes

/-! ## Text -/

theorem shown_ofText (s : String) : (ofText s).shown = s :=
  Text.decodeLossy_encodeUtf8 s

/-- A path of text is the one that is written as it is shown. -/
theorem eq_ofText_shown {p : Path} (h : Text.IsUtf8 p.bytes) : p = ofText p.shown := by
  obtain ⟨cs, hcs⟩ := h
  have hp : p = ofText (String.ofList cs) := by
    rw [ofText, Text.encodeUtf8_ofList, ← hcs]
  rw [hp, shown_ofText]

theorem text?_ofText (s : String) : (ofText s).text? = some s := by
  rw [text?, ofText, Text.decodeUtf8_eq_ok_iff.2 rfl]
  rfl

theorem isAbsolute_flatMap (cs : List Char) :
    isAbsolute ⟨cs.flatMap utf8EncodeChar⟩ = true ↔ cs.head? = some '/' := by
  rw [isAbsolute, beq_iff_eq]
  cases cs with
  | nil => simp
  | cons c cs =>
    by_cases hc : c = '/'
    · simp [hc, utf8EncodeChar_slash]
    · have hlength : 0 < (utf8EncodeChar c).length := by
        rw [String.length_utf8EncodeChar]
        exact c.utf8Size_pos
      obtain ⟨b, rest, hbytes⟩ := List.exists_cons_of_length_pos hlength
      have hb : b ≠ slash := fun h => slash_not_mem hc (by simp [hbytes, h])
      simp [hbytes, hb, hc]

theorem splitOn_append_of_not_mem {a b : List UInt8} (h : slash ∉ a) :
    (a ++ b).splitOn slash = (b.splitOn slash).modifyHead (a ++ ·) := by
  induction a with
  | nil => exact (congrFun List.modifyHead_id _).symm
  | cons x a ih =>
    rw [List.mem_cons, not_or] at h
    rw [List.cons_append, List.splitOn_cons_eq_if_modifyHead, if_neg (by simpa using Ne.symm h.1),
      ih h.2, List.modifyHead_modifyHead]
    rfl

theorem isUtf8_of_mem_splitOn (cs : List Char) :
    ∀ part ∈ (cs.flatMap utf8EncodeChar).splitOn slash, Text.IsUtf8 part := by
  induction cs with
  | nil => exact List.forall_mem_singleton.2 Text.isUtf8_nil
  | cons c cs ih =>
    rw [List.flatMap_cons]
    by_cases hc : c = '/'
    · rw [hc, utf8EncodeChar_slash, List.singleton_append, List.splitOn_cons_eq_if_modifyHead,
        if_pos (beq_self_eq_true slash)]
      exact List.forall_mem_cons.2 ⟨Text.isUtf8_nil, ih⟩
    · obtain ⟨part, parts, hparts⟩ :=
        List.exists_cons_of_ne_nil (List.splitOn_ne_nil slash (cs.flatMap utf8EncodeChar))
      rw [splitOn_append_of_not_mem (slash_not_mem hc), hparts, List.modifyHead_cons]
      rw [hparts] at ih
      obtain ⟨hpart, hrest⟩ := List.forall_mem_cons.1 ih
      exact List.forall_mem_cons.2 ⟨(Text.isUtf8_char c).append hpart, hrest⟩

theorem isUtf8_intercalate {parts : List (List UInt8)} (h : ∀ part ∈ parts, Text.IsUtf8 part) :
    Text.IsUtf8 ([slash].intercalate parts) := by
  induction parts with
  | nil => exact Text.isUtf8_nil
  | cons part parts ih =>
    obtain ⟨hpart, hparts⟩ := List.forall_mem_cons.1 h
    by_cases hnil : parts = []
    · simpa [hnil] using hpart
    · rw [List.intercalate_cons_of_ne_nil hnil]
      exact (hpart.append (Text.isUtf8_char '/')).append (ih hparts)

/-- A path is text exactly if all its names are. -/
theorem isUtf8_iff {bytes : List UInt8} :
    Text.IsUtf8 bytes ↔ ∀ name ∈ namesOf bytes, Text.IsUtf8 name := by
  constructor
  · rintro ⟨cs, rfl⟩ name hname
    exact isUtf8_of_mem_splitOn cs name (List.mem_filter.1 hname).1
  · intro h
    have hparts : [slash].intercalate (bytes.splitOn slash) = bytes :=
      List.intercalate_splitOn slash
    refine hparts ▸ isUtf8_intercalate fun part hpart => ?_
    by_cases hkept : (part != [] && part != dot) = true
    · exact h part (List.mem_filter.2 ⟨hpart, hkept⟩)
    · rcases eq_of_passed hkept with rfl | rfl
      · exact Text.isUtf8_nil
      · exact Text.isUtf8_char '.'

end Path

end ChatRelay
