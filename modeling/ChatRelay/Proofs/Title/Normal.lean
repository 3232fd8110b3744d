import ChatRelay.Proofs.Text.Stripped
import ChatRelay.Title.Normal

/-!
# Titles that were asked for

What `normalizeTitle` makes of a reply is told by what is left of it when its wrapping is
taken off once (`Normalized`): the placeholder, the whole of it, or its beginning with an
ellipsis. It can be shown as it is, since it is not empty and has no blanks at its ends
(`Normalized.presentable`), and apart from the placeholder and the ellipsis all of it
stands in the reply (`normalizeTitle_fromReply`).

Wrapping that alternates more often is not taken off. A quotation mark is left at an end
of the title exactly if one is left at that end after the three passes and is not cut off
(`normalizeTitle_quotes`).
-/

namespace ChatRelay.Title

open Text (Stripped begins ends isWhiteSpace trim trimEnd)

/-- A title that can be shown: it is not empty and has no blanks at either end. -/
structure Presentable (title : String) : Prop where
  ne_empty : title ≠ ""
  front : begins isWhiteSpace title.toList = false
  back : ends isWhiteSpace title.toList = false

instance (title : String) : Decidable (Presentable title) :=
  decidable_of_iff (title ≠ "" ∧ begins isWhiteSpace title.toList = false ∧
      ends isWhiteSpace title.toList = false)
    ⟨fun ⟨h, hfront, hback⟩ => ⟨h, hfront, hback⟩, fun ⟨h, hfront, hback⟩ => ⟨h, hfront, hback⟩⟩

theorem presentable_ofList {cs : List Char} (hcs : cs ≠ [])
    (hfront : begins isWhiteSpace cs = false) (hback : ends isWhiteSpace cs = false) :
    Presentable (String.ofList cs) where
  ne_empty h := hcs (String.ofList_eq_empty_iff.1 h)
  front := by rw [String.toList_ofList, hfront]
  back := by rw [String.toList_ofList, hback]

theorem presentable_placeholder : Presentable placeholder := by decide +kernel

/-- What is left of a text that is trimmed can be shown, if something is left. -/
theorem presentable_trimText {s : String} (h : Text.trimText s ≠ "") :
    Presentable (Text.trimText s) := by
  have hstripped := Text.trim_stripped s.toList
  exact presentable_ofList (fun hnil => h (String.ofList_eq_empty_iff.2 hnil)) hstripped.front
    hstripped.back

/-! ## Taking off the wrapping -/

/-- What is left of a text when blanks are taken off at both ends, then quotation marks, then blanks
once more. -/
def UnwrappedOnce (raw body : List Char) : Prop :=
  ∃ outer inner, Stripped isWhiteSpace raw outer ∧ Stripped isQuote outer inner ∧
    Stripped isWhiteSpace inner body

/-- The title that is made of what is left. -/
inductive Normalized (body : List Char) : String → Prop where
  | empty (h : body = []) : Normalized body placeholder
  | whole (h : body ≠ []) (hshort : body.length ≤ maxLength) : Normalized body (String.ofList body)
  | cut (hlong : maxLength < body.length) :
      Normalized body (String.ofList (trimEnd (body.take maxLength)) ++ ellipsis)

theorem trimQuotes_stripped (cs : List Char) : Stripped isQuote cs (trimQuotes cs) :=
  Text.stripped_dropWhile isQuote cs

theorem normalizeTitle_normalized (raw : String) :
    ∃ body, UnwrappedOnce raw.toList body ∧ Normalized body (normalizeTitle raw) := by
  refine ⟨_, ⟨_, _, Text.trim_stripped _, trimQuotes_stripped _, Text.trim_stripped _⟩, ?_⟩
  rw [normalizeTitle]
  generalize trim (trimQuotes (trim raw.toList)) = body
  split
  · exact .empty (List.isEmpty_iff.1 ‹_›)
  · have hne : body ≠ [] := fun h => ‹¬ _› (List.isEmpty_iff.2 h)
    split
    · exact .whole hne ‹_›
    · exact .cut (Nat.lt_of_not_le ‹_›)

namespace UnwrappedOnce

variable {raw body : List Char}

theorem isInfix (h : UnwrappedOnce raw body) : body <:+: raw := by
  obtain ⟨outer, inner, houter, hinner, hbody⟩ := h
  exact hbody.isInfix.trans (hinner.isInfix.trans houter.isInfix)

theorem front (h : UnwrappedOnce raw body) : begins isWhiteSpace body = false := by
  obtain ⟨_, _, _, _, hbody⟩ := h
  exact hbody.front

theorem back (h : UnwrappedOnce raw body) : ends isWhiteSpace body = false := by
  obtain ⟨_, _, _, _, hbody⟩ := h
  exact hbody.back

/-- The beginning of a text that is too long. -/
theorem cut_ne_nil (h : UnwrappedOnce raw body) (hlong : maxLength < body.length) :
    trimEnd (body.take maxLength) ≠ [] := by
  have hne : body.take maxLength ≠ [] := by
    rw [ne_eq, List.take_eq_nil_iff, ← List.length_eq_zero_iff]
    exact not_or.2 ⟨by decide, by omega⟩
  refine Text.trimEnd_ne_nil hne ?_
  rw [Text.begins_of_isPrefix (List.take_prefix _ _) hne, h.front]

/-- A title that is cut begins as the text does. -/
theorem begins_cut (h : UnwrappedOnce raw body) (hlong : maxLength < body.length)
    (p : Char → Bool) : begins p (trimEnd (body.take maxLength) ++ ellipsis.toList) =
      begins p body := by
  have hne := h.cut_ne_nil hlong
  rw [← Text.begins_of_isPrefix ((Text.trimEnd_isPrefix _).trans (List.take_prefix _ _)) hne]
  exact (Text.begins_of_isPrefix (List.prefix_append _ _) hne).symm

end UnwrappedOnce

theorem ends_ellipsis (p : Char → Bool) (cs : List Char) :
    ends p (cs ++ ellipsis.toList) = p '.' := by
  have hdots : cs ++ ellipsis.toList = cs ++ ['.', '.'] ++ ['.'] := by
    rw [List.append_assoc]
    rfl
  rw [hdots, Text.ends_concat]

namespace Normalized

variable {raw body : List Char} {title : String}

theorem presentable (h : Normalized body title) (hbody : UnwrappedOnce raw body) :
    Presentable title := by
  cases h with
  | empty => exact presentable_placeholder
  | whole hne => exact presentable_ofList hne hbody.front hbody.back
  | cut hlong =>
    rw [← String.ofList_toList (s := ellipsis), ← String.ofList_append]
    refine presentable_ofList (List.append_ne_nil_of_left_ne_nil (hbody.cut_ne_nil hlong) _) ?_ ?_
    · rw [hbody.begins_cut hlong, hbody.front]
    · rw [ends_ellipsis]
      rfl

/-- A quotation mark is left in front if there is one in front of the text. -/
theorem begins_quote (h : Normalized body title) (hbody : UnwrappedOnce raw body) :
    begins isQuote title.toList = begins isQuote body := by
  cases h with
  | empty hnil =>
    rw [hnil]
    rfl
  | whole => rw [String.toList_ofList]
  | cut hlong => rw [String.toList_append, String.toList_ofList, hbody.begins_cut hlong]

/-- A quotation mark is left at the end if there is one at the end of a text that is not cut. -/
theorem ends_quote (h : Normalized body title) :
    ends isQuote title.toList = (ends isQuote body && decide (body.length ≤ maxLength)) := by
  cases h with
  | empty hnil =>
    rw [hnil]
    rfl
  | whole _ hshort => rw [String.toList_ofList, decide_eq_true hshort, Bool.and_true]
  | cut hlong =>
    rw [String.toList_append, ends_ellipsis, decide_eq_false (Nat.not_le.2 hlong), Bool.and_false]
    rfl

end Normalized

theorem normalizeTitle_presentable (raw : String) : Presentable (normalizeTitle raw) := by
  obtain ⟨body, hbody, h⟩ := normalizeTitle_normalized raw
  exact h.presentable hbody

/-! ## What a title is made of -/

/-- A title that is made of a reply. -/
inductive FromReply (reply : String) : String → Prop where
  | placeholder : FromReply reply placeholder
  | piece {cs : List Char} (hpart : cs <:+: reply.toList) (hshort : cs.length ≤ maxLength) :
      FromReply reply (String.ofList cs)
  | cut {cs : List Char} (hpart : cs <:+: reply.toList) (hshort : cs.length ≤ maxLength)
      (hne : cs ≠ []) (hback : ends isWhiteSpace cs = false) :
      FromReply reply (String.ofList cs ++ ellipsis)

theorem FromReply.length_le {reply title : String} (h : FromReply reply title) :
    title.length ≤ maxLength + ellipsis.length := by
  cases h with
  | placeholder => decide
  | piece _ hshort => exact Nat.le_trans (by simpa using hshort) (Nat.le_add_right _ _)
  | cut _ hshort => simpa [String.length_append] using hshort

theorem normalizeTitle_fromReply (raw : String) : FromReply raw (normalizeTitle raw) := by
  obtain ⟨body, hbody, h⟩ := normalizeTitle_normalized raw
  generalize normalizeTitle raw = title at h
  cases h with
  | empty => exact .placeholder
  | whole _ hshort => exact .piece hbody.isInfix hshort
  | cut hlong =>
    have hstart := Text.trimEnd_isPrefix (body.take maxLength)
    have htaken := (hstart.trans (List.take_prefix _ _)).isInfix
    refine .cut (htaken.trans hbody.isInfix) ?_ (hbody.cut_ne_nil hlong) (Text.ends_trimEnd _)
    exact Nat.le_trans hstart.length_le (List.length_take_le _ _)

/-! ## Quotation marks that are left -/

/-- A title neither begins nor ends with a blank. It begins with a quotation mark exactly if one is
left in front when blanks, quotation marks and blanks are taken off once, and it ends with one
exactly if one is left at the end and the text is not cut. -/
theorem normalizeTitle_quotes (raw : String) :
    begins isWhiteSpace (normalizeTitle raw).toList = false ∧
      ends isWhiteSpace (normalizeTitle raw).toList = false ∧
      ∃ body, UnwrappedOnce raw.toList body ∧
        (begins isQuote (normalizeTitle raw).toList = true ↔ begins isQuote body = true) ∧
        (ends isQuote (normalizeTitle raw).toList = true ↔
          ends isQuote body = true ∧ body.length ≤ maxLength) := by
  obtain ⟨body, hbody, h⟩ := normalizeTitle_normalized raw
  have hshown := h.presentable hbody
  refine ⟨hshown.front, hshown.back, body, hbody, ?_, ?_⟩
  · rw [h.begins_quote hbody]
  · rw [h.ends_quote, Bool.and_eq_true, decide_eq_true_iff]

/-- Quotation marks inside the blanks that quotation marks enclose are not taken off. -/
theorem normalizeTitle_nested :
    ¬ ∀ raw : String,
      begins (fun c => isWhiteSpace c || isQuote c) (normalizeTitle raw).toList = false ∧
        ends (fun c => isWhiteSpace c || isQuote c) (normalizeTitle raw).toList = false := by
  intro h
  have hfront := (h "\" 'Planning a Trip' \"").1
  revert hfront
  decide +kernel

end ChatRelay.Title
