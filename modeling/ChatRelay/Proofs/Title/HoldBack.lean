import ChatRelay.Proofs.Title.Scan

/-!
# What a scanner holds back

Until the marker has been seen, the text that a scanner has forwarded is the
longest that every answer with this beginning lets the reader see
(`feed_forwards_most`): it is never taken back, and whatever is held back would
have to be if the marker came next.

* `safeEnd_le_append`: what can be forwarded only grows with the text;
* `feed_eq_of_free`: everything up to there has been forwarded;
* `completes`: the rest of a marker, after which nothing more is seen.
-/

namespace ChatRelay.Title

open Text (FirstAt trim trimEnd)

/-! ## How much is held back -/

/-- What is held back as the beginning of a marker is one, and not a whole marker. -/
theorem heldMarker_spec (raw : List Char) :
    heldMarker raw < markerChars.length ∧ markerChars.take (heldMarker raw) <:+ raw := by
  rw [heldMarker]
  cases h : (List.range markerChars.length).reverse.find? fun n =>
      (markerChars.take n).isSuffixOf raw with
  | none => exact ⟨by decide, List.nil_suffix⟩
  | some n =>
    have hn : n < markerChars.length := by simpa using List.mem_of_find?_eq_some h
    have hends : (markerChars.take n).isSuffixOf raw = true := by simpa using List.find?_some h
    exact ⟨hn, List.isSuffixOf_iff_suffix.1 hends⟩

/-- The characters in front of what may be the beginning of a marker. -/
def markerStart (raw : List Char) : Nat := raw.length - heldMarker raw

theorem take_markerStart_append (raw : List Char) :
    raw.take (markerStart raw) ++ markerChars.take (heldMarker raw) = raw := by
  obtain ⟨hlt, front, hfront⟩ := heldMarker_spec raw
  have hlength : markerStart raw = front.length := by
    have := congrArg List.length hfront
    rw [List.length_append, List.length_take, Nat.min_eq_left (Nat.le_of_lt hlt)] at this
    rw [markerStart]
    omega
  have htake : raw.take front.length = front := by
    have h : (front ++ markerChars.take (heldMarker raw)).take front.length = front :=
      List.take_left
    rwa [hfront] at h
  rw [hlength, htake, hfront]

/-- More text does not bring text that was in front of a marker back into it: the beginning of a
marker that reaches over the old text would have been one of the old text. -/
theorem markerStart_le_append (raw ext : List Char) :
    markerStart raw ≤ markerStart (raw ++ ext) := by
  obtain ⟨hlt, hsuffix⟩ := heldMarker_spec (raw ++ ext)
  rcases Nat.lt_or_ge (markerStart (raw ++ ext)) raw.length with hin | hout
  · have hdrop : raw.drop (markerStart (raw ++ ext)) ++ ext =
        markerChars.take (heldMarker (raw ++ ext)) := by
      have h := congrArg (List.drop (markerStart (raw ++ ext)))
        (take_markerStart_append (raw ++ ext))
      rw [List.drop_append_of_le_length (by rw [List.length_take, markerStart]; omega),
        List.drop_take_self, List.nil_append, List.drop_append_of_le_length (by omega)] at h
      exact h.symm
    have hbegin : raw.drop (markerStart (raw ++ ext)) <+: markerChars :=
      (List.prefix_append _ ext).trans (hdrop ▸ List.take_prefix _ _)
    have hshort : (raw.drop (markerStart (raw ++ ext))).length ≤ heldMarker (raw ++ ext) := by
      have := congrArg List.length hdrop
      rw [List.length_append, List.length_take] at this
      omega
    have hheld : raw.length - markerStart (raw ++ ext) ≤ heldMarker raw := by
      rw [← List.length_drop]
      refine le_heldMarker (by omega) ?_
      rw [← List.prefix_iff_eq_take.1 hbegin]
      exact List.drop_suffix _ raw
    have : markerStart raw = raw.length - heldMarker raw := rfl
    omega
  · exact Nat.le_trans (Nat.sub_le _ _) hout

theorem safeEnd_eq (raw : List Char) :
    safeEnd raw = (trimEnd (raw.take (markerStart raw))).length := rfl

theorem take_safeEnd (raw : List Char) :
    raw.take (safeEnd raw) = trimEnd (raw.take (markerStart raw)) :=
  (List.prefix_iff_eq_take.1 (trimEnd_take_isPrefix raw _)).symm

/-- What can be forwarded only grows with the text. -/
theorem safeEnd_le_append (raw ext : List Char) : safeEnd raw ≤ safeEnd (raw ++ ext) := by
  have hstart : (raw ++ ext).take (markerStart raw) <+:
      (raw ++ ext).take (markerStart (raw ++ ext)) :=
    List.take_prefix_take_left (markerStart_le_append raw ext)
  have hold : (raw ++ ext).take (markerStart raw) = raw.take (markerStart raw) :=
    List.take_append_of_le_length (Nat.sub_le _ _)
  rw [hold] at hstart
  obtain ⟨more, hmore⟩ := hstart
  rw [safeEnd_eq, safeEnd_eq, ← hmore]
  exact (Text.trimEnd_isPrefix_trimEnd_append _ more).length_le

/-! ## What has been forwarded -/

namespace Scanner

/-- What is seen of a whole answer. -/
def seen (increments : List String) : String :=
  String.join (fragments (readAll increments).2)

/-- What has been seen when these increments were read, and more may come. -/
def seenSoFar (increments : List String) : String :=
  String.join (fragments (feed {} increments).2)

theorem feed_append (s : Scanner) (increments more : List String) :
    s.feed (increments ++ more) =
      (((s.feed increments).1.feed more).1,
        (s.feed increments).2 ++ ((s.feed increments).1.feed more).2) := by
  induction increments generalizing s with
  | nil => rfl
  | cons increment increments ih =>
    rw [List.cons_append, feed_cons, ih, feed_cons]
    rfl

/-- What has been seen stays seen. -/
theorem seenSoFar_isPrefix (increments more : List String) :
    (seenSoFar increments).toList <+: (seen (increments ++ more)).toList := by
  rw [seen, readAll_eq_feed, feed_append, fragments_append, fragments_append, String.join_append,
    String.join_append, String.toList_append, String.toList_append, List.append_assoc]
  exact List.prefix_append _ _

/-- Without a marker, an increment makes the scanner forward everything that can be. -/
theorem consume_eq_of_free {raw : List Char} {increment : String}
    (hfree : ¬ markerChars <:+: raw ++ increment.toList) :
    (consume { raw, shown := safeEnd raw } increment).1 =
      { raw := raw ++ increment.toList, shown := safeEnd (raw ++ increment.toList) } := by
  have hnone : Text.splitAtFirst markerChars ((raw ++ increment.toList).drop (safeEnd raw)) =
      none :=
    Text.splitAtFirst_eq_none_iff.2 fun h => hfree (h.trans (List.drop_suffix _ _).isInfix)
  rw [consume_unmarked hnone, Nat.max_eq_right (safeEnd_le_append raw _)]

/-- So does every number of increments. -/
theorem feed_eq_of_free (raw : List Char) (increments : List String)
    (hfree : ¬ markerChars <:+: raw ++ (String.join increments).toList) :
    (feed { raw, shown := safeEnd raw } increments).1 =
      { raw := raw ++ (String.join increments).toList
        shown := safeEnd (raw ++ (String.join increments).toList) } := by
  induction increments generalizing raw with
  | nil => simp [feed]
  | cons increment increments ih =>
    rw [String.join_cons, String.toList_append, ← List.append_assoc] at hfree ⊢
    have hstep : ¬ markerChars <:+: raw ++ increment.toList :=
      fun h => hfree (h.trans (List.prefix_append _ _).isInfix)
    rw [feed_cons, consume_eq_of_free hstep]
    exact ih _ hfree

/-- Without a marker, everything has been seen but what may be the beginning of one and the blanks
in front of it. -/
theorem seenSoFar_eq {increments : List String}
    (hfree : ¬ markerChars <:+: (String.join increments).toList) :
    (seenSoFar increments).toList =
      trimEnd ((String.join increments).toList.take
        (markerStart (String.join increments).toList)) := by
  obtain ⟨-, hfeed⟩ := sound_init.feed increments
  have hstate : (feed {} increments).1 = _ := feed_eq_of_free [] increments hfree
  have hshown := hfeed.shown
  rw [hstate, List.take_nil, List.nil_append, List.nil_append] at hshown
  exact hshown.symm.trans (take_safeEnd _)

/-- The rest of the marker that an answer may have begun with. -/
def completion (increments : List String) : String :=
  String.ofList (markerChars.drop (heldMarker (String.join increments).toList))

/-- When the marker is completed, it stands where the text is held back. -/
theorem firstAt_completion {increments : List String}
    (hfree : ¬ markerChars <:+: (String.join increments).toList) :
    FirstAt markerChars (String.join (increments ++ [completion increments])).toList
      ((String.join increments).toList.take (markerStart (String.join increments).toList)) [] := by
  generalize hraw : (String.join increments).toList = raw at hfree
  have htext : (String.join (increments ++ [completion increments])).toList =
      raw ++ markerChars.drop (heldMarker raw) := by
    simp [String.join_append, completion, hraw]
  rw [htext]
  refine ⟨?_, fun n hn hp => ?_⟩
  · calc raw ++ markerChars.drop (heldMarker raw)
        = raw.take (markerStart raw) ++ markerChars.take (heldMarker raw) ++
            markerChars.drop (heldMarker raw) := by rw [take_markerStart_append]
      _ = raw.take (markerStart raw) ++ markerChars ++ [] := by
            rw [List.append_assoc, List.take_append_drop, List.append_nil]
  · have := le_of_marker_isPrefix hfree hp
    rw [List.length_take, markerStart] at hn
    omega

/-- After that nothing more is seen. -/
theorem seen_completion {increments : List String}
    (hfree : ¬ markerChars <:+: (String.join increments).toList) :
    seen (increments ++ [completion increments]) = seenSoFar increments := by
  have hd := ofAnswer_eq_of_first (firstAt_completion hfree)
  rw [String.ofList_toList] at hd
  rw [seen, readAll_visible, hd, ← seenSoFar_eq hfree, String.ofList_toList]

/-- As long as there is no marker, what has been seen is the longest text that is seen however the
answer goes on: it stays seen, the answer may go on so that nothing more is, and every text that
stays seen is part of it. What is held back are blanks, and behind them the beginning of a marker
that is not complete. -/
theorem feed_forwards_most (increments : List String)
    (hfree : ¬ markerChars <:+: (String.join increments).toList) :
    (∀ more, (seenSoFar increments).toList <+: (seen (increments ++ more)).toList) ∧
      (∃ more, seen (increments ++ more) = seenSoFar increments) ∧
      (∀ text : List Char, (∀ more, text <+: (seen (increments ++ more)).toList) →
        text <+: (seenSoFar increments).toList) ∧
      ∃ blanks begun : List Char,
        (String.join increments).toList = (seenSoFar increments).toList ++ blanks ++ begun ∧
          blanks.all Text.isWhiteSpace = true ∧ begun <+: markerChars ∧ begun ≠ markerChars := by
  have hend := seen_completion hfree
  refine ⟨seenSoFar_isPrefix increments, ⟨_, hend⟩, fun text h => hend ▸ h _, ?_⟩
  obtain ⟨blanks, hblanks, hall⟩ := Text.exists_blank_append
    ((String.join increments).toList.take (markerStart (String.join increments).toList))
  refine ⟨blanks, markerChars.take (heldMarker (String.join increments).toList), ?_, hall,
    List.take_prefix _ _, fun h => ?_⟩
  · rw [seenSoFar_eq hfree, hblanks, take_markerStart_append]
  · have hlt := (heldMarker_spec (String.join increments).toList).1
    rw [← h, List.length_take] at hlt
    omega

/-- Blanks and half a marker are held back. -/
theorem feed_forwards_most_half_marker :
    ¬ markerChars <:+: (String.join ["Use", " CONV", "ERSA"]).toList ∧
      (∃ more, seen (["Use", " CONV", "ERSA"] ++ more) = "Use") ∧
      seen ["Use", " CONV", "ERSA", "L"] = "Use CONVERSAL" := by
  have hfree : ¬ markerChars <:+: (String.join ["Use", " CONV", "ERSA"]).toList :=
    Text.splitAtFirst_eq_none_iff.1 (by decide)
  obtain ⟨more, hmore⟩ := (feed_forwards_most _ hfree).2.1
  exact ⟨hfree, ⟨more, hmore.trans (by decide)⟩, by decide⟩

end Scanner

end ChatRelay.Title
