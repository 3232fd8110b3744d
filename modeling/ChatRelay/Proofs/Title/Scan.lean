import ChatRelay.Proofs.Title.Marker

/-!
# Reading an answer in increments

`Scanner.readAll` reads a whole answer, cut up in any way. What it brings to
light depends on the answer alone (`readAll_eq`): it is what
`Decomposition.ofAnswer` finds in one go.

`Scanner.Sound` is what a scanner knows of the text it has read so far. Every
increment keeps it, and `Scanner.Advances` says what the increment brought.
-/

namespace ChatRelay.Title

open Text (FirstAt trim trimEnd)

/-- The texts that some steps forwarded, in order. -/
def fragments (steps : List ScanStep) : List String :=
  steps.filterMap (·.visible)

/-- The titles that some steps reported, in order. -/
def reportedTitles (steps : List ScanStep) : List String :=
  steps.filterMap (·.title)

@[simp] theorem fragments_nil : fragments [] = [] := rfl

@[simp] theorem fragments_cons (step : ScanStep) (steps : List ScanStep) :
    fragments (step :: steps) = step.visible.toList ++ fragments steps := by
  cases h : step.visible <;> simp [fragments, h]

@[simp] theorem fragments_append (steps steps' : List ScanStep) :
    fragments (steps ++ steps') = fragments steps ++ fragments steps' :=
  List.filterMap_append

@[simp] theorem reportedTitles_append (steps steps' : List ScanStep) :
    reportedTitles (steps ++ steps') = reportedTitles steps ++ reportedTitles steps' :=
  List.filterMap_append

@[simp] theorem reportedTitles_singleton (step : ScanStep) :
    reportedTitles [step] = step.title.toList := by
  cases h : step.title <;> simp [reportedTitles, h]

namespace Scanner

/-- Reads some increments, one after the other. -/
def feed (s : Scanner) : List String → Scanner × List ScanStep
  | [] => (s, [])
  | increment :: increments =>
    let (s, step) := s.consume increment
    let (s, steps) := s.feed increments
    (s, step :: steps)

/-- Reads a whole answer in increments. -/
def readAll (increments : List String) : Scanner × List ScanStep :=
  let (s, steps) := feed {} increments
  let (s, last) := s.finish
  (s, steps ++ [last])

/-- What a scanner knows of the text that it has read. -/
inductive Sound : Scanner → Prop where
  | answering {raw : List Char} {shown : Nat} (free : ¬ markerChars <:+: raw)
      (cut : Forwardable raw shown) : Sound { raw, shown, phase := .answering }
  | titling {raw before after : List Char} (first : FirstAt markerChars raw before after)
      (unclosed : (titleLine after).2 = false) :
      Sound { raw, shown := (trimEnd before).length, phase := .titling before.length }
  | settled {raw before after : List Char} (first : FirstAt markerChars raw before after)
      (closed : (titleLine after).2 = true) :
      Sound
        { raw, shown := (trimEnd before).length
          phase := .settled before.length (titleOfLine (titleLine after).1) }

/-- The scanner `s` became `s'` by reading `text`, and `steps` brought to light what was not yet
seen before: the fragments continue the text forwarded so far, and a title is reported when it
becomes known. -/
structure Advances (s s' : Scanner) (text : List Char) (steps : List ScanStep) : Prop where
  raw : s'.raw = s.raw ++ text
  shown : s'.raw.take s'.shown = s.raw.take s.shown ++ (String.join (fragments steps)).toList
  title : s'.title?.toList = s.title?.toList ++ reportedTitles steps
  nonempty : ∀ fragment ∈ fragments steps, fragment ≠ ""

theorem sound_init : Sound {} :=
  .answering (by simp [markerChars_ne_nil]) (forwardable_zero [])

theorem Advances.refl (s : Scanner) : Advances s s [] [] :=
  ⟨by simp, by simp, by simp [reportedTitles], by simp⟩

theorem Advances.trans {s₁ s₂ s₃ : Scanner} {text text' : List Char}
    {steps steps' : List ScanStep} (h : Advances s₁ s₂ text steps)
    (h' : Advances s₂ s₃ text' steps') : Advances s₁ s₃ (text ++ text') (steps ++ steps') := by
  refine ⟨?_, ?_, ?_, ?_⟩
  · rw [h'.raw, h.raw, List.append_assoc]
  · rw [h'.shown, h.shown, fragments_append, String.join_append, String.toList_append,
      List.append_assoc]
  · rw [h'.title, h.title, reportedTitles_append, List.append_assoc]
  · rw [fragments_append]
    exact fun t ht => (List.mem_append.1 ht).elim (h.nonempty t) (h'.nonempty t)

/-! ## One increment -/

theorem forward_snd (s : Scanner) (raw : List Char) (stop : Nat) :
    (s.forward raw stop).2 = max s.shown stop := by
  rw [forward]
  split <;> simp only <;> omega

/-- What is forwarded continues what was forwarded before. -/
theorem take_forward (s : Scanner) (raw : List Char) (stop : Nat) :
    raw.take (max s.shown stop) =
      raw.take s.shown ++ (String.join (s.forward raw stop).1.toList).toList := by
  rw [forward]
  split
  · rename_i h
    simp [Nat.max_eq_left h]
  · rename_i h
    rw [Nat.max_eq_right (by omega)]
    simp only [Option.toList_some, String.join_cons, String.join_nil, String.append_empty,
      String.toList_ofList]
    rw [show raw.take s.shown = (raw.take stop).take s.shown by
      rw [List.take_take, Nat.min_eq_left (by omega)], List.take_append_drop]

theorem forward_ne_empty {s : Scanner} {raw : List Char} {stop : Nat} (h : stop ≤ raw.length) :
    ∀ fragment ∈ (s.forward raw stop).1.toList, fragment ≠ "" := by
  rw [forward]
  split
  · simp
  · rename_i hlt
    simp only [Option.toList_some, List.mem_singleton, forall_eq]
    intro hempty
    have := congrArg (fun t => t.toList.length) hempty
    simp only [String.toList_ofList, List.length_drop, List.length_take, String.toList_empty,
      List.length_nil] at this
    omega

theorem settle_eq (markerAt : Nat) (after : List Char) (atEnd : Bool) :
    settle markerAt after atEnd =
      if (titleLine after).2 || atEnd then
        (.settled markerAt (titleOfLine (titleLine after).1), titleOfLine (titleLine after).1)
      else (.titling markerAt, none) := rfl

theorem title?_settle (raw : List Char) (shown markerAt : Nat) (after : List Char) (atEnd : Bool) :
    ({ raw, shown, phase := (settle markerAt after atEnd).1 } : Scanner).title? =
      (settle markerAt after atEnd).2 := by
  rw [settle_eq]
  split <;> rfl

theorem sound_settle {raw before after : List Char} (first : FirstAt markerChars raw before after) :
    Sound
      { raw, shown := (trimEnd before).length, phase := (settle before.length after false).1 } := by
  rw [settle_eq]
  cases h : (titleLine after).2
  · exact .titling first h
  · exact .settled first h

/-- In front of a marker that has been seen stands what was forwarded, and the blanks behind it. -/
theorem take_trimEnd_before {raw before after : List Char}
    (first : FirstAt markerChars raw before after) :
    raw.take (trimEnd before).length = trimEnd before := by
  have hpre : trimEnd before <+: raw := by
    refine (Text.trimEnd_isPrefix before).trans ?_
    rw [first.parts, List.append_assoc]
    exact List.prefix_append _ _
  exact (List.prefix_iff_eq_take.1 hpre).symm

theorem drop_marker {raw before after : List Char} (first : FirstAt markerChars raw before after) :
    raw.drop (before.length + markerChars.length) = after := by
  rw [first.parts, ← List.length_append, List.drop_left]

/-- Without a marker in sight, everything that is safe is forwarded. -/
theorem consume_unmarked {raw : List Char} {shown : Nat} {increment : String}
    (hs : Text.splitAtFirst markerChars ((raw ++ increment.toList).drop shown) = none) :
    consume { raw, shown, phase := .answering } increment =
      ({ raw := raw ++ increment.toList, shown := max shown (safeEnd (raw ++ increment.toList)) },
        { visible := (forward { raw, shown } (raw ++ increment.toList)
            (safeEnd (raw ++ increment.toList))).1 }) := by
  simp only [consume, hs, forward_snd]

/-- When a marker comes, what is in front of it is forwarded, and the title begins behind it. -/
theorem consume_marked {raw before after : List Char} {shown : Nat} {increment : String}
    (hs : Text.splitAtFirst markerChars ((raw ++ increment.toList).drop shown) =
      some (before, after)) :
    consume { raw, shown, phase := .answering } increment =
      let stop := (trimEnd ((raw ++ increment.toList).take (shown + before.length))).length
      ({ raw := raw ++ increment.toList, shown := max shown stop
         phase := (settle (shown + before.length) after false).1 },
        { visible := (forward { raw, shown } (raw ++ increment.toList) stop).1
          title := (settle (shown + before.length) after false).2 }) := by
  simp only [consume, hs, forward_snd]

theorem consume_answering {raw : List Char} {shown : Nat} (cut : Forwardable raw shown)
    (increment : String) :
    let s : Scanner := { raw, shown, phase := .answering }
    Sound (s.consume increment).1 ∧
      Advances s (s.consume increment).1 increment.toList [(s.consume increment).2] := by
  intro s
  have hfree : ∀ k, markerChars <+: (raw ++ increment.toList).drop k → shown ≤ k :=
    cut.le_marker increment.toList
  have hkeep : (raw ++ increment.toList).take shown = raw.take shown :=
    List.take_append_of_le_length cut.le_length
  cases hs : Text.splitAtFirst markerChars ((raw ++ increment.toList).drop shown) with
  | none =>
    have hnone : ¬ markerChars <:+: raw ++ increment.toList := by
      intro hin
      obtain ⟨k, hk⟩ := Text.exists_prefix_drop_of_infix hin
      refine Text.splitAtFirst_eq_none_iff.1 hs (Text.infix_of_prefix_drop (n := k - shown) ?_)
      rwa [List.drop_drop, Nat.add_sub_cancel' (hfree k hk)]
    have hsafe := forwardable_safeEnd hnone
    rw [consume_unmarked hs]
    refine ⟨.answering hnone ((cut.append _).max hsafe), rfl, ?_, by simp [title?, s], ?_⟩
    · simpa [hkeep, s] using take_forward s (raw ++ increment.toList) _
    · simpa using forward_ne_empty hsafe.le_length
  | some parts =>
    obtain ⟨b, after⟩ := parts
    have first := (FirstAt.of_split hs).of_drop hfree
    have hlen : shown + b.length = ((raw ++ increment.toList).take shown ++ b).length := by
      rw [List.length_append, List.length_take, List.length_append,
        Nat.min_eq_left (Nat.le_add_right_of_le cut.le_length)]
    generalize (raw ++ increment.toList).take shown ++ b = before at first hlen
    have htake : (raw ++ increment.toList).take before.length = before := by
      rw [first.parts, List.append_assoc, List.take_left]
    have hshown : shown ≤ (trimEnd before).length := by
      have := (cut.prefix_trimEnd first).length_le
      rwa [List.length_take, Nat.min_eq_left cut.le_length] at this
    have hc : s.consume increment =
        ({ raw := raw ++ increment.toList, shown := (trimEnd before).length
           phase := (settle before.length after false).1 },
          { visible := (s.forward (raw ++ increment.toList) (trimEnd before).length).1
            title := (settle before.length after false).2 }) := by
      simp only [s, consume_marked hs, hlen, htake, Nat.max_eq_right hshown]
    rw [hc]
    refine ⟨sound_settle first, rfl, ?_, ?_, ?_⟩
    · have := take_forward s (raw ++ increment.toList) (trimEnd before).length
      simpa [hkeep, s, Nat.max_eq_right hshown] using this
    · rw [title?_settle, reportedTitles_singleton]
      rfl
    · have hle : (trimEnd before).length ≤ (raw ++ increment.toList).length := by
        rw [← take_trimEnd_before first, List.length_take]
        omega
      simpa using forward_ne_empty hle

theorem consume_titling {raw before after : List Char}
    (first : FirstAt markerChars raw before after) (increment : String) :
    let s : Scanner :=
      { raw, shown := (trimEnd before).length, phase := .titling before.length }
    Sound (s.consume increment).1 ∧
      Advances s (s.consume increment).1 increment.toList [(s.consume increment).2] := by
  intro s
  have first' := first.append increment.toList
  have hc : s.consume increment =
      ({ raw := raw ++ increment.toList, shown := (trimEnd before).length
         phase := (settle before.length (after ++ increment.toList) false).1 },
        { title := (settle before.length (after ++ increment.toList) false).2 }) := by
    simp only [consume, s, drop_marker first']
  rw [hc]
  refine ⟨sound_settle first', rfl, ?_, ?_, by simp⟩
  · simp [take_trimEnd_before first', take_trimEnd_before first, s]
  · rw [title?_settle, reportedTitles_singleton]
    rfl

theorem consume_settled {raw before after : List Char}
    (first : FirstAt markerChars raw before after) (closed : (titleLine after).2 = true)
    (increment : String) :
    let s : Scanner :=
      { raw, shown := (trimEnd before).length
        phase := .settled before.length (titleOfLine (titleLine after).1) }
    Sound (s.consume increment).1 ∧
      Advances s (s.consume increment).1 increment.toList [(s.consume increment).2] := by
  intro s
  have first' := first.append increment.toList
  have hline := titleLine_append closed increment.toList
  have hsound := Sound.settled first' (by rw [hline]; exact closed)
  rw [hline] at hsound
  refine ⟨hsound, rfl, ?_, by simp [consume, title?, s], by simp [consume, s]⟩
  simp [consume, s, take_trimEnd_before first', take_trimEnd_before first]

/-- Every increment keeps what a scanner knows true, and continues what it brought to light. -/
theorem Sound.consume {s : Scanner} (h : Sound s) (increment : String) :
    Sound (s.consume increment).1 ∧
      Advances s (s.consume increment).1 increment.toList [(s.consume increment).2] := by
  cases h with
  | answering free cut => exact consume_answering cut increment
  | titling first unclosed => exact consume_titling first increment
  | settled first closed => exact consume_settled first closed increment

/-! ## A whole answer -/

theorem feed_cons (s : Scanner) (increment : String) (increments : List String) :
    s.feed (increment :: increments) =
      (((s.consume increment).1.feed increments).1,
        (s.consume increment).2 :: ((s.consume increment).1.feed increments).2) := rfl

/-- So does every number of increments. -/
theorem Sound.feed {s : Scanner} (h : Sound s) (increments : List String) :
    Sound (s.feed increments).1 ∧
      Advances s (s.feed increments).1 (String.join increments).toList (s.feed increments).2 := by
  induction increments generalizing s with
  | nil => exact ⟨h, by simpa [Scanner.feed] using Advances.refl s⟩
  | cons increment increments ih =>
    obtain ⟨hsound, hstep⟩ := h.consume increment
    obtain ⟨hsound', hrun⟩ := ih hsound
    refine ⟨hsound', ?_⟩
    rw [feed_cons, String.join_cons, String.toList_append]
    exact hstep.trans hrun

/-- What is seen, stored and found to be the title when the answer ends here. -/
structure Agrees (s : Scanner) (d : Decomposition) : Prop where
  visible : String.ofList (s.raw.take s.shown) = d.visible
  stored : s.visibleContent = d.stored
  title : s.title? = d.title

theorem ofAnswer_eq_of_free {raw : List Char} (free : ¬ markerChars <:+: raw) :
    Decomposition.ofAnswer (String.ofList raw) =
      { visible := String.ofList raw, stored := String.ofList raw, title := none } := by
  simp only [Decomposition.ofAnswer, String.toList_ofList,
    Text.splitAtFirst_eq_none_iff.2 free]

theorem ofAnswer_eq_of_first {raw before after : List Char}
    (first : FirstAt markerChars raw before after) :
    Decomposition.ofAnswer (String.ofList raw) =
      { visible := String.ofList (trimEnd before), stored := String.ofList (trim before)
        title := titleOfLine (titleLine after).1 } := by
  simp only [Decomposition.ofAnswer, String.toList_ofList, first.split]

theorem take_before {raw before after : List Char} (first : FirstAt markerChars raw before after) :
    raw.take before.length = before := by
  rw [first.parts, List.append_assoc, List.take_left]

/-- At the end, the scanner agrees with what is found in one go in all the text it has read. -/
theorem Sound.finish {s : Scanner} (h : Sound s) :
    Agrees s.finish.1 (Decomposition.ofAnswer (String.ofList s.raw)) ∧
      Advances s s.finish.1 [] [s.finish.2] := by
  cases h with
  | @answering raw shown free cut =>
    have hc : Scanner.finish { raw, shown, phase := .answering } =
        ({ raw, shown := raw.length, phase := .answering },
          { visible := (forward { raw, shown, phase := .answering } raw raw.length).1 }) := by
      simp only [Scanner.finish, forward_snd, Nat.max_eq_right cut.le_length]
    rw [hc, ofAnswer_eq_of_free free]
    refine ⟨⟨by simp, rfl, rfl⟩, by simp, ?_, rfl, ?_⟩
    · have := take_forward { raw, shown, phase := .answering } raw raw.length
      simpa [Nat.max_eq_right cut.le_length] using this
    · simpa using forward_ne_empty (Nat.le_refl raw.length)
  | @titling raw before after first unclosed =>
    have hc : Scanner.finish
          { raw, shown := (trimEnd before).length, phase := .titling before.length } =
        ({ raw, shown := (trimEnd before).length
           phase := .settled before.length (titleOfLine (titleLine after).1) },
          { title := titleOfLine (titleLine after).1 }) := by
      simp only [Scanner.finish, drop_marker first, settle_eq, Bool.or_true, if_true]
    rw [hc, ofAnswer_eq_of_first first]
    refine ⟨⟨?_, ?_, rfl⟩, by simp, by simp, ?_, by simp⟩
    · rw [take_trimEnd_before first]
    · simp only [visibleContent, markerAt?, take_before first]
    · rw [reportedTitles_singleton]
      rfl
  | @settled raw before after first closed =>
    rw [ofAnswer_eq_of_first first]
    refine ⟨⟨?_, ?_, rfl⟩, by simp [Scanner.finish], by simp [Scanner.finish],
      by simp [Scanner.finish, title?], by simp [Scanner.finish]⟩
    · simp only [Scanner.finish, take_trimEnd_before first]
    · simp only [Scanner.finish, visibleContent, markerAt?, take_before first]

theorem readAll_eq_feed (increments : List String) :
    readAll increments =
      ((feed {} increments).1.finish.1,
        (feed {} increments).2 ++ [(feed {} increments).1.finish.2]) := rfl

/-- However an answer is cut up, the scanner finds what `Decomposition.ofAnswer` finds in one go. -/
theorem readAll_eq (increments : List String) :
    let d := Decomposition.ofAnswer (String.join increments)
    String.join (fragments (readAll increments).2) = d.visible ∧
      (readAll increments).1.visibleContent = d.stored ∧
      reportedTitles (readAll increments).2 = d.title.toList ∧
      (readAll increments).1.title? = d.title := by
  obtain ⟨hsound, hfeed⟩ := sound_init.feed increments
  obtain ⟨hagrees, hlast⟩ := hsound.finish
  have hrun := hfeed.trans hlast
  have hraw : String.ofList (feed {} increments).1.raw = String.join increments := by
    rw [hfeed.raw, List.nil_append, String.ofList_toList]
  rw [hraw] at hagrees
  rw [readAll_eq_feed]
  refine ⟨?_, hagrees.stored, ?_, hagrees.title⟩
  · have hshown := hrun.shown
    rw [List.take_nil, List.nil_append] at hshown
    rw [← hagrees.visible, hshown, String.ofList_toList]
  · rw [← hagrees.title]
    exact hrun.title.symm

/-- However an answer is cut up, the same is seen of it. -/
theorem readAll_visible (increments : List String) :
    String.join (fragments (readAll increments).2) =
      (Decomposition.ofAnswer (String.join increments)).visible :=
  (readAll_eq increments).1

/-- However an answer is cut up, the same is stored of it. -/
theorem readAll_stored (increments : List String) :
    (readAll increments).1.visibleContent =
      (Decomposition.ofAnswer (String.join increments)).stored :=
  (readAll_eq increments).2.1

/-- However an answer is cut up, it has the same title. -/
theorem readAll_title (increments : List String) :
    (readAll increments).1.title? = (Decomposition.ofAnswer (String.join increments)).title :=
  (readAll_eq increments).2.2.2

theorem readAll_raw (increments : List String) :
    (readAll increments).1.raw = (String.join increments).toList := by
  obtain ⟨hsound, hfeed⟩ := sound_init.feed increments
  exact (hfeed.trans hsound.finish.2).raw.trans (List.append_nil _)

/-- Nothing empty is forwarded. -/
theorem readAll_nonempty (increments : List String) :
    ∀ fragment ∈ fragments (readAll increments).2, fragment ≠ "" := by
  obtain ⟨hsound, hfeed⟩ := sound_init.feed increments
  exact (hfeed.trans hsound.finish.2).nonempty

theorem titleOfLine_eq (line : List Char) :
    titleOfLine line = if trim line = [] then none else some (String.ofList (trim line)) := by
  rw [titleOfLine]
  split <;> simp_all

/-- However an answer is cut up: without a marker all of it is seen and stored. Otherwise what
stands before the first marker is seen without the blanks at its end, and stored without blanks
at either end; the title line behind the marker is the one title, unless it is blank. Two ways of
cutting up the same answer make no difference. -/
theorem readAll_decomposes (increments : List String) :
    let s : Scanner := (readAll increments).1
    let steps : List ScanStep := (readAll increments).2
    let answer := String.join increments
    (¬ markerChars <:+: answer.toList →
      String.join (fragments steps) = answer ∧ s.visibleContent = answer ∧
        reportedTitles steps = [] ∧ s.title? = none) ∧
    (∀ before after line, FirstAt markerChars answer.toList before after →
      IsTitleLine after line →
      String.join (fragments steps) = String.ofList (trimEnd before) ∧
        s.visibleContent = String.ofList (trim before) ∧
        reportedTitles steps = (if trim line = [] then [] else [String.ofList (trim line)]) ∧
        s.title? = (reportedTitles steps).head?) ∧
    ∀ increments', String.join increments' = answer →
      let s' : Scanner := (readAll increments').1
      let steps' : List ScanStep := (readAll increments').2
      String.join (fragments steps') = String.join (fragments steps) ∧
        s'.visibleContent = s.visibleContent ∧ reportedTitles steps' = reportedTitles steps ∧
        s'.title? = s.title? := by
  intro s steps answer
  obtain ⟨hseen, hstored, htitles, htitle⟩ := readAll_eq increments
  refine ⟨fun hfree => ?_, fun before after line first hline => ?_, fun increments' heq => ?_⟩
  · have hd := ofAnswer_eq_of_free hfree
    rw [String.ofList_toList] at hd
    rw [hd] at hseen hstored htitles htitle
    exact ⟨hseen, hstored, htitles, htitle⟩
  · have hd := ofAnswer_eq_of_first first
    rw [String.ofList_toList, titleLine_eq_iff.2 hline, titleOfLine_eq] at hd
    rw [hd] at hseen hstored htitles htitle
    refine ⟨hseen, hstored, ?_, ?_⟩
    · rw [htitles]
      split <;> rfl
    · rw [htitles, htitle]
      split <;> rfl
  · obtain ⟨hseen', hstored', htitles', htitle'⟩ := readAll_eq increments'
    rw [heq] at hseen' hstored' htitles' htitle'
    exact ⟨hseen'.trans hseen.symm, hstored'.trans hstored.symm, htitles'.trans htitles.symm,
      htitle'.trans htitle.symm⟩

/-- An answer cut in the middle of its marker and of its title. -/
theorem readAll_decomposes_split_marker :
    FirstAt markerChars (String.join ["Hi. \n", "CONVERSATION_", "TITLE: A t", "itle \nx"]).toList
        "Hi. \n".toList " A title \nx".toList ∧
      IsTitleLine " A title \nx".toList " A title ".toList ∧
      String.join (fragments (readAll ["Hi. \n", "CONVERSATION_", "TITLE: A t", "itle \nx"]).2) =
        "Hi." := by
  have first : FirstAt markerChars
      (String.join ["Hi. \n", "CONVERSATION_", "TITLE: A t", "itle \nx"]).toList
      "Hi. \n".toList " A title \nx".toList := ⟨by decide, by decide⟩
  have line : IsTitleLine " A title \nx".toList " A title ".toList :=
    ⟨by decide, by unfold EndsLine; decide, by unfold EndsLine; decide⟩
  have h := (readAll_decomposes ["Hi. \n", "CONVERSATION_", "TITLE: A t", "itle \nx"]).2.1
    _ _ _ first line
  exact ⟨first, line, h.1.trans (by decide)⟩

end Scanner

end ChatRelay.Title
