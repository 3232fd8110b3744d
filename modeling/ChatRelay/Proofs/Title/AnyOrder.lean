import ChatRelay.Proofs.Title.Scan

/-!
# Scanners that are called in any order

The end of an answer may be announced more than once, and more text may come
behind it. The scanner then no longer finds what `Decomposition.ofAnswer` does: a
marker that was half shown when the end was announced is not found any more.

It stays `Orderly` all the same, and every call `Advances` it (`Orderly.call`), and
so does every run of calls (`Orderly.callAll`).
-/

namespace ChatRelay.Title

open Text (FirstAt trim trimEnd)

/-- A call of a scanner. -/
inductive ScanCall where
  | consume (increment : String)
  | finish
  deriving DecidableEq, Repr

/-- The text that a call brings. -/
def ScanCall.text : ScanCall → List Char
  | .consume increment => increment.toList
  | .finish => []

/-- A title as it is reported: one line without a marker and without blanks at either end, and not
empty. -/
structure IsTitle (title : String) : Prop where
  ne_empty : title ≠ ""
  trimmed : Text.trimText title = title
  oneLine : '\n' ∉ title.toList
  unmarked : ¬ markerChars <:+: title.toList

/-! ## Titles -/

theorem not_mem_of_isTitleLine {after line : List Char} (h : IsTitleLine after line) :
    '\n' ∉ line := by
  intro hmem
  obtain ⟨before, rest, rfl⟩ := List.append_of_mem hmem
  refine h.unbroken before.length (by simp) (.inl ?_)
  obtain ⟨tail, htail⟩ := h.begins
  rw [← htail]
  simp

theorem not_isInfix_of_isTitleLine {after line : List Char} (h : IsTitleLine after line) :
    ¬ markerChars <:+: line := by
  rintro ⟨before, rest, rfl⟩
  refine h.unbroken before.length ?_ (.inr ?_)
  · have : 0 < markerChars.length := by decide
    simp only [List.length_append]
    omega
  · obtain ⟨tail, htail⟩ := h.begins
    rw [← htail]
    simp

/-- What is found on a title line is a title. -/
theorem isTitle_of_titleLine {after : List Char} {title : String}
    (h : titleOfLine (titleLine after).1 = some title) : IsTitle title := by
  have hline := titleLine_isTitleLine after
  generalize (titleLine after).1 = line at h hline
  rw [Scanner.titleOfLine_eq] at h
  split at h
  · cases h
  · rename_i hne
    cases h
    refine ⟨fun h => hne (String.ofList_eq_empty_iff.1 h), ?_, ?_, ?_⟩
    · rw [Text.trimText, String.toList_ofList, Text.trim_trim]
    · rw [String.toList_ofList]
      exact fun h => not_mem_of_isTitleLine hline ((Text.trim_isInfix line).subset h)
    · rw [String.toList_ofList]
      exact fun h => not_isInfix_of_isTitleLine hline (h.trans (Text.trim_isInfix line))

namespace Scanner

/-- Carries out a call. -/
def call (s : Scanner) : ScanCall → Scanner × ScanStep
  | .consume increment => s.consume increment
  | .finish => s.finish

/-- Carries out some calls, one after the other. -/
def callAll (s : Scanner) : List ScanCall → Scanner × List ScanStep
  | [] => (s, [])
  | c :: calls =>
    let (s, step) := s.call c
    let (s, steps) := s.callAll calls
    (s, step :: steps)

/-- What holds of a scanner whatever it was called with: it has not shown more than there is, and
nothing behind the marker that it recorded. -/
structure Orderly (s : Scanner) : Prop where
  shown_le : s.shown ≤ s.raw.length
  marker : ∀ n, s.markerAt? = some n → s.shown ≤ n ∧ markerChars <+: s.raw.drop n
  title : ∀ t, s.title? = some t → IsTitle t

/-- Once the marker is recorded it stays recorded, and nothing more is shown. -/
def Closes (s s' : Scanner) (steps : List ScanStep) : Prop :=
  ∀ n, s.markerAt? = some n → s'.markerAt? = some n ∧ fragments steps = []

theorem orderly_init : Orderly {} := ⟨Nat.le_refl _, nofun, nofun⟩

theorem Closes.trans {s₁ s₂ s₃ : Scanner} {steps steps' : List ScanStep} (h : Closes s₁ s₂ steps)
    (h' : Closes s₂ s₃ steps') : Closes s₁ s₃ (steps ++ steps') := by
  intro n hn
  obtain ⟨hat, hnone⟩ := h n hn
  obtain ⟨hat', hnone'⟩ := h' n hat
  exact ⟨hat', by rw [fragments_append, hnone, hnone', List.append_nil]⟩

/-! ## One call -/

/-- A scanner that was called became `s'`, and `step` says what that brought to light. -/
structure Moves (s s' : Scanner) (text : List Char) (step : ScanStep) : Prop where
  orderly : Orderly s'
  advances : Advances s s' text [step]
  closes : Closes s s' [step]

/-- As long as no marker is recorded, a call forwards text that is there. -/
theorem advances_forward {raw : List Char} {shown : Nat} (hshown : shown ≤ raw.length)
    (text : List Char) (stop : Nat) (hstop : stop ≤ (raw ++ text).length) (phase : ScanPhase) :
    let s : Scanner := { raw, shown, phase := .answering }
    let s' : Scanner := { raw := raw ++ text, shown := max shown stop, phase }
    Advances s s' text [{ visible := (s.forward (raw ++ text) stop).1, title := s'.title? }] := by
  refine ⟨rfl, ?_, by simp [title?], by simpa using forward_ne_empty hstop⟩
  have hkeep : (raw ++ text).take shown = raw.take shown := List.take_append_of_le_length hshown
  simpa [hkeep] using take_forward { raw, shown, phase := .answering } (raw ++ text) stop

theorem moves_forward {raw : List Char} {shown : Nat} (hshown : shown ≤ raw.length)
    (text : List Char) (stop : Nat) (hstop : stop ≤ (raw ++ text).length) :
    let s : Scanner := { raw, shown, phase := .answering }
    Moves s { raw := raw ++ text, shown := max shown stop, phase := .answering } text
      { visible := (s.forward (raw ++ text) stop).1 } := by
  refine ⟨⟨?_, nofun, nofun⟩, advances_forward hshown text stop hstop .answering, nofun⟩
  rw [List.length_append] at hstop ⊢
  dsimp only
  omega

theorem markerAt?_settle (raw : List Char) (shown markerAt : Nat) (after : List Char)
    (atEnd : Bool) :
    ({ raw, shown, phase := (settle markerAt after atEnd).1 } : Scanner).markerAt? =
      some markerAt := by
  rw [settle_eq]
  split <;> rfl

/-- Looking for the title line behind a marker keeps a scanner in order. -/
theorem orderly_settle {raw : List Char} {shown n : Nat} (hn : shown ≤ n)
    (hmarker : markerChars <+: raw.drop n) (after : List Char) (atEnd : Bool) :
    Orderly { raw, shown, phase := (settle n after atEnd).1 } := by
  refine ⟨?_, fun m hm => ?_, fun t ht => ?_⟩
  · have hlength := hmarker.length_le
    have : 0 < markerChars.length := by decide
    rw [List.length_drop] at hlength
    dsimp only
    omega
  · rw [markerAt?_settle] at hm
    cases hm
    exact ⟨hn, hmarker⟩
  · rw [title?_settle, settle_eq] at ht
    split at ht
    · exact isTitle_of_titleLine ht
    · cases ht

/-- Once a marker is recorded, a call looks for the title line behind it. -/
theorem moves_settle {raw : List Char} {shown n : Nat} (hn : shown ≤ n)
    (hmarker : markerChars <+: raw.drop n) (text after : List Char) (atEnd : Bool) :
    Moves { raw, shown, phase := .titling n }
      { raw := raw ++ text, shown, phase := (settle n after atEnd).1 } text
      { title := (settle n after atEnd).2 } := by
  have hmarker' := Text.prefix_drop_append hmarker text
  have hshown : shown ≤ raw.length := (orderly_settle hn hmarker [] true).shown_le
  refine ⟨orderly_settle hn hmarker' _ _, ⟨rfl, ?_, ?_, by simp⟩, ?_⟩
  · simp [List.take_append_of_le_length hshown]
  · rw [title?_settle, reportedTitles_singleton]
    rfl
  · rintro m ⟨⟩
    exact ⟨markerAt?_settle _ _ _ _ _, rfl⟩

/-- Once the title line is closed, a call brings nothing to light. -/
theorem moves_settled {raw : List Char} {shown n : Nat} {title : Option String}
    (h : Orderly { raw, shown, phase := .settled n title }) (text : List Char) :
    Moves { raw, shown, phase := .settled n title }
      { raw := raw ++ text, shown, phase := .settled n title } text {} := by
  obtain ⟨hshown, hmarker, htitle⟩ := h
  refine ⟨⟨?_, fun m hm => ?_, htitle⟩, ⟨rfl, ?_, by simp [title?], by simp⟩, ?_⟩
  · rw [List.length_append]
    exact Nat.le_add_right_of_le hshown
  · obtain ⟨hle, hat⟩ := hmarker m hm
    exact ⟨hle, Text.prefix_drop_append hat text⟩
  · simp [List.take_append_of_le_length hshown]
  · rintro m ⟨⟩
    exact ⟨rfl, rfl⟩

/-- An increment that is read before a marker is recorded may bring one. -/
theorem moves_consume {raw : List Char} {shown : Nat} (hshown : shown ≤ raw.length)
    (increment : String) :
    let s : Scanner := { raw, shown, phase := .answering }
    Moves s (s.consume increment).1 increment.toList (s.consume increment).2 := by
  intro s
  cases hs : Text.splitAtFirst markerChars ((raw ++ increment.toList).drop shown) with
  | none =>
    rw [consume_unmarked hs]
    exact moves_forward hshown _ _ (trimEnd_take_isPrefix _ _).length_le
  | some parts =>
    obtain ⟨before, after⟩ := parts
    have hmarker : markerChars <+: (raw ++ increment.toList).drop (shown + before.length) := by
      rw [← List.drop_drop, Text.splitAtFirst_eq_some hs, List.append_assoc, List.drop_left]
      exact List.prefix_append _ _
    have hle := (Text.trimEnd_isPrefix
      ((raw ++ increment.toList).take (shown + before.length))).length_le
    rw [List.length_take] at hle
    generalize hstop :
      (trimEnd ((raw ++ increment.toList).take (shown + before.length))).length = stop at hle
    have hadvances := advances_forward hshown increment.toList stop (by omega)
      (settle (shown + before.length) after false).1
    dsimp only at hadvances
    rw [title?_settle] at hadvances
    rw [consume_marked hs, hstop]
    refine ⟨orderly_settle (by omega) hmarker _ _, hadvances, fun n hn => ?_⟩
    cases hn

/-- Every call keeps a scanner in order, and continues what it brought to light. -/
theorem Orderly.call {s : Scanner} (h : Orderly s) (c : ScanCall) :
    Moves s (s.call c).1 c.text (s.call c).2 := by
  obtain ⟨raw, shown, phase⟩ := s
  cases phase with
  | answering =>
    cases c with
    | consume increment => exact moves_consume h.shown_le increment
    | finish =>
      have hmoves := moves_forward h.shown_le [] raw.length (by simp)
      rw [List.append_nil] at hmoves
      simpa only [Scanner.call, ScanCall.text, finish, forward_snd] using hmoves
  | titling n =>
    obtain ⟨hn, hmarker⟩ := h.marker n rfl
    cases c with
    | consume increment => exact moves_settle hn hmarker _ _ _
    | finish =>
      have hmoves := moves_settle hn hmarker [] (raw.drop (n + markerChars.length)) true
      rw [List.append_nil] at hmoves
      exact hmoves
  | settled n title =>
    cases c with
    | consume increment => exact moves_settled h increment.toList
    | finish =>
      have hmoves := moves_settled h []
      rw [List.append_nil] at hmoves
      exact hmoves

/-! ## Runs of calls -/

theorem callAll_cons (s : Scanner) (c : ScanCall) (calls : List ScanCall) :
    s.callAll (c :: calls) =
      (((s.call c).1.callAll calls).1, (s.call c).2 :: ((s.call c).1.callAll calls).2) := rfl

/-- So does every run of calls. -/
theorem Orderly.callAll {s : Scanner} (h : Orderly s) (calls : List ScanCall) :
    Orderly (s.callAll calls).1 ∧
      Advances s (s.callAll calls).1 (calls.flatMap ScanCall.text) (s.callAll calls).2 ∧
      Closes s (s.callAll calls).1 (s.callAll calls).2 := by
  induction calls generalizing s with
  | nil => exact ⟨h, .refl s, fun n hn => ⟨hn, rfl⟩⟩
  | cons c calls ih =>
    obtain ⟨horderly, hstep, hcloses⟩ := h.call c
    obtain ⟨horderly', hrun, hcloses'⟩ := ih horderly
    exact ⟨horderly', hstep.trans hrun, hcloses.trans hcloses'⟩

end Scanner

end ChatRelay.Title
