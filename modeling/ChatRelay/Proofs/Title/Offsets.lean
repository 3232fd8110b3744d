import ChatRelay.Proofs.Text.Offset
import ChatRelay.Proofs.Title.AnyOrder
import ChatRelay.Proofs.Title.HoldBack

/-!
# Scanners that count bytes

A `ByteScanner` keeps its places as numbers of bytes, and every time it cuts a
part out of a text the cut may fail. It never does: a scanner that is in order,
with its places counted in bytes (`Scanner.bytes`), is such a scanner and does the
same at every call (`Scanner.Orderly.call_bytes`).

`callAll_safe` puts together what holds of a scanner that is called in any order.
-/

namespace ChatRelay.Title

open Text (byteLength firstByte? offset slice? trimEnd)

/-- A scanner that keeps its places as numbers of bytes. -/
structure ByteScanner where
  raw : List Char := []
  shown : Nat := 0
  markerAt : Option Nat := none
  title : Option String := none
  titleDone : Bool := false
  deriving DecidableEq, Repr

/-- The end of the first line of a text, which a line feed or another marker closes. -/
def lineEnd? (after : List Char) : Option Nat :=
  Option.merge min (firstByte? ['\n'] after) (firstByte? markerChars after)

/-- The longest beginning of the marker, of at most so many bytes, that a text ends with. -/
def heldBytes? (raw : List Char) : Nat → Option Nat
  | 0 => some 0
  | n + 1 => do
    let begun ← slice? markerChars 0 (n + 1)
    if begun.isSuffixOf raw then some (n + 1) else heldBytes? raw n

namespace ByteScanner

/-- Forwards the text up to a place, unless it was forwarded before. -/
def advance? (s : ByteScanner) (stop : Nat) : Option (ByteScanner × Option String) :=
  if stop ≤ s.shown then some (s, none)
  else do
    let part ← slice? s.raw s.shown stop
    return ({ s with shown := stop }, some (String.ofList part))

/-- The end of the text that can be forwarded whatever follows it, but no place before the one up to
which text was forwarded. -/
def safeEnd? (s : ByteScanner) : Option Nat := do
  let held ← heldBytes? s.raw (byteLength markerChars - 1)
  let front ← slice? s.raw 0 (byteLength s.raw - held)
  return max (byteLength (trimEnd front)) s.shown

/-- Takes note of the title on a line. -/
def close (s : ByteScanner) (line : List Char) : ByteScanner × Option String :=
  match titleOfLine line with
  | none => ({ s with titleDone := true }, none)
  | some title => ({ s with title := some title, titleDone := true }, some title)

/-- Looks for the title line behind the marker, if it is still open. -/
def settle? (s : ByteScanner) (atEnd : Bool) : Option (ByteScanner × Option String) :=
  if s.titleDone then some (s, none)
  else
    match s.markerAt with
    | none => some (s, none)
    | some place => do
      let after ← slice? s.raw (place + byteLength markerChars) (byteLength s.raw)
      match lineEnd? after with
      | some stop => return s.close (← slice? after 0 stop)
      | none => return if atEnd then s.close after else (s, none)

/-- Looks at the text that was read. -/
def scan? (s : ByteScanner) : Option (ByteScanner × ScanStep) :=
  match s.markerAt with
  | some _ => do
    let (s, title) ← s.settle? false
    return (s, { title })
  | none => do
    let rest ← slice? s.raw s.shown (byteLength s.raw)
    match firstByte? markerChars rest with
    | some found => do
      let place := s.shown + found
      let front ← slice? s.raw 0 place
      let (s, visible) ← advance? { s with markerAt := some place } (byteLength (trimEnd front))
      let (s, title) ← s.settle? false
      return (s, { visible, title })
    | none => do
      let (s, visible) ← s.advance? (← s.safeEnd?)
      return (s, { visible })

/-- Reads the end of the answer. -/
def finish? (s : ByteScanner) : Option (ByteScanner × ScanStep) :=
  match s.markerAt with
  | some _ => do
    let (s, title) ← s.settle? true
    return (s, { title })
  | none => do
    let (s, visible) ← s.advance? (byteLength s.raw)
    return (s, { visible })

/-- Carries out a call. -/
def call? (s : ByteScanner) : ScanCall → Option (ByteScanner × ScanStep)
  | .consume increment => scan? { s with raw := s.raw ++ increment.toList }
  | .finish => s.finish?

/-- Carries out some calls, one after the other. -/
def callAll? (s : ByteScanner) : List ScanCall → Option (ByteScanner × List ScanStep)
  | [] => some (s, [])
  | c :: calls => do
    let (s, step) ← s.call? c
    let (s, steps) ← s.callAll? calls
    return (s, step :: steps)

end ByteScanner

/-! ## Lines and markers -/

/-- Only the bytes of the marker that stand at its own start count, and each of its characters is
one byte. -/
theorem offset_markerChars {n : Nat} (h : n ≤ markerChars.length) : offset markerChars n = n := by
  have hall : ∀ n ∈ List.range (markerChars.length + 1), offset markerChars n = n := by decide
  exact hall n (List.mem_range.2 (Nat.lt_succ_of_le h))

theorem titleLine_of_open {after : List Char} (h : (titleLine after).2 = false) :
    (titleLine after).1 = after := by
  induction after with
  | nil => rfl
  | cons c cs ih =>
    by_cases hends : EndsLine (c :: cs)
    · rw [titleLine_cons_of_endsLine hends] at h
      cases h
    · rw [titleLine_cons_of_not_endsLine hends] at h ⊢
      rw [ih h]

/-- The end of the first line is where the title line ends. -/
theorem lineEnd?_eq (after : List Char) :
    lineEnd? after =
      if (titleLine after).2 then some (byteLength (titleLine after).1) else none := by
  induction after with
  | nil => rfl
  | cons c cs ih =>
    by_cases hends : EndsLine (c :: cs)
    · rw [titleLine_cons_of_endsLine hends, lineEnd?]
      rcases hends with hfeed | hmarker
      · rw [Text.firstByte?_cons_of_isPrefix hfeed]
        cases firstByte? markerChars (c :: cs) <;> simp [Option.merge, byteLength]
      · rw [Text.firstByte?_cons_of_isPrefix hmarker]
        cases firstByte? ['\n'] (c :: cs) <;> simp [Option.merge, byteLength]
    · have hnot := not_or.1 hends
      rw [titleLine_cons_of_not_endsLine hends, lineEnd?,
        Text.firstByte?_cons_of_not_isPrefix hnot.1, Text.firstByte?_cons_of_not_isPrefix hnot.2]
      have hmerge : ∀ m n : Option Nat, Option.merge min (m.map (c.utf8Size + ·))
          (n.map (c.utf8Size + ·)) = (Option.merge min m n).map (c.utf8Size + ·) := by
        rintro (_ | m) (_ | n) <;> simp [Option.merge]
      rw [hmerge]
      rw [lineEnd?] at ih
      rw [ih]
      dsimp only
      split <;> rfl

theorem slice?_line (after : List Char) :
    slice? after 0 (byteLength (titleLine after).1) = some (titleLine after).1 := by
  have hpre := (titleLine_isTitleLine after).begins
  rw [Text.byteLength_of_isPrefix hpre, Text.slice?_to_offset, ← List.prefix_iff_eq_take.1 hpre]

/-- What is held back as the beginning of a marker is found byte by byte. -/
theorem heldBytes?_eq (raw : List Char) {n : Nat} (h : n < markerChars.length) :
    heldBytes? raw n = some (((List.range (n + 1)).reverse.find? fun n =>
      (markerChars.take n).isSuffixOf raw).getD 0) := by
  induction n with
  | zero =>
    simp [heldBytes?]
  | succ n ih =>
    have hslice := Text.slice?_to_offset markerChars (n + 1)
    rw [offset_markerChars (Nat.le_of_lt h)] at hslice
    rw [heldBytes?, hslice, List.range_succ, List.reverse_append, List.reverse_singleton,
      List.singleton_append, List.find?_cons]
    simp only [Option.bind_eq_bind, Option.bind_some]
    cases hends : (List.take (n + 1) markerChars).isSuffixOf raw with
    | true => rfl
    | false => exact ih (by omega)

theorem heldBytes?_heldMarker (raw : List Char) :
    heldBytes? raw (byteLength markerChars - 1) = some (heldMarker raw) :=
  heldBytes?_eq raw (by decide)

/-! ## The same scanner in bytes -/

namespace Scanner

/-- A scanner with its places counted in bytes. -/
def bytes (s : Scanner) : ByteScanner where
  raw := s.raw
  shown := offset s.raw s.shown
  markerAt := s.markerAt?.map (offset s.raw)
  title := s.title?
  titleDone := match s.phase with
    | .settled .. => true
    | _ => false

/-- The places of a scanner that is in order stay where they are when more text is read. -/
theorem Orderly.bytes_append {s : Scanner} (h : Orderly s) (text : List Char) :
    { s.bytes with raw := s.raw ++ text } = bytes { s with raw := s.raw ++ text } := by
  have hmarker : s.markerAt?.map (offset (s.raw ++ text)) = s.markerAt?.map (offset s.raw) := by
    cases hn : s.markerAt? with
    | none => rfl
    | some n =>
      have hle : n ≤ s.raw.length := by
        have := (h.marker n hn).2.length_le
        have hpos : 0 < markerChars.length := by decide
        rw [List.length_drop] at this
        omega
      exact congrArg some (Text.offset_append hle text)
  have hshown := Text.offset_append h.shown_le text
  have hfull : bytes { s with raw := s.raw ++ text } =
      { s.bytes with
        raw := s.raw ++ text
        shown := offset (s.raw ++ text) s.shown
        markerAt := s.markerAt?.map (offset (s.raw ++ text)) } := rfl
  rw [hfull, hmarker, hshown]
  rfl

theorem advance?_offset {b : ByteScanner} {s : Scanner}
    (hshown : b.shown = offset b.raw s.shown) (hs : s.shown ≤ b.raw.length) (stop : Nat)
    (hstop : stop ≤ b.raw.length) :
    b.advance? (offset b.raw stop) =
      some ({ b with shown := offset b.raw (s.forward b.raw stop).2 },
        (s.forward b.raw stop).1) := by
  rw [ByteScanner.advance?, forward, hshown]
  by_cases hle : stop ≤ s.shown
  · rw [if_pos ((Text.offset_le_iff hstop hs).2 hle), if_pos hle, ← hshown]
  · rw [if_neg (fun h => hle ((Text.offset_le_iff hstop hs).1 h)), if_neg hle,
      Text.slice?_offset b.raw (Nat.le_of_not_le hle)]
    rfl

/-- The bytes of what is held back are those of the beginning of a marker. -/
theorem safeEnd?_eq (b : ByteScanner) :
    b.safeEnd? = some (max (offset b.raw (safeEnd b.raw)) b.shown) := by
  have hheld : byteLength b.raw - heldMarker b.raw = offset b.raw (markerStart b.raw) := by
    have htake : byteLength (markerChars.take (heldMarker b.raw)) = heldMarker b.raw :=
      offset_markerChars (Nat.le_of_lt (heldMarker_spec b.raw).1)
    have hsum := congrArg byteLength (take_markerStart_append b.raw)
    rw [Text.byteLength_append, htake] at hsum
    rw [offset, ← hsum, Nat.add_sub_cancel]
  rw [ByteScanner.safeEnd?, heldBytes?_heldMarker]
  simp only [Option.bind_eq_bind, Option.bind_some, hheld, Text.slice?_to_offset]
  rw [Text.byteLength_of_isPrefix (trimEnd_take_isPrefix b.raw _), ← safeEnd_eq]
  rfl

/-- Behind a marker there is a place. -/
theorem slice?_marker {raw : List Char} {n : Nat} (h : markerChars <+: raw.drop n) :
    slice? raw (offset raw n + byteLength markerChars) (byteLength raw) =
      some (raw.drop (n + markerChars.length)) := by
  have hlength := h.length_le
  have hpos : 0 < markerChars.length := by decide
  rw [List.length_drop] at hlength
  rw [Text.byteLength_of_isPrefix h, ← Text.offset_add, Text.slice?_from_offset (by omega)]

/-- Looking for the title line is the same in bytes. -/
theorem settle?_bytes {raw : List Char} {n : Nat} (h : markerChars <+: raw.drop n) (shown : Nat)
    (atEnd : Bool) :
    let settled := settle n (raw.drop (n + markerChars.length)) atEnd
    (bytes { raw, shown, phase := .titling n }).settle? atEnd =
      some (bytes { raw, shown, phase := settled.1 }, settled.2) := by
  intro settled
  have hclose : ∀ line, (bytes { raw, shown, phase := .titling n }).close line =
      (bytes { raw, shown, phase := .settled n (titleOfLine line) }, titleOfLine line) := by
    intro line
    rw [ByteScanner.close]
    cases hline : titleOfLine line <;> rfl
  generalize hb : bytes { raw, shown, phase := .titling n } = b at hclose ⊢
  have hraw : b.raw = raw := hb ▸ rfl
  have hdone : b.titleDone = false := hb ▸ rfl
  have hplace : b.markerAt = some (offset raw n) := hb ▸ rfl
  have hline := slice?_line (raw.drop (n + markerChars.length))
  simp only [ByteScanner.settle?, hdone, Bool.false_eq_true, if_false, hplace, hraw,
    slice?_marker h, Option.bind_eq_bind, Option.bind_some, lineEnd?_eq, settled, settle_eq]
  cases hclosed : (titleLine (raw.drop (n + markerChars.length))).2 with
  | true =>
    simp [hline, hclose]
  | false =>
    cases atEnd with
    | true => simp [hclose, titleLine_of_open hclosed]
    | false => simp [← hb]

/-- A place that was forwarded before does not move. -/
theorem forward_max (s : Scanner) (raw : List Char) (stop : Nat) :
    s.forward raw (max stop s.shown) = s.forward raw stop := by
  rcases Nat.le_total stop s.shown with h | h
  · rw [Nat.max_eq_right h, forward, if_pos (Nat.le_refl _), forward, if_pos h]
  · rw [Nat.max_eq_left h]

/-- Looking at the text that was read is the same in bytes, as long as no marker is recorded. -/
theorem scan?_bytes {s : Scanner} (hphase : s.phase = .answering)
    (hshown : s.shown ≤ s.raw.length) (increment : String) :
    (bytes { s with raw := s.raw ++ increment.toList }).scan? =
      some ((s.consume increment).1.bytes, (s.consume increment).2) := by
  obtain ⟨raw, shown, phase⟩ := s
  cases hphase
  have hle : shown ≤ (raw ++ increment.toList).length := by
    rw [List.length_append]
    exact Nat.le_add_right_of_le hshown
  dsimp only [consume]
  generalize raw ++ increment.toList = r at hle ⊢
  generalize hb : bytes { raw := r, shown, phase := .answering } = b
  have hraw : b.raw = r := hb ▸ rfl
  have hplace : b.markerAt = none := hb ▸ rfl
  have hat : b.shown = offset r shown := hb ▸ rfl
  simp only [ByteScanner.scan?, hplace, hraw, hat, Option.bind_eq_bind,
    Text.slice?_from_offset hle, Option.bind_some, firstByte?]
  cases hs : Text.splitAtFirst markerChars (r.drop shown) with
  | none =>
    have hsafe : safeEnd r ≤ r.length := (trimEnd_take_isPrefix r _).length_le
    have hadvance := advance?_offset (b := b) (s := { raw, shown, phase := .answering })
      (by rw [hraw, hat]) (by rw [hraw]; exact hle) (max (safeEnd r) shown)
      (by rw [hraw]; exact Nat.max_le.2 ⟨hsafe, hle⟩)
    simp only [Option.map_none, safeEnd?_eq, hraw, hat, ← Text.offset_max hsafe hle,
      Option.bind_some]
    rw [hraw] at hadvance
    rw [hadvance, forward_max _ r (safeEnd r), ← hb]
    rfl
  | some parts =>
    obtain ⟨before, after⟩ := parts
    have hparts := Text.splitAtFirst_eq_some hs
    have hbefore : before <+: r.drop shown := by
      rw [hparts, List.append_assoc]
      exact List.prefix_append _ _
    have hmarker : markerChars <+: r.drop (shown + before.length) := by
      rw [← List.drop_drop, hparts, List.append_assoc, List.drop_left]
      exact List.prefix_append _ _
    have hafter : after = r.drop (shown + before.length + markerChars.length) := by
      rw [← List.drop_drop, ← List.drop_drop, hparts, List.append_assoc, List.drop_left,
        List.drop_left]
    have hstop : (trimEnd (r.take (shown + before.length))).length ≤ r.length :=
      (trimEnd_take_isPrefix r _).length_le
    have hadvance := advance?_offset
      (b := { b with markerAt := some (offset r (shown + before.length)) })
      (s := { raw, shown, phase := .answering }) (by rw [hraw, hat]) (by rw [hraw]; exact hle)
      (trimEnd (r.take (shown + before.length))).length (by rw [hraw]; exact hstop)
    simp only [hraw, hat] at hadvance
    simp only [Option.map_some, Text.byteLength_of_isPrefix hbefore, ← Text.offset_add,
      Text.slice?_to_offset, Option.bind_some,
      Text.byteLength_of_isPrefix (trimEnd_take_isPrefix r (shown + before.length)), hadvance]
    generalize forward { raw, shown, phase := .answering } r _ = forwarded
    have hsettle := settle?_bytes hmarker forwarded.2 false
    rw [← hafter] at hsettle
    have htitling : { b with
          raw := r, shown := offset r forwarded.2
          markerAt := some (offset r (shown + before.length)) } =
        bytes { raw := r, shown := forwarded.2, phase := .titling (shown + before.length) } :=
      hb ▸ rfl
    rw [htitling, hsettle]
    rfl

/-- Reading the end of the answer is the same in bytes, as long as no marker is recorded. -/
theorem finish?_bytes {s : Scanner} (hphase : s.phase = .answering)
    (hshown : s.shown ≤ s.raw.length) :
    s.bytes.finish? = some (s.finish.1.bytes, s.finish.2) := by
  obtain ⟨raw, shown, phase⟩ := s
  cases hphase
  have hadvance := advance?_offset (b := bytes { raw, shown, phase := .answering })
    (s := { raw, shown, phase := .answering }) rfl hshown raw.length (Nat.le_refl _)
  have hraw : (bytes { raw, shown, phase := .answering }).raw = raw := rfl
  rw [hraw, Text.offset_length] at hadvance
  simp only [ByteScanner.finish?, hraw, hadvance, Option.bind_eq_bind, Option.bind_some]
  rfl

/-- Every call of a scanner that is in order is the same in bytes, and so cuts no text at a place
that is not there. -/
theorem Orderly.call_bytes {s : Scanner} (h : Orderly s) (c : ScanCall) :
    s.bytes.call? c = some ((s.call c).1.bytes, (s.call c).2) := by
  cases c with
  | consume increment =>
    refine (congrArg ByteScanner.scan? (h.bytes_append increment.toList)).trans ?_
    obtain ⟨raw, shown, phase⟩ := s
    cases phase with
    | answering => exact scan?_bytes rfl h.shown_le increment
    | titling n =>
      have hmarker := Text.prefix_drop_append (h.marker n rfl).2 increment.toList
      exact congrArg (Option.bind · _) (settle?_bytes hmarker shown false)
    | settled n title => rfl
  | finish =>
    obtain ⟨raw, shown, phase⟩ := s
    cases phase with
    | answering => exact finish?_bytes rfl h.shown_le
    | titling n =>
      exact congrArg (Option.bind · _) (settle?_bytes (h.marker n rfl).2 shown true)
    | settled n title => rfl

/-- So is every run of calls. -/
theorem Orderly.callAll_bytes {s : Scanner} (h : Orderly s) (calls : List ScanCall) :
    s.bytes.callAll? calls = some ((s.callAll calls).1.bytes, (s.callAll calls).2) := by
  induction calls generalizing s with
  | nil => rfl
  | cons c calls ih =>
    rw [ByteScanner.callAll?, h.call_bytes, callAll_cons]
    simp only [Option.bind_eq_bind, Option.bind_some, ih (h.call c).orderly]
    rfl

/-! ## Any calls in any order -/

/-- The first title that is reported stays the title, and no other is reported. -/
theorem Advances.title_stays {s s' : Scanner} {text : List Char} {steps : List ScanStep}
    {title : String} (h : Advances s s' text steps) (ht : s.title? = some title) :
    s'.title? = some title ∧ reportedTitles steps = [] := by
  have htitle := h.title
  rw [ht] at htitle
  cases ht' : s'.title? with
  | none =>
    rw [ht'] at htitle
    cases htitle
  | some title' =>
    rw [ht'] at htitle
    obtain ⟨rfl, hnone⟩ := List.cons.inj htitle
    exact ⟨rfl, hnone.symm⟩

/-- A scanner may be called in any order, after the end of the answer was announced too. No text is
cut at a place that is not there. What was shown is the beginning of what was read. Once the marker
is recorded nothing more is shown, and what was shown lies before it. One title is reported at most,
which stays the title. -/
theorem callAll_safe (before later : List ScanCall) :
    let (s, steps) := callAll {} before
    let (s', steps') := s.callAll later
    ByteScanner.callAll? {} before = some (s.bytes, steps) ∧
      s.raw = before.flatMap ScanCall.text ∧
      (String.join (fragments steps)).toList = s.raw.take s.shown ∧
      (∀ n, s.markerAt? = some n →
        s.shown ≤ n ∧ markerChars <+: s.raw.drop n ∧ s'.markerAt? = some n ∧
          fragments steps' = []) ∧
      reportedTitles steps = s.title?.toList ∧
      ∀ t, s.title? = some t → IsTitle t ∧ s'.title? = some t ∧ reportedTitles steps' = [] := by
  obtain ⟨horderly, hadvances, -⟩ := orderly_init.callAll before
  obtain ⟨-, hadvances', hcloses'⟩ := horderly.callAll later
  refine ⟨orderly_init.callAll_bytes before, by simpa using hadvances.raw, ?_, fun n hn => ?_, ?_,
    fun t ht => ⟨horderly.title t ht, hadvances'.title_stays ht⟩⟩
  · have hshown := hadvances.shown
    simpa using hshown.symm
  · exact ⟨(horderly.marker n hn).1, (horderly.marker n hn).2, hcloses' n hn⟩
  · have htitle := hadvances.title
    simpa [title?] using htitle.symm

/-- Half a marker is shown when the end is announced in its midst, and then it is none. -/
example :
    let (s, steps) :=
      callAll {} [.consume "Hi CONVERSATION_", .finish, .consume "TITLE: A", .finish]
    fragments steps = ["Hi", " CONVERSATION_", "TITLE: A"] ∧ s.markerSeen = false := by decide

end Scanner

end ChatRelay.Title
