import ChatRelay.Command.Run
import ChatRelay.Json.Any
import ChatRelay.Proofs.Generation.Refusal
import ChatRelay.Proofs.Http.EventStream
import ChatRelay.Proofs.Service.Transcript
import ChatRelay.Proofs.Wire

/-!
# Events are told apart

The events of an answer are passed on in two ways. In an event stream each takes two
lines and a blank one, and on standard output each is a line. What they hold is JSON
text, which has no line breaks whatever it tells of, so the lines that are found are
those that were written (`splitOn_flatMap_of_not_mem`), and the values that are read
from them are those that were sent (`Value.Fits.ofText_compact`).

The log is kept on standard output, too. Its records come between the lines of the
events and never break one, but they are there: nothing else than the events is on
standard output exactly if nothing is logged (`Outcome.Shown.splitOn_eq_iff`).
-/

namespace ChatRelay

open Json (Value maxDepth)

section Pieces

variable {α : Type} [BEq α] [LawfulBEq α] {x : α}

/-- Pieces that are each followed by a separator are split one by one. -/
theorem splitOn_flatMap_concat (pieces : List (List α)) :
    (pieces.flatMap (· ++ [x])).splitOn x = pieces.flatMap (·.splitOn x) ++ [[]] := by
  induction pieces with
  | nil => exact List.splitOn_nil x
  | cons piece pieces ih =>
    rw [List.flatMap_cons, List.append_assoc, List.singleton_append,
      List.splitOn_append_cons_self, ih, List.flatMap_cons, List.append_assoc]

/-- Pieces without separators are found again. -/
theorem splitOn_flatMap_of_not_mem {pieces : List (List α)} (h : ∀ piece ∈ pieces, x ∉ piece) :
    (pieces.flatMap (· ++ [x])).splitOn x = pieces ++ [[]] := by
  have hpieces : pieces.map (·.splitOn x) = pieces.map ([·]) :=
    List.map_congr_left fun piece hpiece => List.splitOn_eq_singleton (h piece hpiece)
  rw [splitOn_flatMap_concat, List.flatMap_def, hpieces, ← List.flatMap_def,
    List.flatMap_singleton']

end Pieces

/-! ## Values of any kind -/

namespace Json

theorem itemValues_itemSources {items : List Value} (h : ∀ v ∈ items, v.source.value = v) :
    itemValues (itemSources items) = items := by
  induction items with
  | nil => rfl
  | cons v items ih =>
    obtain ⟨hv, hitems⟩ := List.forall_mem_cons.1 h
    rw [itemSources, itemValues, hv, ih hitems]

theorem memberValues_memberSources {members : List (String × Value)}
    (h : ∀ m ∈ members, m.2.source.value = m.2) :
    memberValues (memberSources members) = members := by
  induction members with
  | nil => rfl
  | cons m members ih =>
    obtain ⟨hm, hmembers⟩ := List.forall_mem_cons.1 h
    rw [memberSources, memberValues, hm, ih hmembers]
    rfl

namespace Value.Fits

/-- The value of what is to be read of a value, by induction on its levels. -/
theorem value_source {room : Nat} {v : Value} (h : v.Fits room) : v.source.value = v := by
  induction h with
  | text s => rfl
  | @nat room n _ =>
    rw [Value.nat, Value.source, Number.source, if_pos (Int.natCast_nonneg n)]
    rfl
  | list _ ih => rw [Value.source, Source.value, itemValues_itemSources ih]
  | object _ ih => rw [Value.source, Source.value, memberValues_memberSources ih]

/-- A value that is written is read, also by somebody who does not know its shape. -/
theorem ofText_compact {v : Value} (h : v.Fits maxDepth) : Value.ofText v.compact = .ok v := by
  refine decodeText_compact h ?_
  have hadmitted : Source.admit maxDepth v.source = .ok () := Value.Fits.admit h
  show ( Source.admit maxDepth v.source >>= fun _ => pure v.source.value) = _
  rw [hadmitted, h.value_source]
  rfl

end Value.Fits

end Json

/-! ## Event streams -/

namespace Http

open EventStream (frames lines linesOf)

namespace StreamMessage

/-- The name that a message has in an event stream. -/
def name : StreamMessage → String
  | .event e => e.name
  | .failed _ => "error"

/-- What a message tells. -/
def payload : StreamMessage → Value
  | .event e => e.toJson
  | .failed e => .object [("code", .text e.code.name), ("message", .text e.message)]

theorem frame_eq (m : StreamMessage) : m.frame = ⟨m.name, m.payload.compact⟩ := by
  cases m <;> rfl

theorem payload_fits (m : StreamMessage) : m.payload.Fits maxDepth := by
  cases m with
  | event e => exact e.fits
  | failed e =>
    have hobject : (payload (.failed e)).Fits 1 := .object (by simp [Value.Fits.text])
    exact hobject.mono (by decide)

theorem payload_unbroken (m : StreamMessage) : Unbroken m.payload.chars := by
  have hdata := m.frame_legible.data
  rwa [frame_eq, Value.compact, String.toList_ofList] at hdata

/-- The two lines of a message. -/
def fieldLines (m : StreamMessage) : List (List Char) :=
  ["event: ".toList ++ m.name.toList, "data: ".toList ++ m.payload.chars]

theorem linesOf_frame (m : StreamMessage) : linesOf m.frame = m.fieldLines ++ [[]] := by
  rw [frame_eq, linesOf, Value.compact, String.toList_ofList]
  rfl

theorem nil_not_mem_fieldLines (m : StreamMessage) : [] ∉ m.fieldLines := by
  simp [fieldLines]

end StreamMessage

/-- The text of an event stream. -/
def streamText (messages : List StreamMessage) : List Char :=
  (Content.events (messages.map StreamMessage.frame)).chars

theorem legible_of_mem {messages : List StreamMessage} :
    ∀ f ∈ messages.map StreamMessage.frame, f.Legible := by
  intro f hf
  obtain ⟨m, -, rfl⟩ := List.mem_map.1 hf
  exact m.frame_legible

theorem lines_streamText (messages : List StreamMessage) :
    (lines (streamText messages)).splitOn [] =
      messages.map StreamMessage.fieldLines ++ [[]] := by
  have hlines : lines (streamText messages) =
      (messages.map StreamMessage.fieldLines).flatMap (· ++ [[]]) := by
    rw [streamText, Content.chars, EventStream.lines_chars legible_of_mem, List.flatMap_map,
      List.flatMap_map]
    exact congrArg messages.flatMap (funext StreamMessage.linesOf_frame)
  rw [hlines, splitOn_flatMap_of_not_mem]
  intro piece hpiece
  obtain ⟨m, -, rfl⟩ := List.mem_map.1 hpiece
  exact m.nil_not_mem_fieldLines

theorem frames_streamText (messages : List StreamMessage) :
    (frames (streamText messages)).map (fun f => (f.name, Value.ofText f.data)) =
      messages.map fun m => (m.name, .ok m.payload) := by
  rw [streamText, Content.chars, EventStream.frames_chars legible_of_mem, List.map_map]
  refine List.map_congr_left fun m _ => ?_
  rw [Function.comp_apply, StreamMessage.frame_eq, m.payload_fits.ofText_compact]

/-- Content that looks like the end of an event and the beginning of another is content. -/
example :
    frames (streamText [.event (.content "\r\n\nevent: error\ndata: 1\n\n")]) =
      [⟨"content",
        "\x7b\"type\":\"content\",\"text\":\"\\r\\n\\nevent: error\\ndata: 1\\n\\n\"\x7d"⟩] := by
  decide +kernel

end Http

/-! ## Standard output -/

namespace Command

open Generation (Event LogLevel)
open Service (Environment Home)

variable {σ : Type}

/-- The events of an answer that is asked for at the command line. -/
def answerEvents (env : Environment σ) (settings : AiSettings) (user : UserId)
    (session : Option String) (message : String) (h : Home σ) : List Event :=
  match (Generation.start settings (some user) ⟨[⟨.user, message⟩], session⟩).run env h.world with
  | (.error _, _) => []
  | (.ok g, world) =>
    (g.runToEnd.run env { world with room := none, delivered := [] }).2.delivered

theorem answerOutput_out (events : List Event) :
    (answerOutput true events).out.toList =
      (events.map fun e => e.toJson.chars).flatMap (· ++ ['\n']) := by
  have hfold : ∀ o : Output,
      (events.foldl (fun o e => o.append { out := eventLine e }) o).out.toList =
        o.out.toList ++ (events.map fun e => e.toJson.chars).flatMap (· ++ ['\n']) := by
    induction events with
    | nil => exact fun o => (List.append_nil _).symm
    | cons e events ih =>
      intro o
      rw [List.foldl_cons, ih]
      simp [Output.append, eventLine, Value.compact]
  exact hfold {}

/-- The lines of an answer for a program are those of its events. -/
theorem answerOutput_splitOn (events : List Event) :
    (answerOutput true events).out.toList.splitOn '\n' =
      (events.map fun e => e.toJson.chars) ++ [[]] := by
  rw [answerOutput_out, splitOn_flatMap_of_not_mem]
  intro piece hpiece hbreak
  obtain ⟨e, -, rfl⟩ := List.mem_map.1 hpiece
  exact (e.toJson_unbroken '\n' hbreak).1 rfl

/-- Whether or not an answer is generated, the command writes its events to standard output. -/
theorem ask_out (env : Environment σ) (config : Config) (secret : List UInt8) (h : Home σ)
    (user : String) (session : Option String) (message : String) :
    (Action.run env config secret true h (.ask user session message)).1.allOutput.out =
      (answerOutput true (answerEvents env config.ai ⟨user⟩ session message h)).out := by
  rw [Action.run, generateAnswer, answerEvents]
  generalize (Generation.start config.ai (some ⟨user⟩) ⟨[⟨.user, message⟩], session⟩).run env
    h.world = started
  obtain ⟨e | g, world⟩ := started
  · rfl
  · dsimp only
    generalize g.runToEnd.run env { world with room := none, delivered := [] } = ended
    obtain ⟨e | _, world'⟩ := ended
    · simp [Outcome.allOutput, Output.append]
    · rfl

/-- The failures that go to the log are those that were reported meanwhile. -/
theorem ask_reports (env : Environment σ) (config : Config) (secret : List UInt8) (h : Home σ)
    (json : Bool) (user : String) (session : Option String) (message : String) :
    let asked := Action.run env config secret json h (.ask user session message)
    asked.2.world.diagnostics = h.world.diagnostics ++ asked.1.reports := by
  have htrace := Generation.start_leavesNoTrace env config.ai (some ⟨user⟩)
    ⟨[⟨.user, message⟩], session⟩ h.world
  simp only [Action.run, generateAnswer]
  rcases hstart : (Generation.start config.ai (some ⟨user⟩) ⟨[⟨.user, message⟩], session⟩).run env
    h.world with ⟨e | g, world⟩
  · rw [hstart] at htrace
    exact htrace.diagnostics.trans (List.append_nil _).symm
  · rw [hstart] at htrace
    have hdiagnostics := htrace.diagnostics
    have hrun := g.runToEnd.run_diagnostics env { world with room := none, delivered := [] }
    dsimp only at hdiagnostics hrun ⊢
    rw [hrun, hdiagnostics, List.drop_left]

/-! ### The log -/

/-- The lines of what is written at once. -/
def Write.lines (w : Write) : List (List Char) := w.text.toList.splitOn '\n'

/-- What is written at once is split on its own. -/
theorem standardOutput_splitOn (writes : List Write) :
    (standardOutput writes).splitOn '\n' = writes.flatMap Write.lines ++ [[]] := by
  have hwrites : standardOutput writes =
      (writes.map fun w => w.text.toList).flatMap (· ++ ['\n']) := by
    rw [List.flatMap_map]
    rfl
  rw [hwrites, splitOn_flatMap_concat, List.flatMap_map]
  rfl

/-- Everything that is written has lines of its own. -/
theorem length_lines_filter (writes : List Write) :
    ((writes.filter Write.isLine).flatMap Write.lines).length +
        writes.countP (fun w => !w.isLine) ≤ (writes.flatMap Write.lines).length := by
  induction writes with
  | nil => exact Nat.le_refl _
  | cons w writes ih =>
    have hlines : 0 < w.lines.length :=
      List.length_pos_iff.2 (List.splitOn_ne_nil '\n' w.text.toList)
    rw [List.flatMap_cons, List.length_append]
    cases hline : w.isLine with
    | true =>
      rw [List.filter_cons_of_pos hline, List.flatMap_cons, List.length_append,
        List.countP_cons_of_neg (by simp [hline])]
      omega
    | false =>
      rw [List.filter_cons_of_neg (by simp [hline]), List.countP_cons_of_pos (by simp [hline])]
      omega

namespace Outcome.Shown

variable {o : Outcome} {keeps : LogLevel → Bool} {writes : List Write} {events : List Event}

/-- Without the records of the log, the lines of standard output are those of the events. -/
theorem lines_filter (h : o.Shown keeps writes)
    (hout : o.allOutput.out = (answerOutput true events).out) :
    (writes.filter Write.isLine).flatMap Write.lines = events.map fun e => e.toJson.chars := by
  have hsplit : (writes.filter Write.isLine).flatMap Write.lines ++ [[]] =
      (events.map fun e => e.toJson.chars) ++ [[]] := by
    rw [← standardOutput_splitOn, h.lines, hout, answerOutput_splitOn]
  exact List.append_cancel_right hsplit

/-- Everything is a line of the command exactly if nothing is logged. -/
theorem all_isLine_iff (h : o.Shown keeps writes) :
    (∀ w ∈ writes, w.isLine = true) ↔
      (∀ d ∈ o.reports, keeps d.kind.level = false) ∧ ∀ text, Write.other text ∉ writes := by
  have hlogged : (∀ d ∈ o.reports, keeps d.kind.level = false) ↔
      ∀ w ∈ writes, w.report? = none := by
    rw [← List.filterMap_eq_nil_iff, h.reports, logged, List.filter_eq_nil_iff]
    simp
  rw [hlogged]
  constructor
  · intro hlines
    refine ⟨fun w hw => ?_, fun text hw => ?_⟩
    · have hline := hlines w hw
      cases w with
      | line text => rfl
      | report d text => cases hline
      | other text => cases hline
    · cases hlines _ hw
  · rintro ⟨hreports, hother⟩ w hw
    cases w with
    | line text => rfl
    | report d text => cases hreports _ hw
    | other text => exact absurd hw (hother text)

/-- Standard output has the lines of the events and no others exactly if nothing is logged. -/
theorem splitOn_eq_iff (h : o.Shown keeps writes)
    (hout : o.allOutput.out = (answerOutput true events).out) :
    (standardOutput writes).splitOn '\n' = (events.map fun e => e.toJson.chars) ++ [[]] ↔
      (∀ d ∈ o.reports, keeps d.kind.level = false) ∧ ∀ text, Write.other text ∉ writes := by
  rw [← h.all_isLine_iff, standardOutput_splitOn, ← h.lines_filter hout]
  constructor
  · intro heq
    have hlength := congrArg List.length (List.append_cancel_right heq)
    have hcount := length_lines_filter writes
    have hnone : writes.countP (fun w => !w.isLine) = 0 := by omega
    simpa [List.countP_eq_zero] using hnone
  · intro hlines
    rw [List.filter_eq_self.2 hlines]

end Outcome.Shown

end Command

/-! ## Both ways -/

open Command (Action Write answerEvents answerOutput standardOutput)
open Generation (Event LogLevel)
open Http (StreamMessage streamText)
open Http.EventStream (frames lines)
open Service (Environment Home)

end ChatRelay
