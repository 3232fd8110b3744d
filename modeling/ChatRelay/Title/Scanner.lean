import ChatRelay.Text.WhiteSpace
import ChatRelay.Text.Search

/-!
# The title scanner

An answer may end with a marker and a title. The scanner reads the answer in
increments of any size, forwards the part that is meant to be seen and reports
the title once.

Text that may still turn out to be the start of the marker is held back, and so
is blank text, which is dropped when the marker follows. What is forwarded is
therefore the same however the answer is cut up:

* `Scanner.consume` reads an increment, `Scanner.finish` the end of the answer;
* `Scanner.visibleContent` is the text to store, `Scanner.title?` the title;
* `Decomposition.ofAnswer` takes a whole answer apart in one go, and is what the
  scanner's output is compared with.
-/

namespace ChatRelay.Title

open Text (trim trimEnd splitAtFirst stripStart?)

/-- The text that separates the visible answer from the title. -/
def marker : String := "CONVERSATION_TITLE:"

/-- The characters of the marker. -/
def markerChars : List Char := marker.toList

/-- What one increment, or the end of the answer, brought to light. -/
structure ScanStep where
  /-- Text to forward, never empty. -/
  visible : Option String := none
  /-- The title, reported at most once for an answer. -/
  title : Option String := none
  deriving DecidableEq, Repr

/-- How far an answer has been taken apart. -/
inductive ScanPhase where
  /-- The marker has not been seen. -/
  | answering
  /-- The marker stands at this character and its title line is still open. -/
  | titling (markerAt : Nat)
  /-- The title line is closed; a blank one gives no title. -/
  | settled (markerAt : Nat) (title : Option String)
  deriving DecidableEq, Repr

/-- An answer read in part. -/
structure Scanner where
  /-- Everything that was read. -/
  raw : List Char := []
  /-- How many characters of `raw` were forwarded. -/
  shown : Nat := 0
  phase : ScanPhase := .answering
  deriving DecidableEq, Repr

/-- The first line of a text, which a line feed or another marker closes, and whether it was
closed. -/
def titleLine : List Char → List Char × Bool
  | [] => ([], false)
  | c :: cs =>
    if c = '\n' ∨ (stripStart? markerChars (c :: cs)).isSome then ([], true)
    else
      let (line, closed) := titleLine cs
      (c :: line, closed)

/-- The title on a line, unless the line is blank. -/
def titleOfLine (line : List Char) : Option String :=
  match trim line with
  | [] => none
  | cs => some (String.ofList cs)

/-- How many characters at the end of a text may be the start of a marker that is not complete:
the longest proper beginning of the marker that the text ends with. -/
def heldMarker (raw : List Char) : Nat :=
  ((List.range markerChars.length).reverse.find? fun n =>
    (markerChars.take n).isSuffixOf raw).getD 0

/-- The end of the text that can be forwarded whatever follows it. -/
def safeEnd (raw : List Char) : Nat :=
  (trimEnd (raw.take (raw.length - heldMarker raw))).length

namespace Scanner

/-- The text to forward when everything before `stop` may be seen, and the new count of forwarded
characters. -/
def forward (s : Scanner) (raw : List Char) (stop : Nat) : Option String × Nat :=
  if stop ≤ s.shown then (none, s.shown)
  else (some (String.ofList ((raw.take stop).drop s.shown)), stop)

/-- The phase after the text behind the marker is `after`, and the title when it is complete. -/
def settle (markerAt : Nat) (after : List Char) (atEnd : Bool) : ScanPhase × Option String :=
  let (line, closed) := titleLine after
  if closed || atEnd then (.settled markerAt (titleOfLine line), titleOfLine line)
  else (.titling markerAt, none)

/-- Reads the next increment of the answer. -/
def consume (s : Scanner) (increment : String) : Scanner × ScanStep :=
  let raw := s.raw ++ increment.toList
  match s.phase with
  | .answering =>
    match splitAtFirst markerChars (raw.drop s.shown) with
    | some (before, after) =>
      let markerAt := s.shown + before.length
      let (visible, shown) := s.forward raw (trimEnd (raw.take markerAt)).length
      let (phase, title) := settle markerAt after false
      ({ raw, shown, phase }, { visible, title })
    | none =>
      let (visible, shown) := s.forward raw (safeEnd raw)
      ({ raw, shown, phase := .answering }, { visible })
  | .titling markerAt =>
    let (phase, title) := settle markerAt (raw.drop (markerAt + markerChars.length)) false
    ({ s with raw, phase }, { title })
  | .settled .. => ({ s with raw }, {})

/-- Reads the end of the answer: text held back is forwarded and an open title line closed. -/
def finish (s : Scanner) : Scanner × ScanStep :=
  match s.phase with
  | .answering =>
    let (visible, shown) := s.forward s.raw s.raw.length
    ({ s with shown }, { visible })
  | .titling markerAt =>
    let (phase, title) := settle markerAt (s.raw.drop (markerAt + markerChars.length)) true
    ({ s with phase }, { title })
  | .settled .. => (s, {})

/-- Where the marker stands, once it has been seen. -/
def markerAt? (s : Scanner) : Option Nat :=
  match s.phase with
  | .answering => none
  | .titling n => some n
  | .settled n _ => some n

/-- Whether the marker has been seen. -/
def markerSeen (s : Scanner) : Bool :=
  s.markerAt?.isSome

/-- The title, once its line is closed. -/
def title? (s : Scanner) : Option String :=
  match s.phase with
  | .settled _ title => title
  | _ => none

/-- Everything that was read. -/
def rawText (s : Scanner) : String :=
  String.ofList s.raw

/-- The text to store: what stands before the marker, trimmed, or everything when there is no
marker. -/
def visibleContent (s : Scanner) : String :=
  match s.markerAt? with
  | some n => String.ofList (trim (s.raw.take n))
  | none => s.rawText

end Scanner

/-- A whole answer taken apart. -/
structure Decomposition where
  /-- What the reader sees. -/
  visible : String
  /-- What is stored as the answer. -/
  stored : String
  title : Option String
  deriving DecidableEq, Repr

/-- Takes a whole answer apart. Without a marker all of it is seen and stored. Otherwise the text
before the first marker is seen without the blanks at its end, and stored without blanks at either
end; the title is the first line behind the marker unless that is blank. -/
def Decomposition.ofAnswer (answer : String) : Decomposition :=
  match splitAtFirst markerChars answer.toList with
  | none => { visible := answer, stored := answer, title := none }
  | some (before, after) =>
    { visible := String.ofList (trimEnd before)
      stored := String.ofList (trim before)
      title := titleOfLine (titleLine after).1 }

end ChatRelay.Title
