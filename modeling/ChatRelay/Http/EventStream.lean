/-!
# Event streams

The text form of a stream of events: every event is a run of lines up to a blank
one, each line a field with its value. `Frame.chars` writes an event, `frames`
reads the events of a text. An event whose blank line does not come is not
there, and neither is one without data.
-/

namespace ChatRelay.Http

/-- An event: its name and its data. -/
structure Frame where
  name : String
  data : String
  deriving DecidableEq, Repr

namespace EventStream

/-- The parts of a text at its line breaks; there is always at least one. A carriage return at the
very end may still become a line break of two characters. -/
def splitLines : List Char → List (List Char)
  | [] => [[]]
  | ['\r'] => [[]]
  | '\r' :: '\n' :: cs => [] :: splitLines cs
  | '\r' :: cs => [] :: splitLines cs
  | '\n' :: cs => [] :: splitLines cs
  | c :: cs =>
    match splitLines cs with
    | [] => [[c]]
    | line :: lines => (c :: line) :: lines

/-- The lines that have come to their end. -/
def lines (cs : List Char) : List (List Char) :=
  (splitLines cs).dropLast

/-- The name and the value of a field. One blank behind the colon does not count. -/
def field (line : List Char) : List Char × List Char :=
  let name := line.takeWhile (· != ':')
  match line.dropWhile (· != ':') with
  | _ :: ' ' :: value => (name, value)
  | _ :: value => (name, value)
  | [] => (name, [])

/-- What is known of an event before its blank line. -/
structure Pending where
  name : List Char := []
  data : List (List Char) := []

/-- The event, if it has data. It is a message if it has no name. -/
def Pending.frame? (p : Pending) : Option Frame :=
  if p.data.isEmpty then none
  else some
    { name := if p.name.isEmpty then "message" else String.ofList p.name
      data := String.ofList (List.intercalate ['\n'] p.data) }

/-- Takes in a line that is not blank. -/
def Pending.add (p : Pending) (line : List Char) : Pending :=
  match field line with
  | (['d', 'a', 't', 'a'], value) => { p with data := p.data ++ [value] }
  | (['e', 'v', 'e', 'n', 't'], value) => { p with name := value }
  | _ => p

/-- The events of some lines. -/
def framesOf (p : Pending) : List (List Char) → List Frame
  | [] => []
  | [] :: lines => p.frame?.toList ++ framesOf {} lines
  | line :: lines => framesOf (p.add line) lines

/-- The events of a text. A byte order mark in front leaves nothing to read. -/
def frames (cs : List Char) : List Frame :=
  match cs with
  | '\uFEFF' :: _ => []
  | cs => framesOf {} (lines cs)

end EventStream

/-- The lines of an event, for data without line breaks. -/
def Frame.chars (f : Frame) : List Char :=
  ['e', 'v', 'e', 'n', 't', ':', ' '] ++ f.name.toList ++
    ['\n', 'd', 'a', 't', 'a', ':', ' '] ++ f.data.toList ++ ['\n', '\n']

end ChatRelay.Http
