import ChatRelay.Text.Search
import ChatRelay.Text.WhiteSpace
import ChatRelay.Time.Instant

/-!
# Reading points in time

Two readers of the form of RFC 3339. `Instant.ofStored` reads what a store
holds: every part has its fixed width, and a text that is none has a fault.
`Instant.ofLoose?` reads what other programs write: numbers may have fewer
digits and blanks in front, years a sign, and the zone may be called UTC.

Both read an offset from UTC, and the second 60.
-/

namespace ChatRelay.Time

/-- Why a text is not a point in time. -/
inductive TimeFault where
  | tooShort
  | invalid
  | outOfRange
  | tooLong
  deriving DecidableEq, Repr

def TimeFault.message : TimeFault → String
  | .tooShort => "premature end of input"
  | .invalid => "input contains invalid characters"
  | .outOfRange => "input is out of range"
  | .tooLong => "trailing input"

/-- The number that digits stand for. -/
def numberOfDigits (ds : List Char) : Nat :=
  ds.foldl (fun n c => n * 10 + (c.toNat - 48)) 0

/-- At least `least` digits, and no more than `most`. -/
def readDigits (least most : Nat) (cs : List Char) : Except TimeFault (List Char × List Char) :=
  let ds := (cs.take most).takeWhile Char.isDigit
  if least ≤ ds.length then .ok (ds, cs.drop ds.length)
  else if Text.byteLength cs < least then .error .tooShort
  else .error .invalid

def readNumber (least most : Nat) (cs : List Char) : Except TimeFault (Nat × List Char) := do
  let (ds, cs) ← readDigits least most cs
  return (numberOfDigits ds, cs)

/-- One of these characters. -/
def readChar (wanted : List Char) : List Char → Except TimeFault (List Char)
  | [] => .error .tooShort
  | c :: cs => if wanted.contains c then .ok cs else .error .invalid

/-- The fraction of a second in nanoseconds, if there is a point. Digits behind the ninth are passed
over. -/
def readFraction : List Char → Except TimeFault (Nat × List Char)
  | '.' :: cs => do
    let (ds, cs) ← readDigits 1 9 cs
    return (numberOfDigits ds * Nat.pow 10 (9 - ds.length), cs.dropWhile Char.isDigit)
  | cs => .ok (0, cs)

/-- The offset from UTC in seconds. What may stand between hours and minutes is up to
`separator`. -/
def readOffset (separator : List Char → Except TimeFault (List Char)) :
    List Char → Except TimeFault (Int × List Char)
  | [] => .error .tooShort
  | c :: cs =>
    if c = 'Z' ∨ c = 'z' then .ok (0, cs)
    else if c = '+' ∨ c = '-' ∨ c.toNat = 0x2212 then do
      let (hours, cs) ← readNumber 2 2 cs
      let cs ← separator cs
      let (minutes, cs) ← readNumber 2 2 cs
      if minutes < 60 then
        let offset : Int := hours * 3600 + minutes * 60
        .ok (if c = '+' then offset else -offset, cs)
      else .error .outOfRange
    else .error .invalid

/-- The point in time with this date, time of the day and offset from UTC. -/
def instantAt (date : Date) (hour minute second nanos : Nat) (offset : Int) :
    Except TimeFault Instant :=
  if 23 < hour ∨ 59 < minute ∨ 60 < second ∨ 86400 ≤ offset.natAbs then .error .outOfRange
  else
    let (second, nanos) := if second = 60 then (59, nanos + nanosPerSecond) else (second, nanos)
    .ok ⟨date.dayNumber * 86400 + hour * 3600 + minute * 60 + second - offset, nanos⟩

/-- Reads a point in time whose parts have fixed widths. -/
def Instant.ofStored (cs : List Char) : Except TimeFault Instant := do
  if Text.byteLength cs < 19 then .error .tooShort
  let (year, cs) ← readNumber 4 4 cs
  let cs ← readChar ['-'] cs
  let (month, cs) ← readNumber 2 2 cs
  let cs ← readChar ['-'] cs
  let (day, cs) ← readNumber 2 2 cs
  let date : Date := ⟨year, month, day⟩
  if ¬ date.Valid then .error .outOfRange
  let cs ← readChar ['T', 't', ' '] cs
  let (hour, cs) ← readNumber 2 2 cs
  let cs ← readChar [':'] cs
  let (minute, cs) ← readNumber 2 2 cs
  let cs ← readChar [':'] cs
  let (second, cs) ← readNumber 2 2 cs
  let (nanos, cs) ← readFraction cs
  let _ ← instantAt date hour minute second nanos 0
  let (offset, cs) ← readOffset (readChar [':']) cs
  if cs ≠ [] then .error .tooLong
  instantAt date hour minute second nanos offset

/-- A number of one or two digits with blanks in front. -/
def readLooseNumber (cs : List Char) : Except TimeFault (Nat × List Char) :=
  readNumber 1 2 (Text.trimStart cs)

/-- A character with blanks in front. -/
def readLooseChar (wanted : List Char) (cs : List Char) : Except TimeFault (List Char) :=
  readChar wanted (Text.trimStart cs)

/-- A year of up to four digits, or of any number of them behind a sign. -/
def readLooseYear (cs : List Char) : Except TimeFault (Int × List Char) :=
  match Text.trimStart cs with
  | '-' :: cs => do
    let (n, cs) ← readNumber 1 cs.length cs
    return (-n, cs)
  | '+' :: cs => do
    let (n, cs) ← readNumber 1 cs.length cs
    return (n, cs)
  | cs => do
    let (n, cs) ← readNumber 1 4 cs
    return (n, cs)

/-- The years that can be told apart. -/
def isKnownYear (year : Int) : Bool :=
  -262143 ≤ year && year ≤ 262142

/-- A zone: an offset, or the name UTC. -/
def readLooseZone (cs : List Char) : Except TimeFault (Int × List Char) :=
  let named := match cs with
    | u :: t :: c :: rest =>
      if u.toLower = 'u' ∧ t.toLower = 't' ∧ c.toLower = 'c' then some rest else none
    | _ => none
  match named with
  | some rest => .ok (0, rest)
  | none =>
    readOffset (fun cs => .ok (cs.dropWhile fun c => c == ':' || Text.isWhiteSpace c)) cs

/-- Reads a point in time of which only the order of the parts is fixed. -/
def Instant.ofLoose (cs : List Char) : Except TimeFault Instant := do
  let (year, cs) ← readLooseYear cs
  let cs ← readLooseChar ['-'] cs
  let (month, cs) ← readLooseNumber cs
  let cs ← readLooseChar ['-'] cs
  let (day, cs) ← readLooseNumber cs
  let cs ← readChar ['T', 't', ' '] cs
  let (hour, cs) ← readLooseNumber cs
  let cs ← readLooseChar [':'] cs
  let (minute, cs) ← readLooseNumber cs
  let cs ← readLooseChar [':'] cs
  let (second, cs) ← readLooseNumber cs
  let (nanos, cs) ← readFraction cs
  let (offset, cs) ← readLooseZone (Text.trimStart cs)
  if Text.trimStart cs ≠ [] then .error .tooLong
  let date : Date := ⟨year, month, day⟩
  if ¬ date.Valid ∨ !isKnownYear year then .error .outOfRange
  let t ← instantAt date hour minute second nanos offset
  if isKnownYear t.date.year then .ok t else .error .outOfRange

/-- Reads a point in time of which only the order of the parts is fixed. -/
def Instant.ofLoose? (s : String) : Option Instant :=
  (Instant.ofLoose s.toList).toOption

end ChatRelay.Time
