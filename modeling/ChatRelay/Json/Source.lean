import ChatRelay.Json.Value
import ChatRelay.Text.Search

/-!
# Reading JSON text

`Source.ofChars` reads the value at the start of a text. It never fails: a
fault in the text becomes part of the result, at the place where it stands. A
reader of typed values (`Json.Decoder`) walks through the result from left to
right, so the fault that it reports is the first one in the text, whether it
lies in the text itself or in a value of the wrong shape.

Some texts are refused only where their value is wanted: a surrogate without
its partner, a number beyond all bounds. `Source.flawed` keeps the two answers
apart.
-/

namespace ChatRelay.Json

/-- Why a text is not the JSON text of what was wanted. -/
inductive Fault where
  /-- It is not JSON. -/
  | malformed
  /-- It ends too early. -/
  | truncated
  /-- It is the JSON text of something else. -/
  | mismatched
  deriving DecidableEq, Repr

/-- How the items of a list or the members of an object end. -/
inductive Ending where
  /-- With the closing bracket. -/
  | closed
  /-- With a fault where a comma or the closing bracket was due. -/
  | stopped (fault : Fault)
  /-- With a fault behind a comma. -/
  | dangling (fault : Fault)
  /-- With something other than a text where the first key was due. The fault is the one of a
  reader who wants a text there. -/
  | noKey (asText : Fault)
  deriving DecidableEq, Repr

/-- What was read of a number: a natural number below 2^64, the absolute value of a negative number
that 64 bits hold, or a number of double precision. -/
inductive SourceNumber where
  | natural (n : Nat)
  | negative (n : Nat)
  | double (x : Float)

/-- What was read of a value. -/
inductive Source where
  | null
  | bool (b : Bool)
  | number (n : SourceNumber)
  | text (s : String)
  /-- No value: the fault for a reader who wants one, and for a reader who passes over it. -/
  | flawed (ifRead : Fault) (ifSkipped : Option Fault)
  | list (items : List Source) (ending : Ending)
  /-- The members with their keys, which are texts or flawed. -/
  | object (members : List (Source × Source)) (ending : Ending)
  deriving Inhabited

/-- What was read, and the rest of the text unless reading stopped. -/
abbrev Read (α : Type) := α × Option (List Char)

/-- Reading stops here for every reader. -/
def stop (f : Fault) : Read Source := (.flawed f (some f), none)

/-- The blanks that may stand between values. -/
def isBlank (c : Char) : Bool :=
  c == ' ' || c == '\n' || c == '\t' || c == '\r'

def skipBlanks (cs : List Char) : List Char :=
  cs.dropWhile isBlank

/-- One character inside quotation marks: a character, or a UTF-16 code unit that was escaped. -/
inductive TextUnit where
  | char (c : Char)
  | code (n : Nat)
  deriving DecidableEq, Repr

/-- The code unit that four hexadecimal digits stand for. -/
def hexCode? (a b c d : Char) : Option Nat :=
  Text.hexNumber? [a, b, c, d]

/-- The character that a backslash and this letter stand for. -/
def unescape? (c : Char) : Option Char :=
  match c with
  | '"' => some '"'
  | '\\' => some '\\'
  | '/' => some '/'
  | 'b' => some (Char.ofNat 8)
  | 'f' => some (Char.ofNat 12)
  | 'n' => some '\n'
  | 'r' => some '\r'
  | 't' => some '\t'
  | _ => none

/-- The units of a text up to the closing quotation mark, and the rest behind it. An escape that
fewer than four bytes follow counts as cut short. -/
def readUnits : List Char → List TextUnit × Except Fault (List Char)
  | [] => ([], .error .truncated)
  | '"' :: rest => ([], .ok rest)
  | ['\\'] => ([], .error .truncated)
  | '\\' :: 'u' :: a :: b :: c :: d :: rest =>
    match hexCode? a b c d with
    | none => ([], .error .malformed)
    | some n =>
      let (units, tail) := readUnits rest
      (.code n :: units, tail)
  | '\\' :: 'u' :: rest => ([], .error (if Text.byteLength rest < 4 then .truncated else .malformed))
  | '\\' :: c :: rest =>
    match unescape? c with
    | none => ([], .error .malformed)
    | some c =>
      let (units, tail) := readUnits rest
      (.char c :: units, tail)
  | c :: rest =>
    if c.toNat < 0x20 then ([], .error .malformed)
    else
      let (units, tail) := readUnits rest
      (.char c :: units, tail)

def isLeading (n : Nat) : Bool := 0xD800 ≤ n && n ≤ 0xDBFF
def isTrailing (n : Nat) : Bool := 0xDC00 ≤ n && n ≤ 0xDFFF

/-- The characters of a list of units. A surrogate without its partner is a fault; `atEnd` is the
fault for a leading one at the end. -/
def joinUnits (atEnd : Fault) : List TextUnit → Except Fault (List Char)
  | [] => .ok []
  | .char c :: units => (joinUnits atEnd units).map (c :: ·)
  | [.code n] =>
    if isLeading n then .error atEnd
    else if isTrailing n then .error .malformed
    else .ok [Char.ofNat n]
  | .code n :: .code m :: units =>
    if isLeading n then
      if isTrailing m then
        (joinUnits atEnd units).map
          (Char.ofNat ((n - 0xD800) * 1024 + (m - 0xDC00) + 0x10000) :: ·)
      else .error .malformed
    else if isTrailing n then .error .malformed
    else (joinUnits atEnd (.code m :: units)).map (Char.ofNat n :: ·)
  | .code n :: .char c :: units =>
    if isLeading n || isTrailing n then .error .malformed
    else (joinUnits atEnd (.char c :: units)).map (Char.ofNat n :: ·)

/-- The text behind an opening quotation mark. -/
def readText (cs : List Char) : Read Source :=
  let (units, tail) := readUnits cs
  match tail with
  | .ok rest =>
    match joinUnits .malformed units with
    | .ok s => (.text (String.ofList s), some rest)
    | .error f => (.flawed f none, some rest)
  | .error f =>
    match joinUnits f units with
    | .ok _ => stop f
    | .error g => (.flawed g (some f), none)

/-- The largest number that a significand holds. -/
def maxSignificand : Nat := Nat.pow 2 64 - 1

/-- A significand with one more digit, unless it gets too large. -/
def addDigit? (significand : Nat) (c : Char) : Option Nat :=
  let n := significand * 10 + (c.toNat - 48)
  if n ≤ maxSignificand then some n else none

/-- Adds digits to a significand as long as it holds them; the digits that are left over. -/
def addDigits (significand : Nat) : List Char → Nat × List Char
  | [] => (significand, [])
  | c :: cs =>
    match addDigit? significand c with
    | some n => addDigits n cs
    | none => (significand, c :: cs)

/-- `x * 10 ^ exponent`, one rounding for each power of ten that double precision holds; nothing
when it is beyond all bounds. -/
def scale? : Nat → Float → Int → Option Float
  | 0, x, _ => some x
  | fuel + 1, x, exponent =>
    if exponent.natAbs ≤ 308 then
      let power := Float.ofScientific 1 false exponent.natAbs
      if 0 ≤ exponent then
        let y := x * power
        if y.isInf then none else some y
      else some (x / power)
    else if x == 0.0 then some x
    else if 0 ≤ exponent then none
    else scale? fuel (x / Float.ofScientific 1 false 308) (exponent + 308)

/-- The number with these digits before and behind the point and this exponent, if any. Digits that
a significand of 64 bits does not hold count only for the order of magnitude. -/
def numberOfParts (negative : Bool) (whole : List Char) (fraction exponent : Option (List Char))
    (exponentNegative : Bool) : Source :=
  let (significand, left) := addDigits 0 whole
  if left.isEmpty && fraction.isNone && exponent.isNone && !negative then
    .number (.natural significand)
  else if left.isEmpty && fraction.isNone && exponent.isNone && 0 < significand &&
      significand ≤ Nat.pow 2 63 then
    .number (.negative significand)
  else
    let digits := fraction.getD []
    let (significand, ignored) := addDigits significand digits
    let places : Int := left.length - (digits.length - ignored.length : Nat)
    let size : Int := ((exponent.getD []).foldl (fun n c => n * 10 + (c.toNat - 48)) 0 : Nat)
    let places := if exponentNegative then places - size else places + size
    match scale? 4 significand.toUInt64.toFloat places with
    | none => .flawed .malformed none
    | some x => .number (.double (if negative then -x else x))

/-- A number is cut short where a digit is due: that is a fault of its own kind only for a reader
who wants the value. -/
def cutNumber : List Char → Read Source
  | [] => (.flawed .truncated (some .malformed), none)
  | _ => stop .malformed

/-- The exponent of a number, behind its letter. -/
def readExponent (negative : Bool) (whole : List Char) (fraction : Option (List Char))
    (cs : List Char) : Read Source :=
  let (exponentNegative, cs) := match cs with
    | '+' :: cs => (false, cs)
    | '-' :: cs => (true, cs)
    | cs => (false, cs)
  match cs.takeWhile Char.isDigit with
  | [] => cutNumber cs
  | digits =>
    (numberOfParts negative whole fraction (some digits) exponentNegative,
      some (cs.dropWhile Char.isDigit))

/-- A number behind its sign. -/
def readNumber (negative : Bool) (cs : List Char) : Read Source :=
  let whole := cs.takeWhile Char.isDigit
  let rest := cs.dropWhile Char.isDigit
  match whole with
  | [] => cutNumber cs
  | '0' :: _ :: _ => stop .malformed
  | _ =>
    match rest with
    | '.' :: cs =>
      match cs.takeWhile Char.isDigit with
      | [] => cutNumber cs
      | fraction =>
        match cs.dropWhile Char.isDigit with
        | 'e' :: cs => readExponent negative whole (some fraction) cs
        | 'E' :: cs => readExponent negative whole (some fraction) cs
        | cs => (numberOfParts negative whole (some fraction) none false, some cs)
    | 'e' :: cs => readExponent negative whole none cs
    | 'E' :: cs => readExponent negative whole none cs
    | cs => (numberOfParts negative whole none none false, some cs)

/-- The rest of a word whose first letter has been read. -/
def readWord (value : Source) : List Char → List Char → Read Source
  | [], rest => (value, some rest)
  | _ :: _, [] => stop .truncated
  | p :: ps, c :: cs => if p = c then readWord value ps cs else stop .malformed

/-- The fault of a reader who wants a text where this was read. -/
def Source.faultAsText : Source → Fault
  | .flawed f _ => f
  | _ => .mismatched

mutual

/-- The value at the start of a text. The first argument bounds the depth and the number of items
together; the length of the text is enough. -/
def readValue : Nat → List Char → Read Source
  | 0, _ => stop .truncated
  | fuel + 1, cs =>
    match skipBlanks cs with
    | [] => stop .truncated
    | 'n' :: cs => readWord .null ['u', 'l', 'l'] cs
    | 't' :: cs => readWord (.bool true) ['r', 'u', 'e'] cs
    | 'f' :: cs => readWord (.bool false) ['a', 'l', 's', 'e'] cs
    | '"' :: cs => readText cs
    | '-' :: cs => readNumber true cs
    | '[' :: cs =>
      let ((items, ending), rest) := readItems fuel true cs
      (.list items ending, rest)
    | '{' :: cs =>
      let ((members, ending), rest) := readMembers fuel true cs
      (.object members ending, rest)
    | c :: cs => if c.isDigit then readNumber false (c :: cs) else stop .malformed

/-- The items of a list up to its closing bracket. -/
def readItems : Nat → Bool → List Char → Read (List Source × Ending)
  | 0, _, _ => (([], .stopped .truncated), none)
  | fuel + 1, first, cs =>
    match skipBlanks cs, first with
    | [], _ => (([], .stopped .truncated), none)
    | ']' :: cs, _ => (([], .closed), some cs)
    | cs, true => readItem fuel cs
    | ',' :: cs, false =>
      match skipBlanks cs with
      | [] => (([], .dangling .truncated), none)
      | ']' :: _ => (([], .dangling .malformed), none)
      | cs => readItem fuel cs
    | _, false => (([], .stopped .malformed), none)

/-- An item of a list and the items behind it. -/
def readItem : Nat → List Char → Read (List Source × Ending)
  | 0, _ => (([], .stopped .truncated), none)
  | fuel + 1, cs =>
    match readValue fuel cs with
    | (item, none) => (([item], .stopped .truncated), none)
    | (item, some cs) =>
      let ((items, ending), rest) := readItems fuel false cs
      ((item :: items, ending), rest)

/-- The members of an object up to its closing brace. -/
def readMembers : Nat → Bool → List Char → Read (List (Source × Source) × Ending)
  | 0, _, _ => (([], .stopped .truncated), none)
  | fuel + 1, first, cs =>
    match skipBlanks cs, first with
    | [], _ => (([], .stopped .truncated), none)
    | '}' :: cs, _ => (([], .closed), some cs)
    | '"' :: cs, true => readMember fuel cs
    | cs, true => (([], .noKey (readValue fuel cs).1.faultAsText), none)
    | ',' :: cs, false =>
      match skipBlanks cs with
      | [] => (([], .dangling .truncated), none)
      | '"' :: cs => readMember fuel cs
      | _ => (([], .dangling .malformed), none)
    | _, false => (([], .stopped .malformed), none)

/-- A member of an object, behind the opening quotation mark of its key, and the members behind
it. -/
def readMember : Nat → List Char → Read (List (Source × Source) × Ending)
  | 0, _ => (([], .stopped .truncated), none)
  | fuel + 1, cs =>
    match readText cs with
    | (key, none) => (([(key, .null)], .stopped .truncated), none)
    | (key, some cs) =>
      match skipBlanks cs with
      | ':' :: cs =>
        match readValue fuel cs with
        | (value, none) => (([(key, value)], .stopped .truncated), none)
        | (value, some cs) =>
          let ((members, ending), rest) := readMembers fuel false cs
          (((key, value) :: members, ending), rest)
      | [] => (([(key, (stop .truncated).1)], .stopped .truncated), none)
      | _ => (([(key, (stop .malformed).1)], .stopped .malformed), none)

end

/-- The value at the start of a text. -/
def Source.ofChars (cs : List Char) : Read Source :=
  readValue (3 * cs.length + 3) cs

/-- The first fault of a reader who passes over the end of a list or an object. -/
def Ending.skip : Ending → Except Fault Unit
  | .closed => .ok ()
  | .stopped f => .error f
  | .dangling f => .error f
  | .noKey _ => .error .malformed

mutual

/-- The first fault of a reader who passes over a value. -/
def Source.skip : Source → Except Fault Unit
  | .flawed _ (some f) => .error f
  | .list items ending => skipItems items ending
  | .object members ending => skipMembers members ending
  | _ => .ok ()

def skipItems : List Source → Ending → Except Fault Unit
  | [], ending => ending.skip
  | item :: items, ending => do
    item.skip
    skipItems items ending

def skipMembers : List (Source × Source) → Ending → Except Fault Unit
  | [], ending => ending.skip
  | (key, value) :: members, ending => do
    key.skip
    value.skip
    skipMembers members ending

end

/-- How many lists and objects may be nested where their values are wanted. -/
def maxDepth : Nat := 127

mutual

/-- The first fault of a reader who keeps the whole value, with room for `room` levels. -/
def Source.admit (room : Nat) : Source → Except Fault Unit
  | .flawed f _ => .error f
  | .list items ending => if room = 0 then .error .malformed else admitItems (room - 1) items ending
  | .object members ending =>
    if room = 0 then .error .malformed else admitMembers (room - 1) members ending
  | _ => .ok ()

def admitItems (room : Nat) : List Source → Ending → Except Fault Unit
  | [], ending => ending.skip
  | item :: items, ending => do
    item.admit room
    admitItems room items ending

def admitMembers (room : Nat) : List (Source × Source) → Ending → Except Fault Unit
  | [], ending => ending.skip
  | (key, value) :: members, ending => do
    key.admit room
    value.admit room
    admitMembers room members ending

end

end ChatRelay.Json
