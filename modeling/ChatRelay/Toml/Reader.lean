import ChatRelay.Text.Hex
import ChatRelay.Time.Calendar
import ChatRelay.Toml.Table

/-!
# Reading a configuration text

`read?` reads a text of tables, keys and values and gives the members of its
outermost table, or nothing when the text is no such text.
-/

namespace ChatRelay.Toml

def isBlank (c : Char) : Bool := c == ' ' || c == '\t'

def skipBlanks (cs : List Char) : List Char := cs.dropWhile isBlank

/-- The characters that may stand in a comment and between single quotation marks: no control
characters but the tabulator. -/
def isPlain (c : Char) : Bool :=
  c == '\t' || (0x20 ≤ c.toNat && c.toNat ≤ 0x7E) || 0x80 ≤ c.toNat

/-- The text behind a line break. -/
def lineBreak? : List Char → Option (List Char)
  | '\n' :: cs => some cs
  | '\r' :: '\n' :: cs => some cs
  | _ => none

/-- The text behind a comment, if there is one. -/
def skipComment : List Char → List Char
  | '#' :: cs => cs.dropWhile isPlain
  | cs => cs

/-- The text behind blanks, line breaks and comments. -/
def skipFiller (inComment : Bool) : List Char → List Char
  | [] => []
  | '\r' :: '\n' :: cs => skipFiller false cs
  | c :: cs =>
    if c = '\n' then skipFiller false cs
    else if inComment then if isPlain c then skipFiller true cs else c :: cs
    else if c = '#' then skipFiller true cs
    else if isBlank c then skipFiller false cs
    else c :: cs

/-- The end of a line: blanks, a comment, and a line break or the end of the text. -/
def endLine? (cs : List Char) : Option (List Char) :=
  match skipComment (skipBlanks cs) with
  | [] => some []
  | cs => lineBreak? cs

/-! ## Texts -/

/-- The character with this code point. -/
def scalar? (n : Nat) : Option Char :=
  if n.isValidChar then some (Char.ofNat n) else none

/-- The character that an escape stands for, and the text behind it. -/
def escape? : List Char → Option (Char × List Char)
  | 'b' :: cs => some (Char.ofNat 8, cs)
  | 'f' :: cs => some (Char.ofNat 12, cs)
  | 'n' :: cs => some ('\n', cs)
  | 'r' :: cs => some ('\r', cs)
  | 't' :: cs => some ('\t', cs)
  | '"' :: cs => some ('"', cs)
  | '\\' :: cs => some ('\\', cs)
  | 'u' :: cs => code 4 cs
  | 'U' :: cs => code 8 cs
  | _ => none
where
  code (width : Nat) (cs : List Char) : Option (Char × List Char) :=
    if cs.length < width then none
    else do
      let n ← Text.hexNumber? (cs.take width)
      return (← scalar? n, cs.drop width)

/-- A text up to its closing quotation mark. -/
def readBasic? : Nat → List Char → Option (List Char × List Char)
  | 0, _ => none
  | fuel + 1, cs =>
    match cs with
    | '"' :: cs => some ([], cs)
    | '\\' :: cs => do
      let (c, cs) ← escape? cs
      let (s, cs) ← readBasic? fuel cs
      return (c :: s, cs)
    | c :: cs =>
      if isPlain c then do
        let (s, cs) ← readBasic? fuel cs
        return (c :: s, cs)
      else none
    | [] => none

/-- A text without escapes up to its closing quotation mark. -/
def readLiteral? : List Char → Option (List Char × List Char)
  | [] => none
  | '\'' :: cs => some ([], cs)
  | c :: cs =>
    if isPlain c then (readLiteral? cs).map fun (s, cs) => (c :: s, cs) else none

/-- Three quotation marks or more end a text of several lines; the first two of more than three
belong to the text. -/
def closing? (mark : Char) (cs : List Char) : Option (List Char × List Char) :=
  let marks := (cs.takeWhile (· == mark)).length
  if marks < 3 then none
  else
    let inside := min (marks - 3) 2
    some (List.replicate inside mark, cs.drop (inside + 3))

/-- The text behind a line break and all blanks and line breaks that follow it, where blanks may
stand in front. -/
def continuation? (cs : List Char) : Option (List Char) :=
  (lineBreak? (skipBlanks cs)).map fun cs => skip cs
where
  skip : List Char → List Char
    | [] => []
    | '\r' :: '\n' :: cs => skip cs
    | c :: cs => if c = '\n' ∨ isBlank c then skip cs else c :: cs

/-- A text of several lines up to its closing quotation marks. Every line break counts as a line
feed. -/
def readLines? (mark : Char) (escapes : Bool) : Nat → List Char → Option (List Char × List Char)
  | 0, _ => none
  | fuel + 1, cs =>
    match closing? mark cs with
    | some (s, cs) => some (s, cs)
    | none =>
      match lineBreak? cs with
      | some cs => do
        let (s, cs) ← readLines? mark escapes fuel cs
        return ('\n' :: s, cs)
      | none =>
        match cs with
        | [] => none
        | c :: cs =>
          if c = '\\' ∧ escapes then
            match continuation? cs with
            | some cs => readLines? mark escapes fuel cs
            | none => do
              let (c, cs) ← escape? cs
              let (s, cs) ← readLines? mark escapes fuel cs
              return (c :: s, cs)
          else if isPlain c then do
            let (s, cs) ← readLines? mark escapes fuel cs
            return (c :: s, cs)
          else none

/-- The text behind a line break, if there is one. -/
def skipBreak (cs : List Char) : List Char :=
  (lineBreak? cs).getD cs

/-- A text in quotation marks of any kind. -/
def readText? (cs : List Char) : Option (List Char × List Char) :=
  match cs with
  | '"' :: '"' :: '"' :: cs => readLines? '"' true (cs.length + 1) (skipBreak cs)
  | '\'' :: '\'' :: '\'' :: cs => readLines? '\'' false (cs.length + 1) (skipBreak cs)
  | '"' :: cs => readBasic? (cs.length + 1) cs
  | '\'' :: cs => readLiteral? cs
  | _ => none

/-! ## Keys -/

def isKeyChar (c : Char) : Bool :=
  c.isAlphanum || c == '-' || c == '_'

/-- One part of a key. -/
def readKeyPart? (cs : List Char) : Option (List Char × List Char) :=
  match cs with
  | '"' :: cs => readBasic? (cs.length + 1) cs
  | '\'' :: cs => readLiteral? cs
  | cs =>
    match cs.takeWhile isKeyChar with
    | [] => none
    | part => some (part, cs.dropWhile isKeyChar)

/-- The parts of a key, with points between them and blanks around them. -/
def readKey? : Nat → List Char → Option (List String × List Char)
  | 0, _ => none
  | fuel + 1, cs => do
    let (part, cs) ← readKeyPart? (skipBlanks cs)
    match skipBlanks cs with
    | '.' :: cs =>
      let (parts, cs) ← readKey? fuel cs
      return (String.ofList part :: parts, cs)
    | cs => return ([String.ofList part], cs)

/-- How deep keys and values may be nested. -/
def maxDepth : Nat := 80

/-- The parts of a key but the last, the last one, and the text behind the key. -/
def splitKey? (cs : List Char) : Option (List String × String × List Char) := do
  let (parts, cs) ← readKey? (cs.length + 1) cs
  if maxDepth ≤ parts.length then none
  let last ← parts.getLast?
  return (parts.dropLast, last, cs)

/-! ## Numbers and dates -/

/-- Digits with single underscores between them. -/
def readDigits? (isDigit : Char → Bool) (cs : List Char) : Option (List Char × List Char) :=
  match cs with
  | [] => none
  | c :: cs => if isDigit c then some (rest c cs) else none
where
  rest (c : Char) : List Char → List Char × List Char
    | '_' :: d :: cs =>
      if isDigit d then
        let (ds, cs) := rest d cs
        (c :: ds, cs)
      else ([c], '_' :: d :: cs)
    | d :: cs =>
      if isDigit d then
        let (ds, cs) := rest d cs
        (c :: ds, cs)
      else ([c], d :: cs)
    | [] => ([c], [])

/-- The sign of a number, if it has one. -/
def readSign : List Char → Bool × List Char
  | '-' :: cs => (true, cs)
  | '+' :: cs => (false, cs)
  | cs => (false, cs)

/-- A sign and digits; no zero stands in front of other digits. -/
def readWhole? (cs : List Char) : Option ((Bool × List Char) × List Char) :=
  let (negative, cs) := readSign cs
  match cs with
  | '0' :: cs => some ((negative, ['0']), cs)
  | cs => (readDigits? Char.isDigit cs).map fun (ds, cs) => ((negative, ds), cs)

/-- The number that digits of a base stand for. -/
def numberOf (base : Nat) (ds : List Char) : Nat :=
  ds.foldl (fun n c => n * base + (Text.hexValue? c).getD 0) 0

/-- An integer that 64 bits hold. -/
def integer? (negative : Bool) (n : Nat) : Option Value :=
  if n < Nat.pow 2 63 then some (.integer (if negative then -n else n))
  else if negative ∧ n = Nat.pow 2 63 then some (.integer (-n))
  else none

def readInteger? (cs : List Char) : Option (Value × List Char) :=
  match cs with
  | '0' :: 'x' :: cs => inBase 16 cs
  | '0' :: 'o' :: cs => inBase 8 cs
  | '0' :: 'b' :: cs => inBase 2 cs
  | cs => do
    let ((negative, ds), cs) ← readWhole? cs
    return (← integer? negative (numberOf 10 ds), cs)
where
  inBase (base : Nat) (cs : List Char) : Option (Value × List Char) := do
    let isDigit (c : Char) : Bool := (Text.hexValue? c).any (· < base)
    let (ds, cs) ← readDigits? isDigit cs
    return (← integer? false (numberOf base ds), cs)

/-- The exponent of a number. -/
def readExponent? : List Char → Option (Int × List Char)
  | c :: cs =>
    if c = 'e' ∨ c = 'E' then do
      let (negative, cs) := readSign cs
      let (ds, cs) ← readDigits? Char.isDigit cs
      let n : Int := numberOf 10 ds
      return (if negative then -n else n, cs)
    else none
  | [] => none

/-- Whether `digits * 10 ^ exponent` is beyond the numbers of double precision. -/
def isTooLarge (digits : Nat) (exponent : Int) : Bool :=
  digits ≠ 0 && (400 < (Nat.toDigits 10 digits).length + exponent ||
    (0 < (Nat.toDigits 10 digits).length + exponent &&
      (Float.ofScientific digits (exponent < 0) exponent.natAbs).isInf))

/-- A number with a fraction or an exponent, or a name for one that is not finite. -/
def readFloat? (cs : List Char) : Option (Value × List Char) :=
  match (readSign cs).2 with
  | 'i' :: 'n' :: 'f' :: cs => some (.float, cs)
  | 'n' :: 'a' :: 'n' :: cs => some (.float, cs)
  | _ => do
    let ((negative, whole), cs) ← readWhole? cs
    let (fraction, cs, hasFraction) ← match cs with
      | '.' :: cs => (readDigits? Char.isDigit cs).map fun (ds, cs) => (ds, cs, true)
      | cs => some ([], cs, false)
    let (exponent, cs, hasExponent) := match readExponent? cs with
      | some (n, cs) => (n, cs, true)
      | none => (0, cs, false)
    if !hasFraction ∧ !hasExponent then none
    let digits := numberOf 10 (whole ++ fraction)
    if !negative ∧ isTooLarge digits (exponent - fraction.length) then none
    return (.float, cs)

/-- A number of exactly two digits. -/
def readTwo? : List Char → Option (Nat × List Char)
  | a :: b :: cs => if a.isDigit ∧ b.isDigit then some (numberOf 10 [a, b], cs) else none
  | _ => none

def expect? (wanted : Char) : List Char → Option (List Char)
  | c :: cs => if c = wanted then some cs else none
  | [] => none

/-- The time of a day. -/
def readTime? (cs : List Char) : Option (List Char) := do
  let (hour, cs) ← readTwo? cs
  let cs ← expect? ':' cs
  let (minute, cs) ← readTwo? cs
  let cs ← expect? ':' cs
  let (second, cs) ← readTwo? cs
  if 23 < hour ∨ 59 < minute ∨ 60 < second then none
  match cs with
  | '.' :: cs => if (cs.takeWhile Char.isDigit).isEmpty then none else some (cs.dropWhile Char.isDigit)
  | cs => some cs

/-- The offset of a time from UTC. -/
def readOffset? : List Char → Option (List Char)
  | c :: cs =>
    if c = 'Z' ∨ c = 'z' then some cs
    else if c = '+' ∨ c = '-' then do
      let (hour, cs) ← readTwo? cs
      let cs ← expect? ':' cs
      let (minute, cs) ← readTwo? cs
      if 23 < hour ∨ 59 < minute then none else some cs
    else none
  | [] => none

/-- A date, which may have a time, which may have an offset. -/
def readDate? (cs : List Char) : Option (List Char) := do
  let (high, cs) ← readTwo? cs
  let (low, cs) ← readTwo? cs
  let cs ← expect? '-' cs
  let (month, cs) ← readTwo? cs
  let cs ← expect? '-' cs
  let (day, cs) ← readTwo? cs
  let date : Time.Date := ⟨high * 100 + low, month, day⟩
  if ¬ date.Valid then none
  match cs with
  | c :: rest =>
    if c = 'T' ∨ c = 't' ∨ c = ' ' then
      match readTime? rest with
      | some rest => some ((readOffset? rest).getD rest)
      | none => some cs
    else some cs
  | [] => some []

/-- A date, a time or a number. -/
def readNumber? (cs : List Char) : Option (Value × List Char) :=
  match readDate? cs with
  | some cs => some (.date, cs)
  | none =>
    match readTime? cs with
    | some cs => some (.date, cs)
    | none => (readFloat? cs).orElse fun _ => readInteger? cs

/-! ## Values -/

mutual

/-- A value, inside of which there is room for values `room` levels deep. -/
def readValue? : Nat → Nat → List Char → Option (Value × List Char)
  | 0, _, _ => none
  | fuel + 1, room, cs =>
    match cs with
    | '"' :: _ => (readText? cs).map fun (s, cs) => (.text (String.ofList s), cs)
    | '\'' :: _ => (readText? cs).map fun (s, cs) => (.text (String.ofList s), cs)
    | '[' :: cs =>
      if room ≤ 1 then none
      else (readItems? fuel (room - 1) (skipFiller false cs)).map fun (vs, cs) => (.list vs, cs)
    | '\x7b' :: cs =>
      if room ≤ 1 then none
      else
        match skipBlanks cs with
        | '\x7d' :: cs => some (.table [], cs)
        | cs =>
          (readMembers? fuel (room - 1) [] cs).map fun (t, cs) => (.table (closeMembers t), cs)
    | 't' :: 'r' :: 'u' :: 'e' :: cs => some (.boolean true, cs)
    | 'f' :: 'a' :: 'l' :: 's' :: 'e' :: cs => some (.boolean false, cs)
    | cs => readNumber? cs

/-- The items of a list up to its closing bracket. The last one may have a comma behind it. -/
def readItems? : Nat → Nat → List Char → Option (List Value × List Char)
  | 0, _, _ => none
  | fuel + 1, room, cs =>
    match cs with
    | ']' :: cs => some ([], cs)
    | cs => do
      let (v, cs) ← readValue? fuel room cs
      match skipFiller false cs with
      | ',' :: cs =>
        let (vs, cs) ← readItems? fuel room (skipFiller false cs)
        return (v :: vs, cs)
      | ']' :: cs => return ([v], cs)
      | _ => none

/-- The members of a table in braces up to its closing brace, added to those in front. -/
def readMembers? : Nat → Nat → Table → List Char → Option (Table × List Char)
  | 0, _, _, _ => none
  | fuel + 1, room, t, cs => do
    let (path, key, cs) ← splitKey? cs
    let cs ← expect? '=' cs
    let (v, cs) ← readValue? fuel room (skipBlanks cs)
    let t ← t.put? path key v .header
    match skipBlanks cs with
    | ',' :: cs => readMembers? fuel room t cs
    | '\x7d' :: cs => return (t, cs)
    | _ => none

end

/-! ## Whole texts -/

/-- The header of a table: whether it is in double brackets, its parts, and the text behind the
line. -/
def readHeader? (cs : List Char) : Option (Bool × (List String × String) × List Char) :=
  match cs with
  | '[' :: cs => do
    let (path, key, cs) ← splitKey? cs
    let cs ← expect? ']' cs
    let cs ← expect? ']' cs
    return (true, (path, key), ← endLine? cs)
  | cs => do
    let (path, key, cs) ← splitKey? cs
    let cs ← expect? ']' cs
    return (false, (path, key), ← endLine? cs)

/-- Reads lines and adds what they define to a table. `header` is the path of the last header. -/
def readLinesInto? : Nat → List String → Table → List Char → Option Table
  | 0, _, _, _ => none
  | fuel + 1, header, t, cs =>
    match skipBlanks cs with
    | [] => some t
    | '[' :: cs => do
      let (several, (path, key), cs) ← readHeader? cs
      let t ← if several then t.openNext? path key else t.openPath? path key
      readLinesInto? fuel (path ++ [key]) t cs
    | cs =>
      match endLine? cs with
      | some rest => readLinesInto? fuel header t rest
      | none => do
        let (path, key, cs) ← splitKey? cs
        let cs ← expect? '=' cs
        let (v, cs) ← readValue? (2 * cs.length + 2) maxDepth (skipBlanks cs)
        let t ← t.putUnder? header path key v
        readLinesInto? fuel header t (← endLine? cs)

/-- The members of the outermost table of a text, which may begin with a byte order mark. -/
def read? (text : String) : Option (List (String × Value)) :=
  let cs := match text.toList with
    | c :: cs => if c.toNat = 0xFEFF then cs else c :: cs
    | [] => []
  (readLinesInto? (cs.length + 1) [] [] cs).map closeMembers

end ChatRelay.Toml
