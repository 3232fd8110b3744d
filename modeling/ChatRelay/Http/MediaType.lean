/-!
# Media types

`MediaType.ofText?` reads the value of a `Content-Type` header, with its
parameters, of which nothing is kept. Letters count without their case.
-/

namespace ChatRelay.Http

/-- A media type. The suffix of its second part stands behind the last plus sign. -/
structure MediaType where
  main : String
  sub : String
  suffix : Option String := none
  deriving DecidableEq, Repr

namespace MediaType

/-- A character of a name. -/
def isToken (c : Char) : Bool :=
  c.isAlphanum || ['!', '#', '$', '%', '&', '\'', '+', '-', '.', '^', '_', '\x60', '|', '~'].contains c

/-- A character of a value in quotation marks. A quotation mark ends the value if it is not the
first of these characters. -/
def isQuotedChar (c : Char) : Bool :=
  0x20 ≤ c.toNat && c.toNat < 0x7F

/-- How far the parameters behind a media type have been read. -/
inductive ParameterState where
  /-- Behind a semicolon. -/
  | start
  | name
  /-- Behind an equals sign. -/
  | valueStart
  | value
  /-- Behind a quotation mark, which has to be followed by something. -/
  | quotedStart
  | quoted
  /-- Behind a value in quotation marks. -/
  | quotedEnd
  deriving DecidableEq, Repr

namespace ParameterState

/-- Reads a character of the parameters, if it can stand here. -/
def next? (state : ParameterState) (c : Char) : Option ParameterState :=
  match state with
  | start => if c == ' ' then some start else if isToken c then some name else none
  | name => if c == '=' then some valueStart else if isToken c then some name else none
  | valueStart => if c == '"' then some quotedStart else if isToken c then some value else none
  | value => if c == ';' then some start else if isToken c then some value else none
  | quotedStart => if isQuotedChar c then some quoted else none
  | quoted => if c == '"' then some quotedEnd else if isQuotedChar c then some quoted else none
  | quotedEnd => if c == ';' then some start else if c == ' ' then some quotedEnd else none

/-- Whether the parameters may end here. -/
def mayEnd : ParameterState → Bool
  | start | valueStart | value | quotedEnd => true
  | name | quotedStart | quoted => false

end ParameterState

/-- Whether a text is a list of parameters, each behind a semicolon. A semicolon may be the last
character. -/
def areParameters : List Char → Bool
  | [] => true
  | ';' :: cs => (cs.foldlM ParameterState.next? .start).any ParameterState.mayEnd
  | _ => false

/-- The second part of a media type with its suffix. -/
def splitSuffix (cs : List Char) : String × Option String :=
  let suffix := cs.reverse.takeWhile (· != '+')
  let sub := (cs.reverse.drop (suffix.length + 1)).reverse
  if sub.isEmpty then (String.ofList cs, none)
  else (String.ofList sub, some (String.ofList suffix.reverse))

/-- The media type that a text names. -/
def ofText? (text : String) : Option MediaType :=
  let cs := text.toList.map Char.toLower
  match cs.takeWhile isToken, cs.dropWhile isToken with
  | [], _ => none
  | main, '/' :: rest =>
    match rest.takeWhile isToken, rest.dropWhile isToken with
    | [], _ => none
    | second, behind =>
      let (sub, suffix) := splitSuffix second
      if areParameters behind then
        some { main := String.ofList main, sub, suffix }
      else none
  | _, _ => none

/-- The type of JSON texts. -/
def isJson (m : MediaType) : Bool :=
  m.main == "application" && (m.sub == "json" || m.suffix == some "json")

/-- The type of event streams. -/
def isEventStream (m : MediaType) : Bool :=
  m.main == "text" && m.sub == "event-stream"

example :
    ["application/json; ", "application/json; charset=utf-8;", "application/json;;",
      "application/json; a=\"\""].map (fun text => (ofText? text).isSome) =
      [true, true, false, false] := by
  decide +kernel

end MediaType

end ChatRelay.Http
