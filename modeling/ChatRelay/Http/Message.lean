import ChatRelay.Http.EventStream
import ChatRelay.Json.Value

/-!
# Requests and responses

A request as it arrives, and the response to it. A response is text, JSON or a
stream of events, which says what its content type is.
-/

namespace ChatRelay.Http

/-- What is to be done with a resource. -/
inductive Method where
  | get
  | head
  | post
  | patch
  | delete
  | options
  | other (name : String)
  deriving DecidableEq, Repr

/-- The method with this name, in capitals. -/
def Method.ofText (name : String) : Method :=
  (([("GET", .get), ("HEAD", .head), ("POST", .post), ("PATCH", .patch), ("DELETE", .delete),
    ("OPTIONS", .options)] : List (String × Method)).lookup name).getD (.other name)

/-- A request. -/
structure Request where
  method : Method
  /-- The path and the query behind it. -/
  target : String
  headers : List (String × List UInt8) := []
  body : List UInt8 := []

/-- The value of the first header with a name, which is given in small letters. -/
def Request.header? (r : Request) (name : String) : Option (List UInt8) :=
  (r.headers.find? fun (key, _) => key.toLower == name).map (·.2)

/-- The value of a header if all of it is visible. -/
def visibleText? (value : List UInt8) : Option String :=
  if value.all fun b => b == 9 || (0x20 ≤ b && b < 0x7F) then
    some (String.ofList (value.map fun b => Char.ofNat b.toNat))
  else none

/-- What a response carries. -/
inductive Content where
  | nothing
  | text (s : String)
  | json (v : Json.Value)
  | events (frames : List Frame)

/-- A response. -/
structure Response where
  status : Nat
  content : Content := .nothing
  /-- Where a method is refused, the ones that are not. -/
  allow : Option String := none
  /-- The request asked for the headers only. -/
  headersOnly : Bool := false

namespace Content

def type? : Content → Option String
  | .nothing => none
  | .text _ => some "text/plain; charset=utf-8"
  | .json _ => some "application/json"
  | .events _ => some "text/event-stream"

def chars : Content → List Char
  | .nothing => []
  | .text s => s.toList
  | .json v => v.chars
  | .events frames => frames.flatMap Frame.chars

end Content

/-- The headers of a response. Pages of every origin may read it. -/
def Response.headers (r : Response) : List (String × String) :=
  (r.content.type?.map (("content-type", ·))).toList ++ (r.allow.map (("allow", ·))).toList ++
    [("access-control-allow-origin", "*")]

/-- The body of a response. -/
def Response.body (r : Response) : List Char :=
  if r.headersOnly then [] else r.content.chars

end ChatRelay.Http
