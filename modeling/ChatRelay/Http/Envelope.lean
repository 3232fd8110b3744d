import ChatRelay.Chat.Json
import ChatRelay.Chat.Error
import ChatRelay.Http.Access

/-!
# Envelopes

Every answer of the interface that is not a stream comes in an envelope: the
data, something about the request, the errors and a link. A request that the
interface cannot even read is refused in plain words.
-/

namespace ChatRelay.Http

open Json (Value)

/-- The circumstances of a request. -/
structure Stamp where
  requestId : Uuid
  /-- When the caller was identified, and when the response was written. -/
  receivedAt : Time.Instant
  answeredAt : Time.Instant
  /-- How many milliseconds lie between the two. -/
  elapsed : Nat

/-- A point in time, with the zone as a distance from UTC. -/
def zonedText (t : Time.Instant) : String :=
  String.ofList ((t.chars .exact).dropLast ++ ['+', '0', '0', ':', '0', '0'])

def Stamp.toJson (s : Stamp) (elapsed : Nat) : Value :=
  .object [("request_id", s.requestId.toJson), ("timestamp", .text (zonedText s.answeredAt)),
    ("response_time_ms", .nat elapsed)]

/-- Data in its envelope, with the path under which it can be had again. -/
def enveloped (stamp : Stamp) (data : Value) (self : Option String) : Response :=
  { status := 200
    content := .json (.object
      ([("data", data), ("meta", stamp.toJson stamp.elapsed)] ++
        Json.member? "_links" (fun path => .object [("self", .text path)]) self)) }

/-- Why a request is refused. -/
inductive Refusal where
  /-- The service failed or would not do it. -/
  | service (e : ChatError)
  | access (f : AccessFault)
  /-- The path holds bytes that are no text. -/
  | path
  /-- The body is not said to be JSON. -/
  | contentType
  | bodyTooLarge
  /-- The body is not JSON. -/
  | malformedBody
  /-- The body is the JSON text of something else. -/
  | mismatchedBody
  deriving DecidableEq, Repr

/-- An error in its envelope. -/
def errorEnvelope (stamp : Stamp) (status : Nat) (code message : String) : Response :=
  { status
    content := .json (.object
      [("data", .null), ("meta", stamp.toJson 0),
        ("errors", .list [.object [("code", .text code), ("message", .text message)]])]) }

/-- The response that refuses a request. -/
def Refusal.response (stamp : Stamp) : Refusal → Response
  | .service e => errorEnvelope stamp e.code.httpStatus e.code.name e.message
  | .access f => errorEnvelope stamp 401 "UNAUTHORIZED" f.message
  | .path => { status := 400, content := .text "Invalid URL: Invalid UTF-8 in \x60uid\x60" }
  | .contentType =>
    { status := 415
      content := .text "Expected request with \x60Content-Type: application/json\x60" }
  | .bodyTooLarge =>
    { status := 413
      content := .text "Failed to buffer the request body: length limit exceeded" }
  | .malformedBody => { status := 400, content := .text "Failed to parse the request body as JSON" }
  | .mismatchedBody =>
    { status := 422
      content := .text "Failed to deserialize the JSON body into the target type" }

end ChatRelay.Http
