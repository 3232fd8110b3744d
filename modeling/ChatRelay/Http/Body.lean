import ChatRelay.Completion.Json
import ChatRelay.Generation.Relay
import ChatRelay.Http.Envelope
import ChatRelay.Http.MediaType
import ChatRelay.Json.Bytes

/-!
# Bodies of requests

What a caller sends along: the messages to be answered, or a new title. A body
must be said to be JSON, not be too large, be JSON, and have the right shape; the
first of these that fails is reported.
-/

namespace ChatRelay.Http

open Json (Decoder Fields Value)

/-- The messages to be answered, and the conversation that goes on. -/
def generationBody : Decoder Generation.GenerationRequest :=
  (Generation.GenerationRequest.mk
    <$> Fields.required "messages" (Decoder.list Completion.Message.decoder)
    <*> Fields.withDefault "session_uid" Decoder.text.option none).decoder

/-- A new title. -/
def titleBody : Decoder String :=
  (id <$> Fields.required "title" Decoder.text).decoder

/-- Whether the body is said to be JSON. -/
def Request.isJson (r : Request) : Bool :=
  (((r.header? "content-type").bind visibleText?).bind MediaType.ofText?).any MediaType.isJson

/-- How many bytes of a body are taken in. -/
def bodyLimit : Nat := 2 * 1024 * 1024

/-- Reads the body of a request. -/
def Request.read (r : Request) (d : Decoder α) : Except Refusal α :=
  if !r.isJson then .error .contentType
  else if bodyLimit < r.body.length then .error .bodyTooLarge
  else
    match Json.decodeBytes d r.body with
    | .ok a => .ok a
    | .error .mismatched => .error .mismatchedBody
    | .error _ => .error .malformedBody

end ChatRelay.Http
