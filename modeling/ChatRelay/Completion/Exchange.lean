import ChatRelay.Completion.Chunk
import ChatRelay.Completion.EndpointError
import ChatRelay.Config.Settings
import ChatRelay.Http.EventStream
import ChatRelay.Http.MediaType
import ChatRelay.Http.Url
import ChatRelay.Json.Bytes

/-!
# Exchanges with an endpoint

What is sent to an endpoint for a request (`Request.toEndpoint`), and what its
answer means: `Answer.reply` for an answer that comes as a whole,
`Answer.items` for one that is streamed.
-/

namespace ChatRelay.Completion

open Json (Decoder Fields Value)

/-- What is sent to an endpoint. -/
structure Outgoing where
  url : Http.Url
  authorization : String
  body : Value

/-- What an endpoint answers. -/
structure Answer where
  status : Nat
  contentType : Option String := none
  body : List UInt8 := []
  deriving DecidableEq, Repr

/-- The form of a request that an endpoint takes. The model of the settings stands in for one that
is not given. -/
def Request.wireForm (r : Request) (defaultModel : String) (stream : Bool) : Value :=
  .object
    ([("messages", .list (r.messages.map Message.toJson)),
      ("model", .text (if r.model = "" then defaultModel else r.model))] ++
      Json.member? "max_completion_tokens" Value.nat r.maxTokens ++
      (if stream then
        [("stream", .bool true), ("stream_options", .object [("include_usage", .bool true)])]
      else []) ++
      Json.member? "temperature" (fun x => .number (.single x.toFloat32)) r.temperature)

/-- The address that requests go to. -/
def completionsUrl? (s : ResolvedSettings) : Option Http.Url :=
  Http.Url.ofText? (s.endpoint ++ "/chat/completions")

/-- What is sent for a request. -/
def Request.toEndpoint (r : Request) (s : ResolvedSettings) (url : Http.Url) (stream : Bool) :
    Outgoing :=
  { url, authorization := "Bearer " ++ s.apiKey, body := r.wireForm s.model stream }

/-- The answer was of no known form. -/
def unreadable (content : String) : ProviderError :=
  .deserialization ("failed to parse response: " ++ content)

namespace Wire

def wholeCall : Decoder Unit :=
  shape [required "name" Decoder.text, required "arguments" Decoder.text]

def toolCall : Decoder Unit :=
  Json.tagged "type"
    [("function", shape [required "id" Decoder.text, required "function" wholeCall]),
      ("custom", shape [required "id" Decoder.text,
        required "custom_tool" (shape [required "name" Decoder.text, required "input" Decoder.text])])]

def annotation : Decoder Unit :=
  Json.tagged "type"
    [("url_citation", shape [required "url_citation"
      (shape [required "end_index" tokens, required "start_index" tokens,
        required "title" Decoder.text, required "url" Decoder.text])])]

def audio : Decoder Unit :=
  shape [required "id" Decoder.text, required "expires_at" tokens, required "data" Decoder.text,
    required "transcript" Decoder.text]

/-- The message of a choice, of which only the text counts. -/
def message : Decoder (Option String) :=
  ((fun text _ _ _ _ _ _ => text)
    <$> Fields.optional "content" Decoder.text
    <*> Fields.optional "refusal" Decoder.text
    <*> Fields.optional "tool_calls" (Decoder.list toolCall)
    <*> Fields.optional "annotations" (Decoder.list annotation)
    <*> Fields.required "role" role
    <*> Fields.optional "function_call" wholeCall
    <*> Fields.optional "audio" audio).decoder

/-- A choice of a whole answer: its text, and why it ends. -/
def choice : Decoder (Option String × Option StopReason) :=
  ((fun _ text stop _ => (text, stop))
    <$> Fields.required "index" tokens
    <*> Fields.required "message" message
    <*> Fields.optional "finish_reason" finishReason
    <*> Fields.optional "logprobs" likelihoods).decoder

/-- A whole answer. Its first choice counts. -/
def reply : Decoder Reply :=
  ((fun id choices _ model _ _ _ usage =>
    { id, model
      content := (choices.head?.bind (·.1)).getD ""
      stopReason := (choices.head?.bind (·.2)).getD .endTurn
      usage := usage.getD {} : Reply })
    <$> Fields.required "id" Decoder.text
    <*> Fields.required "choices" (Decoder.list choice)
    <*> Fields.required "created" tokens
    <*> Fields.required "model" Decoder.text
    <*> Fields.optional "service_tier" serviceTier
    <*> Fields.optional "system_fingerprint" Decoder.text
    <*> Fields.required "object" Decoder.text
    <*> Fields.optional "usage" usage).decoder

end Wire

namespace Answer

def isSuccess (a : Answer) : Bool := 200 ≤ a.status && a.status < 300

/-- The failure that an answer without success reports. Servers that break down need not keep to
the form of reports. -/
def failure (a : Answer) : ProviderError :=
  if 500 ≤ a.status && a.status < 600 then
    EndpointError.cause { message := Text.decodeLossy a.body }
  else
    match Json.decodeBytes EndpointError.decoder a.body with
    | .ok e => e.cause
    | .error _ => unreadable (Text.decodeLossy a.body)

/-- The meaning of an answer that comes as a whole. -/
def reply (a : Answer) : Except ProviderError Reply :=
  if a.isSuccess then
    (Json.decodeBytes Wire.reply a.body).mapError fun _ => unreadable (Text.decodeLossy a.body)
  else .error a.failure

/-- The data that ends a stream. -/
def endOfStream : String := "[DONE]"

/-- The chunks of a stream of events. What is no text at its end is a failure, unless the stream has
ended before. -/
def chunksOf (fault : Option ProviderError) : List Http.Frame → List (Except ProviderError Chunk)
  | [] => (fault.map Except.error).toList
  | f :: frames =>
    if f.data = endOfStream then []
    else
      (Json.decodeText Chunk.decoder f.data).mapError (fun _ => unreadable f.data) ::
        chunksOf fault frames

/-- A value of a header in quotation marks, for a reader of messages. -/
def quotedHeader (value : String) : String :=
  let byte (b : UInt8) : List Char :=
    if b = 0x22 then ['\\', '"']
    else if 0x20 ≤ b && b < 0x7F then [Char.ofNat b.toNat]
    else ['\\', 'x'] ++ Nat.toDigits 16 b.toNat
  "\"" ++ String.ofList ((Text.encodeUtf8 value).flatMap byte) ++ "\""

/-- The chunks of a streamed answer. -/
def chunks (a : Answer) : List (Except ProviderError Chunk) :=
  if a.status = 200 then
    let contentType := a.contentType.getD ""
    if (Http.MediaType.ofText? contentType).any Http.MediaType.isEventStream then
      let (text, rest) := Text.splitUtf8 a.body
      let fault := match Text.decodeUtf8 rest with
        | .ok _ => none
        | .error f => some (.stream f.message)
      chunksOf fault (Http.EventStream.frames text)
    else [.error (.stream ("Invalid header value: " ++ quotedHeader contentType))]
  else if a.isSuccess then []
  else [.error a.failure]

/-- The meaning of a streamed answer. -/
def items (a : Answer) : List (Except ProviderError StreamEvent) :=
  streamItems a.chunks

end Answer

/-- Nobody listens at an address. -/
def unreachable (url : Http.Url) : String :=
  "error sending request for url (" ++ url.text ++ ")"

end ChatRelay.Completion
