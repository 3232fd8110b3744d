import ChatRelay.Completion.Message

/-!
# The JSON forms of requests, answers and stream events

Every type has a `toJson` and a `decoder` of the same form. What has no value
is left out.
-/

namespace ChatRelay.Completion

open Json (Decoder Fields Value)

/-- The bound of the token counts. -/
def tokenBound : Nat := Nat.pow 2 32

/-- A token count. -/
def tokens : Decoder Nat := Decoder.below tokenBound

def Message.toJson (m : Message) : Value :=
  .object [("role", m.role.toJson), ("content", .text m.content)]

def Message.decoder : Decoder Message :=
  (Message.mk <$> Fields.required "role" Role.decoder
    <*> Fields.required "content" Decoder.text).decoder

def Request.toJson (r : Request) : Value :=
  .object
    ([("model", .text r.model), ("messages", .list (r.messages.map Message.toJson))] ++
      Json.member? "max_tokens" Value.nat r.maxTokens ++
      Json.member? "temperature" (fun x => .number (.double x)) r.temperature ++
      [("stream", .bool r.stream)])

def Request.decoder : Decoder Request :=
  (Request.mk <$> Fields.required "model" Decoder.text
    <*> Fields.required "messages" (Decoder.list Message.decoder)
    <*> Fields.optional "max_tokens" tokens
    <*> Fields.optional "temperature" Decoder.double
    <*> Fields.withDefault "stream" Decoder.bool false).decoder

namespace StopReason

def name : StopReason → String
  | .endTurn => "end_turn"
  | .maxTokens => "max_tokens"
  | .stopSequence => "stop_sequence"
  | .contentFilter => "content_filter"

def names : List (String × StopReason) :=
  [("end_turn", .endTurn), ("max_tokens", .maxTokens), ("stop_sequence", .stopSequence),
    ("content_filter", .contentFilter)]

def toJson (r : StopReason) : Value := .text r.name

def decoder : Decoder StopReason := Json.oneOf names

end StopReason

def Usage.members (u : Usage) : List (String × Value) :=
  [("input_tokens", .nat u.inputTokens), ("output_tokens", .nat u.outputTokens)]

def Usage.toJson (u : Usage) : Value := .object u.members

def Usage.decoder : Decoder Usage :=
  (Usage.mk <$> Fields.required "input_tokens" tokens
    <*> Fields.required "output_tokens" tokens).decoder

def Reply.toJson (r : Reply) : Value :=
  .object [("id", .text r.id), ("content", .text r.content), ("model", .text r.model),
    ("stop_reason", r.stopReason.toJson), ("usage", r.usage.toJson)]

def Reply.decoder : Decoder Reply :=
  (Reply.mk <$> Fields.required "id" Decoder.text
    <*> Fields.required "content" Decoder.text
    <*> Fields.required "model" Decoder.text
    <*> Fields.required "stop_reason" StopReason.decoder
    <*> Fields.required "usage" Usage.decoder).decoder

def StreamEvent.toJson : StreamEvent → Value
  | .connected => .object [("type", .text "connected")]
  | .textDelta t => .object [("type", .text "text_delta"), ("text", .text t)]
  | .messageDelta r => .object [("type", .text "message_delta"), ("stop_reason", r.toJson)]
  | .usage u => .object (("type", .text "usage") :: u.members)
  | .done => .object [("type", .text "done")]

def StreamEvent.decoder : Decoder StreamEvent :=
  Json.tagged "type"
    [("connected", Json.alone .connected),
      ("text_delta", (StreamEvent.textDelta <$> Fields.required "text" Decoder.text).decoder),
      ("message_delta",
        (StreamEvent.messageDelta <$> Fields.required "stop_reason" StopReason.decoder).decoder),
      ("usage", fun ctx s => (Usage.decoder ctx s).map StreamEvent.usage),
      ("done", Json.alone .done)]

end ChatRelay.Completion
