import ChatRelay.Completion.Error
import ChatRelay.Completion.Json

/-!
# The pieces of a streamed answer

An endpoint streams its answer in chunks. Each may report how many tokens were
used and holds any number of choices, with a piece of text and a reason to
stop.

`Chunk.events` says what a chunk means and `streamItems` what a stream of
chunks means: the stream is open once its first chunk is no failure, and it is
done when it ends without one.

Much of a chunk has a prescribed shape but no use here. `shape` describes such
records.
-/

namespace ChatRelay.Completion

open Json (Decoder Fields)

namespace Wire

/-- A record of which only the shape counts. -/
def shape (fields : List (Fields Unit)) : Decoder Unit :=
  (fields.foldl (fun f g => (fun _ _ => ()) <$> f <*> g) (Fields.pure ())).decoder

def required (name : String) (d : Decoder α) : Fields Unit :=
  (fun _ => ()) <$> Fields.required name d

def optional (name : String) (d : Decoder α) : Fields Unit :=
  (fun _ => ()) <$> Fields.optional name d

def names (l : List String) : Decoder Unit := Json.oneOf (l.map (·, ()))

def role : Decoder Unit := names ["system", "user", "assistant", "tool", "function"]

def serviceTier : Decoder Unit := names ["auto", "default", "flex", "scale", "priority"]

/-- Why an endpoint stopped. A call of a tool ends the turn. -/
def finishReason : Decoder StopReason :=
  Json.oneOf [("stop", .endTurn), ("length", .maxTokens), ("tool_calls", .endTurn),
    ("content_filter", .contentFilter), ("function_call", .endTurn)]

def usage : Decoder Usage :=
  ((fun input output _ _ _ => Usage.mk input output)
    <$> Fields.required "prompt_tokens" tokens
    <*> Fields.required "completion_tokens" tokens
    <*> Fields.required "total_tokens" tokens
    <*> Fields.optional "prompt_tokens_details"
      (shape [optional "audio_tokens" tokens, optional "cached_tokens" tokens])
    <*> Fields.optional "completion_tokens_details"
      (shape [optional "accepted_prediction_tokens" tokens, optional "audio_tokens" tokens,
        optional "reasoning_tokens" tokens, optional "rejected_prediction_tokens" tokens])).decoder

/-- How likely a token was, and what else could have been there. -/
def tokenLikelihood (more : List (Fields Unit)) : Decoder Unit :=
  shape ([required "token" Decoder.text, required "logprob" Decoder.double,
    optional "bytes" (Decoder.list (Decoder.below 256))] ++ more)

def likelihoods : Decoder Unit :=
  let token := tokenLikelihood [required "top_logprobs" (Decoder.list (tokenLikelihood []))]
  shape [optional "content" (Decoder.list token), optional "refusal" (Decoder.list token)]

def partialCall : Decoder Unit :=
  shape [optional "name" Decoder.text, optional "arguments" Decoder.text]

def partialToolCall : Decoder Unit :=
  shape [required "index" tokens, optional "id" Decoder.text, optional "type" (names ["function"]),
    optional "function" partialCall]

end Wire

/-- A choice of a chunk. -/
structure ChunkChoice where
  text : Option String := none
  stop : Option StopReason := none
  deriving DecidableEq, Repr

/-- A piece of a streamed answer. -/
structure Chunk where
  choices : List ChunkChoice := []
  usage : Option Usage := none
  deriving DecidableEq, Repr

namespace Wire

/-- What a choice adds to the message, of which only the text counts. -/
def delta : Decoder (Option String) :=
  ((fun text _ _ _ _ => text)
    <$> Fields.optional "content" Decoder.text
    <*> Fields.optional "function_call" partialCall
    <*> Fields.optional "tool_calls" (Decoder.list partialToolCall)
    <*> Fields.optional "role" role
    <*> Fields.optional "refusal" Decoder.text).decoder

def chunkChoice : Decoder ChunkChoice :=
  ((fun _ text stop _ => ChunkChoice.mk text stop)
    <$> Fields.required "index" tokens
    <*> Fields.required "delta" delta
    <*> Fields.optional "finish_reason" finishReason
    <*> Fields.optional "logprobs" likelihoods).decoder

end Wire

def Chunk.decoder : Decoder Chunk :=
  ((fun _ choices _ _ _ _ _ usage => Chunk.mk choices usage)
    <$> Fields.required "id" Decoder.text
    <*> Fields.required "choices" (Decoder.list Wire.chunkChoice)
    <*> Fields.required "created" tokens
    <*> Fields.required "model" Decoder.text
    <*> Fields.optional "service_tier" Wire.serviceTier
    <*> Fields.optional "system_fingerprint" Decoder.text
    <*> Fields.required "object" Decoder.text
    <*> Fields.optional "usage" Wire.usage).decoder

/-- A piece of text that is not empty, then the reason to stop. -/
def ChunkChoice.events (c : ChunkChoice) : List StreamEvent :=
  ((c.text.filter (· ≠ "")).map StreamEvent.textDelta).toList ++
    (c.stop.map StreamEvent.messageDelta).toList

/-- The tokens that were used, then the choices. -/
def Chunk.events (c : Chunk) : List StreamEvent :=
  (c.usage.map StreamEvent.usage).toList ++ c.choices.flatMap ChunkChoice.events

/-- What happens when the answer of an endpoint comes in chunks, up to the first failure. -/
def chunkItems : List (Except ProviderError Chunk) → List (Except ProviderError StreamEvent)
  | [] => [.ok .done]
  | .error e :: _ => [.error e]
  | .ok c :: chunks => c.events.map .ok ++ chunkItems chunks

/-- What happens while an answer is streamed. Until its first event the stream is not open. -/
def streamItems (chunks : List (Except ProviderError Chunk)) :
    List (Except ProviderError StreamEvent) :=
  match chunkItems chunks with
  | .error e :: _ => [.error e]
  | items => .ok .connected :: items

end ChatRelay.Completion
