import ChatRelay.Chat.Error
import ChatRelay.Json.Decoder
import ChatRelay.Text.Quoted
import ChatRelay.Text.WhiteSpace

/-!
# Settings of the provider

Where the provider is, the key for it, and the model to ask for. All three must
be given before an answer can be generated, but nothing before.
-/

namespace ChatRelay

open Json (Decoder Fields Value)

/-- The settings as they were given. -/
structure AiSettings where
  baseUrl : Option String := none
  apiKey : Option String := none
  model : Option String := none
  deriving DecidableEq, Repr

/-- Complete settings, without blanks around them. -/
structure ResolvedSettings where
  baseUrl : String
  apiKey : String
  model : String
  deriving DecidableEq, Repr

namespace AiSettings

/-- A value that is given and not blank, without the blanks around it. -/
def present? (value : Option String) : Option String :=
  (value.map Text.trimText).filter (· ≠ "")

def incomplete : ChatError :=
  ⟨.failedPrecondition, "AI provider is not configured: base_url, api_key and model are required"⟩

/-- The settings if all three are given. -/
def resolve (s : AiSettings) : Except ChatError ResolvedSettings :=
  match present? s.baseUrl, present? s.apiKey, present? s.model with
  | some baseUrl, some apiKey, some model => .ok { baseUrl, apiKey, model }
  | _, _, _ => .error incomplete

/-- A value for a reader of logs. -/
def logged : Option String → String
  | none => "None"
  | some v => "Some(" ++ Text.quoted v ++ ")"

/-- The settings for a reader of logs, who is not shown the key. -/
def logText (s : AiSettings) : String :=
  "AiSettings \x7b base_url: " ++ logged s.baseUrl ++ ", api_key: " ++
    logged (s.apiKey.map fun _ => "[REDACTED]") ++ ", model: " ++ logged s.model ++ " \x7d"

/-- The key is read but not written. -/
def toJson (s : AiSettings) : Value :=
  .object [("base_url", .ofOption .text s.baseUrl), ("model", .ofOption .text s.model)]

def decoder : Decoder AiSettings :=
  (AiSettings.mk <$> Fields.withDefault "base_url" Decoder.text.option none
    <*> Fields.withDefault "api_key" Decoder.text.option none
    <*> Fields.withDefault "model" Decoder.text.option none).decoder

end AiSettings

/-- The address without slashes at its end. -/
def ResolvedSettings.endpoint (s : ResolvedSettings) : String :=
  String.ofList (s.baseUrl.toList.reverse.dropWhile (· == '/')).reverse

end ChatRelay
