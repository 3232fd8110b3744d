import ChatRelay.Completion.Error
import ChatRelay.Json.Decoder
import ChatRelay.Text.Search

/-!
# Failures that an endpoint reports

An endpoint reports a failure with a message and, if it likes, a type, a
parameter and a code. `EndpointError.cause` finds out what is behind it, most of
all from the code and the type.
-/

namespace ChatRelay.Completion

open Json (Decoder Fields)

/-- A failure in the words of an endpoint. -/
structure EndpointError where
  message : String
  type : Option String := none
  param : Option String := none
  code : Option String := none
  deriving DecidableEq, Repr

namespace EndpointError

/-- The report of a failure is an object with the failure as its only member. -/
def decoder : Decoder EndpointError :=
  (id <$> Fields.required "error"
    (EndpointError.mk <$> Fields.required "message" Decoder.text
      <*> Fields.optional "type" Decoder.text
      <*> Fields.optional "param" Decoder.text
      <*> Fields.optional "code" Decoder.text).decoder).decoder

/-- All that was reported, in one line. -/
def text (e : EndpointError) : String :=
  " ".intercalate
    ((e.type.map (· ++ ":")).toList ++ [e.message] ++
      (e.param.map fun p => "(param: " ++ p ++ ")").toList ++
      (e.code.map fun c => "(code: " ++ c ++ ")").toList)

/-- The messages of endpoints that do not know the key. -/
def refusesKey (e : EndpointError) : Bool :=
  Text.occursIn "Incorrect API key".toList e.message.toList ||
    Text.occursIn "Invalid API key".toList e.message.toList

/-- What is behind a failure. -/
def cause (e : EndpointError) : ProviderError :=
  if e.code = some "invalid_api_key" ∨ e.code = some "authentication_error" ∨
      e.type = some "authentication_error" ∨ e.refusesKey then
    .authenticationFailed
  else if e.code = some "insufficient_quota" ∨ e.type = some "insufficient_quota" then
    .quotaExceeded e.message
  else if e.code = some "rate_limit_exceeded" ∨ e.type = some "rate_limit_error" then
    .rateLimited none
  else if e.code = some "server_error" ∨ e.type = some "overloaded_error" then
    .overloaded e.message
  else .provider e.text

end EndpointError

end ChatRelay.Completion
