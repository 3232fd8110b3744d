import ChatRelay.Chat.Error
import ChatRelay.Completion.Error
import ChatRelay.Text.LowerCase
import ChatRelay.Text.Search

/-!
# What a caller is told of a provider's failure

Where a provider says what went wrong, its word is taken. Otherwise the text of
the failure is searched for telling words, in letters of any case: first for
signs of a refused credential, then of a limited rate, then of a used-up quota.
-/

namespace ChatRelay.Generation

open Completion (ProviderError)

/-- What a failure comes down to. -/
inductive FailureClass where
  | credential
  | rateLimit
  | quota
  | other
  deriving DecidableEq, Repr

def credentialWords : List String :=
  ["401", "unauthorized", "invalid api key", "authentication"]

def rateLimitWords : List String :=
  ["429", "rate limit"]

def quotaWords : List String :=
  ["quota", "billing"]

/-- Whether one of the words occurs in a text. -/
def mentions (text : String) (words : List String) : Bool :=
  words.any fun w => Text.occursIn w.toList text.toList

/-- What the text of a failure, in small letters, comes down to. -/
def FailureClass.ofText (text : String) : FailureClass :=
  if mentions text credentialWords then .credential
  else if mentions text rateLimitWords then .rateLimit
  else if mentions text quotaWords then .quota
  else .other

def FailureClass.ofError (e : ProviderError) : FailureClass :=
  match e with
  | .authenticationFailed => .credential
  | .rateLimited _ => .rateLimit
  | .quotaExceeded _ => .quota
  | e => .ofText (Text.lowerCase e.message)

def invalidCredential : ChatError :=
  ⟨.unauthenticated, "Invalid API key or authentication failed"⟩

/-- What a caller is told when the provider's stream could not be opened. -/
def setupError (e : ProviderError) : ChatError :=
  match FailureClass.ofError e with
  | .credential => invalidCredential
  | .rateLimit => ⟨.resourceExhausted, "Rate limit exceeded, please try again later"⟩
  | .quota => ⟨.failedPrecondition, "API quota exceeded or billing issue"⟩
  | .other => ⟨.internal, "failed to create AI stream: " ++ e.message⟩

/-- What a caller is told when the stream broke off. Only a refused credential keeps its own code. -/
def streamError (e : ProviderError) : ChatError :=
  match FailureClass.ofError e with
  | .credential => invalidCredential
  | _ => ⟨.internal, "stream error: " ++ e.message⟩

end ChatRelay.Generation
