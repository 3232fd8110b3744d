/-!
# Failures of a provider
-/

namespace ChatRelay.Completion

/-- Why a provider gave no answer. -/
inductive ProviderError where
  /-- The provider reported a failure of no particular kind. -/
  | provider (message : String)
  /-- Its answer could not be read. -/
  | deserialization (detail : String)
  /-- The stream of its answer broke. -/
  | stream (detail : String)
  | rateLimited (retryAfterMs : Option Nat)
  | overloaded (detail : String)
  | authenticationFailed
  | quotaExceeded (detail : String)
  | invalidRequest (detail : String)
  deriving DecidableEq, Repr

/-- The failure in words. -/
def ProviderError.message : ProviderError → String
  | .provider m => "provider error: " ++ m
  | .deserialization d => "deserialization error: " ++ d
  | .stream d => "stream error: " ++ d
  | .rateLimited none => "rate limited (retry after Nonems)"
  | .rateLimited (some ms) => s!"rate limited (retry after Some({ms})ms)"
  | .overloaded d => "provider overloaded: " ++ d
  | .authenticationFailed => "authentication failed"
  | .quotaExceeded d => "quota exceeded: " ++ d
  | .invalidRequest d => "invalid request: " ++ d

end ChatRelay.Completion
