/-!
# Errors for a caller

What a caller is told when a request fails: a code that programs can rely on
and a message for a person. Every code has its status in HTTP.
-/

namespace ChatRelay

/-- What kind of failure it was. -/
inductive ErrorCode where
  /-- No identity, or a credential that the provider does not accept. -/
  | unauthenticated
  /-- The conversation belongs to somebody else. -/
  | permissionDenied
  | invalidArgument
  /-- The provider is not configured, or its quota is used up. -/
  | failedPrecondition
  /-- The provider asks for a slower pace. -/
  | resourceExhausted
  | notFound
  | internal
  deriving DecidableEq, Repr

def ErrorCode.name : ErrorCode → String
  | .unauthenticated => "UNAUTHENTICATED"
  | .permissionDenied => "PERMISSION_DENIED"
  | .invalidArgument => "INVALID_ARGUMENT"
  | .failedPrecondition => "FAILED_PRECONDITION"
  | .resourceExhausted => "RESOURCE_EXHAUSTED"
  | .notFound => "NOT_FOUND"
  | .internal => "INTERNAL"

/-- The status of a response that reports the error. -/
def ErrorCode.httpStatus : ErrorCode → Nat
  | .unauthenticated => 401
  | .permissionDenied => 403
  | .invalidArgument => 400
  | .failedPrecondition => 412
  | .resourceExhausted => 429
  | .notFound => 404
  | .internal => 500

/-- An error for a caller. -/
structure ChatError where
  code : ErrorCode
  message : String
  deriving DecidableEq, Repr

end ChatRelay
