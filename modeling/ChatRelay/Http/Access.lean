import ChatRelay.Http.Message
import ChatRelay.Keys.Table
import ChatRelay.Text.Search
import ChatRelay.Text.WhiteSpace

/-!
# Who is calling

A caller shows a key in one of two headers. A request without a key has no
identity, and it is up to the service whether it needs one. A key that nobody
holds is refused, and so is a header that cannot be read.
-/

namespace ChatRelay.Http

/-- Why the identity of a caller cannot be found out. -/
inductive AccessFault where
  | unreadableAuthorization
  | unreadableKeyHeader
  | unknownKey
  deriving DecidableEq, Repr

def AccessFault.message : AccessFault → String
  | .unreadableAuthorization => "Invalid Authorization header encoding"
  | .unreadableKeyHeader => "Invalid X-API-Key header encoding"
  | .unknownKey =>
    "Invalid API key. Provide a valid key via 'Authorization: Bearer <key>' or " ++
      "'X-API-Key: <key>' header."

/-- A key without the blanks around it, if anything is left. -/
def keyIn (text : String) : Option String :=
  let key := Text.trimText text
  if key = "" then none else some key

/-- The key in the header for keys only. -/
def keyHeader (r : Request) : Except AccessFault (Option String) :=
  match r.header? "x-api-key" with
  | none => .ok none
  | some value =>
    match visibleText? value with
    | none => .error .unreadableKeyHeader
    | some text => .ok (keyIn text)

/-- The key that a request shows. The header for credentials of all kinds comes first. -/
def shownKey (r : Request) : Except AccessFault (Option String) :=
  match r.header? "authorization" with
  | none => keyHeader r
  | some value =>
    match visibleText? value with
    | none => .error .unreadableAuthorization
    | some text =>
      match Text.stripTextStart? "Bearer " text with
      | some key => .ok (keyIn key)
      | none => keyHeader r

/-- Finds out who is calling. -/
def callerOf (r : Request) (keys : KeyTable) (now : Time.Instant) :
    Except AccessFault (Option UserId) × KeyTable :=
  match shownKey r with
  | .error f => (.error f, keys)
  | .ok none => (.ok none, keys)
  | .ok (some key) =>
    match keys.authenticate key now with
    | (some owner, keys) => (.ok (some owner), keys)
    | (none, keys) => (.error .unknownKey, keys)

end ChatRelay.Http
