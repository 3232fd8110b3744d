import ChatRelay.Http.Message
import ChatRelay.Text.Hex
import ChatRelay.Text.Search
import ChatRelay.Text.Utf8

/-!
# Routes

The paths of the interface, the methods that each of them takes, and what is
done for a method. Paths are compared as they are written; only the handle of a
conversation is decoded.
-/

namespace ChatRelay.Http

/-- A path of the interface. -/
inductive Route where
  | health
  | generate
  | sessions
  /-- One conversation. Its handle is still encoded. -/
  | session (segment : List Char)
  deriving DecidableEq, Repr

/-- What the interface does for a caller. -/
inductive Task where
  | generate
  | list
  | get (segment : List Char)
  | rename (segment : List Char)
  | delete (segment : List Char)
  deriving DecidableEq, Repr

/-- What the interface does. -/
inductive Operation where
  /-- Tells everybody that it is there. -/
  | health
  | task (t : Task)
  deriving DecidableEq, Repr

namespace Route

/-- The route of a path with what stands behind it. -/
def ofTarget? (target : String) : Option Route :=
  let path := target.toList.takeWhile fun c => c != '?' && c != '#'
  match (Text.splitOnChar '/' path).map String.ofList with
  | ["", "api", "v1", "health"] => some .health
  | ["", "api", "v1", "ai", "generate"] => some .generate
  | ["", "api", "v1", "ai", "sessions"] => some .sessions
  | ["", "api", "v1", "ai", "sessions", segment] =>
    if segment = "" then none else some (.session segment.toList)
  | _ => none

/-- What a method does here. The headers alone are had by the same way as everything. -/
def operation? : Route → Method → Option Operation
  | .health, .get | .health, .head => some .health
  | .generate, .post => some (.task .generate)
  | .sessions, .get | .sessions, .head => some (.task .list)
  | .session s, .get | .session s, .head => some (.task (.get s))
  | .session s, .patch => some (.task (.rename s))
  | .session s, .delete => some (.task (.delete s))
  | _, _ => none

/-- The methods that do something here. -/
def allow : Route → String
  | .health | .sessions => "GET,HEAD"
  | .generate => "POST"
  | .session _ => "GET,HEAD,PATCH,DELETE"

end Route

/-- The bytes of a text in which some are written as a percent sign and two digits. -/
def percentDecode : List Char → List UInt8
  | '%' :: a :: b :: rest =>
    match Text.hexValue? a, Text.hexValue? b with
    | some m, some n => UInt8.ofNat (16 * m + n) :: percentDecode rest
    | _, _ => 0x25 :: percentDecode (a :: b :: rest)
  | c :: rest => Text.encodeUtf8 (String.singleton c) ++ percentDecode rest
  | [] => []

/-- The handle that a segment of a path stands for. -/
def handleOf? (segment : List Char) : Option String :=
  (Text.decodeUtf8 (percentDecode segment)).toOption

end ChatRelay.Http
