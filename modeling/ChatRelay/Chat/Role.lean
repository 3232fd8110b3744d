import ChatRelay.Json.Decoder
import ChatRelay.Text.LowerCase

/-!
# Roles and statuses

Who speaks in a message, and whether a conversation is in use. Both have one
name each, in small letters. `ofName` reads a name in letters of any case.
-/

namespace ChatRelay

/-- Who speaks in a message. -/
inductive Role where
  | system
  | user
  | assistant
  deriving DecidableEq, Repr

/-- Whether a conversation is in use. -/
inductive Status where
  | active
  | archived
  deriving DecidableEq, Repr

namespace Role

def name : Role → String
  | .system => "system"
  | .user => "user"
  | .assistant => "assistant"

def names : List (String × Role) :=
  [("system", .system), ("user", .user), ("assistant", .assistant)]

/-- The role with a name, or a message for a person. -/
def ofName (s : String) : Except String Role :=
  let small := Text.lowerCase s
  match names.lookup small with
  | some r => .ok r
  | none => .error s!"invalid message role: '{small}'"

def toJson (r : Role) : Json.Value := .text r.name

def decoder : Json.Decoder Role := Json.oneOf names

end Role

namespace Status

def name : Status → String
  | .active => "active"
  | .archived => "archived"

def names : List (String × Status) :=
  [("active", .active), ("archived", .archived)]

/-- The status with a name, or a message for a person. -/
def ofName (s : String) : Except String Status :=
  let small := Text.lowerCase s
  match names.lookup small with
  | some r => .ok r
  | none => .error s!"invalid conversation status: '{small}'"

def toJson (s : Status) : Json.Value := .text s.name

def decoder : Json.Decoder Status := Json.oneOf names

end Status

end ChatRelay
