import ChatRelay.Json.Decoder

/-!
# Reading values of any kind

`Value.ofText` reads a text whose shape is not known beforehand.
-/

namespace ChatRelay.Json

/-- The number that was read. -/
def SourceNumber.number : SourceNumber → Number
  | .natural n => .whole n
  | .negative n => .whole (-n)
  | .double x => .double x

/-- The text of a key. -/
def Source.key : Source → String
  | .text s => s
  | _ => ""

mutual

/-- The value that was read, where there is no fault in it. -/
def Source.value : Source → Value
  | .null => .null
  | .bool b => .bool b
  | .number n => .number n.number
  | .text s => .text s
  | .flawed .. => .null
  | .list items _ => .list (itemValues items)
  | .object members _ => .object (memberValues members)

def itemValues : List Source → List Value
  | [] => []
  | s :: ss => s.value :: itemValues ss

def memberValues : List (Source × Source) → List (String × Value)
  | [] => []
  | (key, s) :: ms => (key.key, s.value) :: memberValues ms

end

/-- Any value. -/
def Decoder.any : Decoder Value := fun ctx s => do
  s.admit ctx.room
  return s.value

/-- Reads a value of any kind. -/
def Value.ofText (text : String) : Except Fault Value :=
  decodeText Decoder.any text

/-- The member of an object with this name. -/
def Value.member? (v : Value) (name : String) : Option Value :=
  match v with
  | .object members => members.lookup name
  | _ => none

end ChatRelay.Json
