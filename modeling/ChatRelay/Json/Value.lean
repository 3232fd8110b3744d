import ChatRelay.Decimal.Shortest
import ChatRelay.Text.Hex

/-!
# JSON values and their text

`Value.compact` writes a value without any blank, `Value.indented` one item a
line. Members stand in the order in which they are given.

In a text only the quotation mark, the backslash and the control characters are
escaped, so a written value holds no line break of its own.
-/

namespace ChatRelay.Json

/-- A number, as it was computed. -/
inductive Number where
  | whole (n : Int)
  | double (x : Float)
  | single (x : Float32)

/-- A JSON value. -/
inductive Value where
  | null
  | bool (b : Bool)
  | number (n : Number)
  | text (s : String)
  | list (items : List Value)
  | object (members : List (String × Value))
  deriving Inhabited

/-- A natural number. -/
def Value.nat (n : Nat) : Value := .number (.whole n)

/-- A text, or `null` in its place. -/
def Value.ofOption (f : α → Value) : Option α → Value
  | none => .null
  | some a => f a

/-- The members for a field that is left out when it has no value. -/
def member? (name : String) (f : α → Value) : Option α → List (String × Value)
  | none => []
  | some a => [(name, f a)]

/-- The characters for a number; one that is not finite has none and is written `null`. -/
def Number.chars : Number → List Char
  | .whole n => (toString n).toList
  | .double x => ((doubleText x).getD "null").toList
  | .single x => ((singleText x).getD "null").toList

/-- The characters that stand for one character inside quotation marks. -/
def escape (c : Char) : List Char :=
  if c = '"' then ['\\', '"']
  else if c = '\\' then ['\\', '\\']
  else if c = '\n' then ['\\', 'n']
  else if c = '\r' then ['\\', 'r']
  else if c = '\t' then ['\\', 't']
  else if c.toNat = 8 then ['\\', 'b']
  else if c.toNat = 12 then ['\\', 'f']
  else if c.toNat < 0x20 then
    ['\\', 'u', '0', '0', Text.hexDigit (c.toNat / 16), Text.hexDigit (c.toNat % 16)]
  else [c]

/-- A text in quotation marks. -/
def quote (s : String) : List Char :=
  '"' :: s.toList.flatMap escape ++ ['"']

mutual

/-- A value without blanks. -/
def Value.chars : Value → List Char
  | .null => ['n', 'u', 'l', 'l']
  | .bool true => ['t', 'r', 'u', 'e']
  | .bool false => ['f', 'a', 'l', 's', 'e']
  | .number n => n.chars
  | .text s => quote s
  | .list items => '[' :: itemsChars items
  | .object members => '{' :: membersChars members

/-- The items of a list and its closing bracket. -/
def itemsChars : List Value → List Char
  | [] => [']']
  | [v] => v.chars ++ [']']
  | v :: vs => v.chars ++ ',' :: itemsChars vs

/-- The members of an object and its closing brace. -/
def membersChars : List (String × Value) → List Char
  | [] => ['}']
  | [(k, v)] => quote k ++ ':' :: v.chars ++ ['}']
  | (k, v) :: ms => quote k ++ ':' :: v.chars ++ ',' :: membersChars ms

end

/-- A value without blanks. -/
def Value.compact (v : Value) : String :=
  String.ofList v.chars

/-- A line break and the blanks in front of an item at this depth. -/
def lineBreak (depth : Nat) : List Char :=
  '\n' :: List.replicate (2 * depth) ' '

mutual

/-- A value with one item a line, two blanks for each level of depth. -/
def Value.indentedChars (depth : Nat) : Value → List Char
  | .list [] => ['[', ']']
  | .list items => '[' :: itemsIndented depth items
  | .object [] => ['{', '}']
  | .object members => '{' :: membersIndented depth members
  | .null => ['n', 'u', 'l', 'l']
  | .bool true => ['t', 'r', 'u', 'e']
  | .bool false => ['f', 'a', 'l', 's', 'e']
  | .number n => n.chars
  | .text s => quote s

/-- The items of a list, each on a line of its own, and the closing bracket. -/
def itemsIndented (depth : Nat) : List Value → List Char
  | [] => lineBreak depth ++ [']']
  | [v] => lineBreak (depth + 1) ++ v.indentedChars (depth + 1) ++ lineBreak depth ++ [']']
  | v :: vs =>
    lineBreak (depth + 1) ++ v.indentedChars (depth + 1) ++ ',' :: itemsIndented depth vs

/-- The members of an object, each on a line of its own, and the closing brace. -/
def membersIndented (depth : Nat) : List (String × Value) → List Char
  | [] => lineBreak depth ++ ['}']
  | [(k, v)] =>
    lineBreak (depth + 1) ++ quote k ++ ':' :: ' ' :: v.indentedChars (depth + 1) ++
      lineBreak depth ++ ['}']
  | (k, v) :: ms =>
    lineBreak (depth + 1) ++ quote k ++ ':' :: ' ' :: v.indentedChars (depth + 1) ++
      ',' :: membersIndented depth ms

end

/-- A value with one item a line. -/
def Value.indented (v : Value) : String :=
  String.ofList (v.indentedChars 0)

end ChatRelay.Json
