import ChatRelay.Text.Printable

/-!
# Quoted text for a reader of logs

A text in quotation marks in which every character shows: the usual escapes for
the quotation mark, the backslash and the blanks that break a line, and code
points in braces for everything else that is not printable.
-/

namespace ChatRelay.Text

/-- The visible form of one character. -/
def visibleChar (c : Char) : List Char :=
  match c with
  | '\x00' => ['\\', '0']
  | '\t' => ['\\', 't']
  | '\n' => ['\\', 'n']
  | '\r' => ['\\', 'r']
  | '"' => ['\\', '"']
  | '\\' => ['\\', '\\']
  | c => if isPrintable c then [c] else ['\\', 'u', '\x7b'] ++ Nat.toDigits 16 c.toNat ++ ['\x7d']

/-- A text in quotation marks. -/
def quoted (s : String) : String :=
  String.ofList ('"' :: s.toList.flatMap visibleChar ++ ['"'])

end ChatRelay.Text
