import ChatRelay.Json.Decoder
import ChatRelay.Text.Utf8

/-!
# Reading JSON from bytes

Bytes that are no UTF-8 may stand inside quotation marks, where they spoil the
text just like an escaped surrogate without its partner: only a reader who
wants the text refuses it. Everywhere else they are no JSON.
-/

namespace ChatRelay.Json

/-- An escaped surrogate, which no text holds alone. -/
def loneSurrogate : List Char := ['\\', 'u', 'd', 'c', '0', '0']

/-- A text ends with a backslash that no other backslash escapes. -/
def endsEscaping (cs : List Char) : Bool :=
  (cs.reverse.takeWhile (· == '\\')).length % 2 == 1

/-- The characters of a JSON text, with a spoiled one in place of every byte that is none. Behind a
backslash that is a control character, which cannot be escaped. The first argument bounds how often
that happens. -/
def charsFrom : Nat → List UInt8 → List Char
  | 0, _ => []
  | fuel + 1, bytes =>
    let (cs, rest) := Text.splitUtf8 bytes
    match rest with
    | [] => cs
    | _ :: rest =>
      cs ++ (if endsEscaping cs then [Char.ofNat 1] else loneSurrogate) ++ charsFrom fuel rest

/-- Reads a value from the whole of some bytes. -/
def decodeBytes (d : Decoder α) (bytes : List UInt8) : Except Fault α :=
  decodeChars d (charsFrom (bytes.length + 1) bytes)

end ChatRelay.Json
