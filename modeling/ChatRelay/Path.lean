import ChatRelay.Text.Utf8

/-!
# Paths

A path is made of bytes, which need not be text. Slashes part the names on the way
to a file or a directory.
-/

namespace ChatRelay

/-- The path of a file or a directory. -/
structure Path where
  bytes : List UInt8
  deriving DecidableEq, Repr

namespace Path

def slash : UInt8 := 0x2F

/-- The path that is written like this. -/
def ofText (text : String) : Path := ⟨Text.encodeUtf8 text⟩

/-- The path as text, unless there are bytes in it that are no character. -/
def text? (p : Path) : Option String :=
  (Text.decodeUtf8 p.bytes).toOption

/-- The path for a reader, with `U+FFFD` for bytes that are no character. -/
def shown (p : Path) : String :=
  Text.decodeLossy p.bytes

/-- A path that starts at the root. -/
def isAbsolute (p : Path) : Bool :=
  p.bytes.head? == some slash

/-- Where `q` leads from the directory `p`. -/
def join (p q : Path) : Path :=
  if q.isAbsolute then q
  else if p.bytes.isEmpty || p.bytes.getLast? == some slash then ⟨p.bytes ++ q.bytes⟩
  else ⟨p.bytes ++ slash :: q.bytes⟩

end Path

end ChatRelay
