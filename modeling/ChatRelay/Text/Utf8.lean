/-!
# Reading UTF-8

`decodeUtf8` reads the characters of a text from its bytes, or tells where the
first bytes stand that are no character, and how many bytes were enough to see
that. A text that ends inside a character has no such number.
-/

namespace ChatRelay.Text

/-- Where bytes are not UTF-8. -/
structure Utf8Fault where
  /-- The number of bytes in front of the fault. -/
  index : Nat
  /-- The bytes that cannot begin a character, unless the text merely ends too early. -/
  length : Option Nat
  deriving DecidableEq, Repr

def Utf8Fault.message (f : Utf8Fault) : String :=
  match f.length with
  | some n => s!"invalid utf-8 sequence of {n} bytes from index {f.index}"
  | none => s!"incomplete utf-8 byte sequence from index {f.index}"

/-- A byte that goes on with a character. -/
def isContinuation (b : UInt8) : Bool := 0x80 ≤ b && b ≤ 0xBF

/-- The bytes that may follow the first byte of a character of three or four bytes. -/
def isSecond (a b : UInt8) : Bool :=
  let least : UInt8 := if a = 0xE0 then 0xA0 else if a = 0xF0 then 0x90 else 0x80
  let greatest : UInt8 := if a = 0xED then 0x9F else if a = 0xF4 then 0x8F else 0xBF
  least ≤ b && b ≤ greatest

/-- The character with these leading bits and these continuation bytes. -/
def joinBytes (lead : Nat) (rest : List UInt8) : Char :=
  Char.ofNat (rest.foldl (fun n b => n * 64 + (b.toNat - 0x80)) lead)

/-- Reads the characters of a text, when `i` bytes stand in front of it. -/
def decodeUtf8From (i : Nat) : List UInt8 → Except Utf8Fault (List Char)
  | [] => .ok []
  | a :: rest =>
    if a < 0x80 then (decodeUtf8From (i + 1) rest).map (Char.ofNat a.toNat :: ·)
    else if 0xC2 ≤ a ∧ a ≤ 0xDF then
      match rest with
      | [] => .error ⟨i, none⟩
      | b :: rest =>
        if isContinuation b then
          (decodeUtf8From (i + 2) rest).map (joinBytes (a.toNat - 0xC0) [b] :: ·)
        else .error ⟨i, some 1⟩
    else if 0xE0 ≤ a ∧ a ≤ 0xEF then
      match rest with
      | [] => .error ⟨i, none⟩
      | [b] => .error ⟨i, if isSecond a b then none else some 1⟩
      | b :: c :: rest =>
        if !isSecond a b then .error ⟨i, some 1⟩
        else if !isContinuation c then .error ⟨i, some 2⟩
        else (decodeUtf8From (i + 3) rest).map (joinBytes (a.toNat - 0xE0) [b, c] :: ·)
    else if 0xF0 ≤ a ∧ a ≤ 0xF4 then
      match rest with
      | [] => .error ⟨i, none⟩
      | [b] => .error ⟨i, if isSecond a b then none else some 1⟩
      | [b, c] =>
        .error ⟨i, if !isSecond a b then some 1 else if isContinuation c then none else some 2⟩
      | b :: c :: d :: rest =>
        if !isSecond a b then .error ⟨i, some 1⟩
        else if !isContinuation c then .error ⟨i, some 2⟩
        else if !isContinuation d then .error ⟨i, some 3⟩
        else (decodeUtf8From (i + 4) rest).map (joinBytes (a.toNat - 0xF0) [b, c, d] :: ·)
    else .error ⟨i, some 1⟩

/-- The text that bytes stand for. -/
def decodeUtf8 (bytes : List UInt8) : Except Utf8Fault String :=
  (decodeUtf8From 0 bytes).map String.ofList

/-- The longest text at the start of some bytes, and the bytes behind it. -/
def splitUtf8 (bytes : List UInt8) : List Char × List UInt8 :=
  match decodeUtf8From 0 bytes with
  | .ok cs => (cs, [])
  | .error f =>
    ((decodeUtf8From 0 (bytes.take f.index)).toOption.getD [], bytes.drop f.index)

/-- The characters that bytes stand for, with `U+FFFD` for bytes that are none. The first argument
bounds how often that happens. -/
def lossyFrom : Nat → List UInt8 → List Char
  | 0, _ => []
  | fuel + 1, bytes =>
    match decodeUtf8From 0 bytes with
    | .ok cs => cs
    | .error f =>
      (splitUtf8 bytes).1 ++ '\uFFFD' ::
        lossyFrom fuel (bytes.drop (f.index + f.length.getD bytes.length))

/-- The text that bytes stand for, with `U+FFFD` for bytes that are no character. -/
def decodeLossy (bytes : List UInt8) : String :=
  String.ofList (lossyFrom (bytes.length + 1) bytes)

/-- The bytes of a text. -/
def encodeUtf8 (s : String) : List UInt8 :=
  s.toUTF8.toList

end ChatRelay.Text
