import ChatRelay.Text.Hex
import ChatRelay.Text.Search

/-!
# Unique identifiers

An identifier is a number of 128 bits. It is written as five groups of
hexadecimal digits, and read from that form, from the digits alone, from the
form in braces and from the form with `urn:uuid:` in front.
-/

namespace ChatRelay

/-- An identifier. -/
structure Uuid where
  bits : BitVec 128
  deriving DecidableEq, Repr

/-- Why a text is not an identifier. -/
inductive UuidFault where
  /-- This character, so many bytes from the start, is neither a digit nor a hyphen. -/
  | character (c : Char) (index : Nat)
  /-- Digits alone, but so many of them. -/
  | length (found : Nat)
  | groupCount (found : Nat)
  | groupLength (group expected found : Nat)
  deriving DecidableEq, Repr

namespace Uuid

open Text

def ofNat (n : Nat) : Uuid := ⟨BitVec.ofNat 128 n⟩

/-- The lengths of the groups. -/
def groupLengths : List Nat := [8, 4, 4, 4, 12]

/-- Five groups of digits with hyphens between them. -/
def chars (u : Uuid) : List Char :=
  let ds := hexDigits 32 u.bits.toNat
  ds.take 8 ++ '-' :: (ds.drop 8).take 4 ++ '-' :: (ds.drop 12).take 4 ++
    '-' :: (ds.drop 16).take 4 ++ '-' :: ds.drop 20

/-- Five groups of digits with hyphens between them. -/
def text (u : Uuid) : String :=
  String.ofList u.chars

/-- The identifier written as groups of the right lengths. -/
def ofGroups? (cs : List Char) : Option Uuid :=
  let groups := splitOnChar '-' cs
  if groups.map List.length = groupLengths then (hexNumber? groups.flatten).map ofNat else none

/-- What stands in front of the groups as a name in the space of resource names. -/
def resourceName : List Char := "urn:uuid:".toList

/-- The text inside braces or behind `urn:uuid:` in letters of either case, and the number of
characters in front of it. -/
def unwrap (cs : List Char) : Option (List Char × Nat) :=
  match cs with
  | '\x7b' :: rest =>
    if rest.getLast? = some '\x7d' then some (rest.dropLast, 1) else none
  | _ =>
    if (cs.take resourceName.length).map Char.toLower = resourceName then
      some (cs.drop resourceName.length, resourceName.length)
    else none

/-- The identifier in one of its forms. -/
def ofChars? (cs : List Char) : Option Uuid :=
  if cs.length = 32 then (hexNumber? cs).map ofNat
  else
    match unwrap cs with
    | some (inner, _) => ofGroups? inner
    | none => ofGroups? cs

/-- The first character that is neither a digit nor a hyphen, when `index` bytes stand in front of
the text. -/
def strayCharacter? (index : Nat) : List Char → Option UuidFault
  | [] => none
  | c :: cs =>
    if c = '-' ∨ (hexValue? c).isSome then strayCharacter? (index + c.utf8Size) cs
    else some (.character c index)

/-- The first group whose length is not the expected one. The last group is taken to go on to the
end of the whole text of `total` bytes. -/
def wrongGroup (total : Nat) (groups : List (List Char)) : UuidFault :=
  let wrong := (groups.zip groupLengths).zipIdx.find? fun ((group, expected), i) =>
    i < 4 && group.length != expected
  match wrong with
  | some ((group, expected), i) => .groupLength i expected group.length
  | none => .groupLength 4 12 (total - 24)

/-- What is wrong with a text that is not an identifier. -/
def faultOf (cs : List Char) : UuidFault :=
  let (inner, offset, wrapped) := match unwrap cs with
    | some (inner, offset) => (inner, offset, true)
    | none => (cs, 0, false)
  match strayCharacter? offset inner with
  | some fault => fault
  | none =>
    let groups := splitOnChar '-' inner
    if groups.length = 1 ∧ !wrapped then .length cs.length
    else if groups.length ≠ 5 then .groupCount groups.length
    else wrongGroup cs.length groups

/-- The identifier in one of its forms. -/
def ofText (s : String) : Except UuidFault Uuid :=
  match ofChars? s.toList with
  | some u => .ok u
  | none => .error (faultOf s.toList)

end Uuid

/-- What is wrong with the text, for a person. -/
def UuidFault.message : UuidFault → String
  | .character c i => s!"invalid character: found \x60{c}\x60 at {i}"
  | .length n => s!"invalid length: found {n}"
  | .groupCount n => s!"invalid group count: expected 5, found {n}"
  | .groupLength g e n => s!"invalid group length in group {g}: expected {e}, found {n}"

end ChatRelay
