import ChatRelay.Text.Hex
import ChatRelay.Text.Search
import ChatRelay.Text.Utf8

/-!
# Addresses

`Url.ofText?` reads an address of the schemes `http` and `https` and brings it
into its normal form: the host in small letters and without the usual port, the
path without dots, and every character that an address does not hold written by
the numbers of its bytes.
-/

namespace ChatRelay.Http

/-- An address in its normal form. -/
structure Url where
  scheme : String
  /-- The host, with its port unless that is the usual one. -/
  authority : String
  path : String
  query : Option String := none
  fragment : Option String := none
  deriving DecidableEq, Repr

namespace Url

/-- A byte as a percent sign and two digits. -/
def percent (b : UInt8) : List Char :=
  let digit (n : Nat) := (Text.hexDigit n).toUpper
  ['%', digit (b.toNat / 16), digit (b.toNat % 16)]

/-- Writes by their bytes the characters that are not plain or are among `special`. -/
def encode (special : List Char) (cs : List Char) : List Char :=
  cs.flatMap fun c =>
    if c.toNat ≤ 0x20 || 0x7F ≤ c.toNat || special.contains c then
      (Text.encodeUtf8 (String.singleton c)).flatMap percent
    else [c]

def pathSpecial : List Char := ['"', '#', '<', '>', '?', '\x60', '\x7b', '\x7d']
def querySpecial : List Char := ['"', '#', '<', '>', '\'']
def fragmentSpecial : List Char := ['"', '<', '>', '\x60']

/-- The segment that stands for the place where it is. -/
def isDot (segment : String) : Bool :=
  [".", "%2e"].contains segment.toLower

/-- The segment that stands for one place further up. -/
def isDoubleDot (segment : String) : Bool :=
  ["..", ".%2e", "%2e.", "%2e%2e"].contains segment.toLower

/-- The segments of a path when these come behind `before`. -/
def resolveDots (before : List String) : List String → List String
  | [] => before
  | [s] =>
    if isDoubleDot s then before.dropLast ++ [""]
    else if isDot s then before ++ [""]
    else before ++ [s]
  | s :: rest =>
    if isDoubleDot s then resolveDots before.dropLast rest
    else if isDot s then resolveDots before rest
    else resolveDots (before ++ [s]) rest

def isSlash (c : Char) : Bool := c == '/' || c == '\\'

/-- A path in its normal form. -/
def normalPath (cs : List Char) : String :=
  let slashed := cs.map fun c => if isSlash c then '/' else c
  let segments := (Text.splitOnChar '/' (slashed.drop 1)).map fun s =>
    String.ofList (encode pathSpecial s)
  String.join ((resolveDots [] segments).map ("/" ++ ·))

/-- A host and a port, without the port that is usual for the scheme. -/
def normalAuthority (scheme : String) (cs : List Char) : String :=
  let text := String.ofList (cs.map Char.toLower)
  let usual := if scheme = "https" then ":443" else ":80"
  if text.endsWith usual then String.ofList (text.toList.take (text.length - usual.length)) else text

/-- Cuts a text before the first of some characters. -/
def cut (ends : List Char) (cs : List Char) : List Char × List Char :=
  (cs.takeWhile fun c => !ends.contains c, cs.dropWhile fun c => !ends.contains c)

/-- The address that a text stands for. -/
def ofText? (text : String) : Option Url :=
  let cs := text.toList.filter fun c => c != '\t' && c != '\n' && c != '\r'
  let read (scheme : String) (rest : List Char) : Option Url :=
    let (authority, rest) := cut ['/', '\\', '?', '#'] (rest.dropWhile isSlash)
    let (path, rest) := cut ['?', '#'] rest
    let (query, rest) := match rest with
      | '?' :: rest =>
        let (query, rest) := cut ['#'] rest
        (some (String.ofList (encode querySpecial query)), rest)
      | rest => (none, rest)
    if authority.isEmpty then none
    else some
      { scheme, authority := normalAuthority scheme authority, path := normalPath path, query
        fragment := match rest with
          | '#' :: rest => some (String.ofList (encode fragmentSpecial rest))
          | _ => none }
  match Text.stripStart? "https:".toList cs, Text.stripStart? "http:".toList cs with
  | some rest, _ => read "https" rest
  | none, some rest => read "http" rest
  | none, none => none

/-- What is asked for at the host. -/
def target (u : Url) : String :=
  u.path ++ ((u.query.map ("?" ++ ·)).getD "")

/-- The address as text. -/
def text (u : Url) : String :=
  u.scheme ++ "://" ++ u.authority ++ u.target ++ ((u.fragment.map ("#" ++ ·)).getD "")

end Url

end ChatRelay.Http
