import ChatRelay.Text.WhiteSpace

/-!
# Titles for display

A title that was asked for separately comes with quotes, blanks and any length.
`normalizeTitle` cleans it up; what is left of it is never empty, because the
placeholder stands in for an empty one.
-/

namespace ChatRelay.Title

/-- The title of a conversation until a better one is known. -/
def placeholder : String := "New Conversation"

/-- The number of characters after which a title is cut. -/
def maxLength : Nat := 50

/-- What marks a title that was cut. -/
def ellipsis : String := "..."

/-- A quotation mark that a title may be wrapped in. -/
def isQuote (c : Char) : Bool :=
  c == '"' || c == '\''

/-- The text without quotation marks at either end. -/
def trimQuotes (cs : List Char) : List Char :=
  ((cs.dropWhile isQuote).reverse.dropWhile isQuote).reverse

/-- Takes off blanks, then quotation marks, then blanks once more; cuts a title of more than
`maxLength` characters; and puts the placeholder where nothing is left. -/
def normalizeTitle (raw : String) : String :=
  let title := Text.trim (trimQuotes (Text.trim raw.toList))
  if title.isEmpty then placeholder
  else if title.length ≤ maxLength then String.ofList title
  else String.ofList (Text.trimEnd (title.take maxLength)) ++ ellipsis

end ChatRelay.Title
