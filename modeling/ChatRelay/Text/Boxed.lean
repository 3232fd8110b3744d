import ChatRelay.Text.Search
import ChatRelay.Text.Width

/-!
# Tables in boxes

`boxed` draws a table with a line around it and a double line below its header.
A column is as wide as its widest cell, with a blank on both sides. A cell whose
text has several lines makes its row as high as that.
-/

namespace ChatRelay.Text

/-- The lines of a text, of which there is at least one. -/
def lines (s : String) : List String :=
  (splitOnChar '\n' s.toList).map String.ofList

/-- A text with blanks behind it that fill so many columns. -/
def padRight (columns : Nat) (s : String) : String :=
  s ++ String.ofList (List.replicate (columns - width s) ' ')

/-- How wide a cell is. -/
def cellWidth (s : String) : Nat :=
  ((lines s).map width).foldl max 0

/-- How wide each of so many columns is. -/
def columnWidths (columns : Nat) (rows : List (List String)) : List Nat :=
  (List.range columns).map fun i => (rows.map fun row => cellWidth (row.getD i "")).foldl max 0

/-- A line that is drawn with these characters: the left end, the line itself, the crossings and the
right end. -/
def ruleLine (left line crossing right : String) (widths : List Nat) : String :=
  left ++
    crossing.intercalate (widths.map fun n => String.join (List.replicate (n + 2) line)) ++ right

/-- The lines of a row. -/
def rowLines (widths : List Nat) (row : List String) : List String :=
  let cells := row.map lines
  let height := (cells.map List.length).foldl max 0
  (List.range height).map fun i =>
    "│" ++
      "┆".intercalate
        (List.zipWith (fun n cell => " " ++ padRight n (cell.getD i "") ++ " ") widths cells) ++
      "│"

/-- The lines of a table. Every row has as many cells as the header. -/
def boxed (header : List String) (rows : List (List String)) : List String :=
  let widths := columnWidths header.length (header :: rows)
  [ruleLine "┌" "─" "┬" "┐" widths] ++ rowLines widths header ++
    [ruleLine "╞" "═" "╪" "╡" widths] ++ rows.flatMap (rowLines widths) ++
    [ruleLine "└" "─" "┴" "┘" widths]

end ChatRelay.Text
