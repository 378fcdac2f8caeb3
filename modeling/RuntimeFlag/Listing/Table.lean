import RuntimeFlag.Directory
import RuntimeFlag.Text.Lines
import RuntimeFlag.Text.Width
/-!
# Listings as tables

A table with rounded borders: the header, a line below it, and the rows. A cell takes as many lines
as its text has, a column is as wide as its widest line, and a table without rows has no border at
the bottom.
-/
namespace RuntimeFlag.Listing

def header : List String := ["NAME", "SPACE", "ORG"]

def cells (row : Row) : List String := [row.name, row.space, row.organization]

/-- The greatest display width of the lines of a cell. -/
def cellWidth (cell : String) : Nat :=
  ((Text.splitAtFeeds cell).map Text.lineWidth).foldl max 0

/-- The width of each column, from the rows of cells below it. -/
def columnWidths (rows : List (List String)) : List Nat :=
  rows.foldl (fun widths row => List.zipWith max widths (row.map cellWidth)) (header.map fun _ => 0)

/-- A border: its left end, what stands between two columns, and its right end. -/
structure Border where
  left : String
  middle : String
  right : String

def topBorder : Border := ⟨"╭", "┬", "╮"⟩

def headerBorder : Border := ⟨"├", "┼", "┤"⟩

def bottomBorder : Border := ⟨"╰", "┴", "╯"⟩

/-- A line of dashes, two more in each column than the column is wide. -/
def Border.line (border : Border) (widths : List Nat) : String :=
  let dashes := widths.map fun width => String.ofList (List.replicate (width + 2) '─')
  border.left ++ border.middle.intercalate dashes ++ border.right

/-- A line of a cell, with a space on both sides and filled up to the width of its column. -/
def padded (width : Nat) (line : String) : String :=
  " " ++ line ++ String.ofList (List.replicate (width - Text.lineWidth line) ' ') ++ " "

/-- A line of text across the columns. -/
def textLine (widths : List Nat) (parts : List String) : String :=
  "│" ++ "│".intercalate (List.zipWith padded widths parts) ++ "│"

/-- The lines of a row of cells, as many as its tallest cell has. -/
def rowLines (widths : List Nat) (row : List String) : List String :=
  let columns := row.map Text.splitAtFeeds
  let height := (columns.map List.length).foldl max 0
  (List.range height).map fun i => textLine widths (columns.map fun lines => lines.getD i "")

def tableLines (rows : List Row) : List String :=
  let body := rows.map cells
  let widths := columnWidths (header :: body)
  topBorder.line widths :: rowLines widths header ++ headerBorder.line widths ::
    body.flatMap (rowLines widths) ++ if rows.isEmpty then [] else [bottomBorder.line widths]

def table (rows : List Row) : String :=
  "\n".intercalate (tableLines rows)

end RuntimeFlag.Listing
