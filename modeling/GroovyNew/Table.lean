/-
# Tables for a terminal

A table is a header and rows of cells.  Each cell is padded on the right to the width of its column,
with a blank on both sides; a bar separates columns and a line of dashes the header from the rows.
Nothing is drawn around the table.

     Call | Class
    ------+-------
     1    | a.B

A cell may hold several lines; its row is as high as its highest cell.
-/

import GroovyNew.Text.Columns

namespace GroovyNew

/-- A header and rows of cells. -/
structure Table where
  header : List String
  rows : List (List String)

namespace Table

/-- The lines of a cell. -/
def linesOf (cell : String) : List String := cell.splitOn "\n"

/-- The width of a cell: that of its widest line. -/
def cellWidth (cell : String) : Nat :=
  (linesOf cell).foldl (fun n line => max n (Text.columns line)) 0

/-- The column-wise maximum of two lists of widths. -/
def maxWidths : List Nat → List Nat → List Nat
  | m :: ms, n :: ns => max m n :: maxWidths ms ns
  | [], ns => ns
  | ms, [] => ms

/-- The widths of the columns. -/
def widths (t : Table) : List Nat :=
  (t.header :: t.rows).foldl (fun ws row => maxWidths ws (row.map cellWidth)) []

/-- `n` times the character `c`. -/
def replicate (n : Nat) (c : Char) : String := String.ofList (List.replicate n c)

/-- A text filled up to a width, with a blank on both sides. -/
def pad (width : Nat) (s : String) : String :=
  " " ++ s ++ replicate (width - Text.columns s) ' ' ++ " "

/-- The given line of each cell of a row. -/
def rowLine (widths : List Nat) (cells : List String) (line : Nat) : String :=
  String.intercalate "|"
    ((cells.zip widths).map fun (cell, width) => pad width ((linesOf cell)[line]?.getD ""))

/-- The lines of a row. -/
def rowLines (widths : List Nat) (cells : List String) : List String :=
  let height := cells.foldl (fun n cell => max n (linesOf cell).length) 1
  (List.range height).map (rowLine widths cells)

/-- The line under the header. -/
def rule (widths : List Nat) : String :=
  String.intercalate "+" (widths.map fun width => replicate (width + 2) '-')

/-- The text of a table, without a line break at its end. -/
def toText (t : Table) : String :=
  let ws := t.widths
  String.intercalate "\n"
    (rowLines ws t.header ++ rule ws :: t.rows.flatMap (rowLines ws))

end Table
end GroovyNew
