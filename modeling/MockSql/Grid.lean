/-
# Rows as a grid of text

Rows are shown under a header and a rule, one line each, every column as wide as its widest cell.
Widths count characters. A column that is listed twice is shown twice.
-/

import MockSql.Table

namespace MockSql.Grid

/-- The columns to show: the listed ones, or those of the first row if none are listed. -/
def shownColumns (rows : List Row) (columns : List String) : List String :=
  match columns, rows with
  | [], row :: _ => row.keys
  | _, _ => columns

/-- What the rows show in one column. -/
def cellTexts (rows : List Row) (column : String) : Except Fault (List String) :=
  rows.mapM fun row => (row.cell column).cellText

/-- The greatest length among a header and its cells. -/
def width (header : String) (cells : List String) : Nat :=
  cells.foldl (fun widest cell => max widest cell.length) header.length

/-- A text filled up with spaces to a width. -/
def pad (width : Nat) (cell : String) : String :=
  cell ++ String.ofList (List.replicate (width - cell.length) ' ')

/-- One line: the cells at their widths with a divider between them. -/
def line (widths : List Nat) (cells : List String) : String :=
  " | ".intercalate (List.zipWith pad widths cells)

/-- The rule under the header. -/
def rule (widths : List Nat) : String :=
  "-+-".intercalate (widths.map fun width => String.ofList (List.replicate width '-'))

/-- The cells of every row, in the order of the columns. -/
def cellRows (rows : List Row) (columns : List String) : Except Fault (List (List String)) :=
  rows.mapM fun row => columns.mapM fun column => (row.cell column).cellText

/-- What is shown when there are no rows. -/
def noRows : String := "(no rows)"

/-- The grid of some rows. It fails on an integer that cannot be written. -/
def render (rows : List Row) (listed : List String) : Except Fault String :=
  if rows.isEmpty then .ok noRows
  else do
    let columns := shownColumns rows listed
    let widths ← columns.mapM fun column => do .ok (width column (← cellTexts rows column))
    let body ← cellRows rows columns
    .ok ("\n".intercalate (line widths columns :: rule widths :: body.map (line widths)))

end MockSql.Grid
