import SheetCompiler.Text.Basic

/-!
# Text tables

Rows of cells set in columns. A column is as wide as its widest cell and at
least three characters wide; columns are two blanks apart, and lines have no
blanks at their end.
-/

set_option autoImplicit false

namespace SheetCompiler.Text.Columns

/-- A cell on one line: line breaks and tabs become blanks. -/
def singleLine (cell : String) : String :=
  String.ofList (cell.toList.map fun c => if c == '\n' || c == '\r' || c == '\t' then ' ' else c)

/-- The width of each column; cells beyond the header do not count. -/
def widths (header : List String) (rows : List (List String)) : List Nat :=
  let start := header.map fun cell => max cell.length 3
  rows.foldl (fun widths row =>
    widths.mapIdx fun index width => max width ((row[index]?.map String.length).getD 0)) start

/-- Sets cells to the widths of their columns. -/
def line (widths : List Nat) (cells : List String) : String :=
  let padded := (cells.zip widths).map fun (cell, width) => padEnd width cell
  String.ofList (trimEnd (joined "  " padded).toList)

/-- The table with its header, a rule and its rows, each line ended. -/
def render (header : List String) (rows : List (List String)) : String :=
  let widths := widths header rows
  let rule := widths.map fun width => String.ofList (List.replicate width '-')
  let lines := line widths header :: line widths rule ::
    rows.map fun row => line widths (row.map singleLine)
  String.join (lines.map fun line => line ++ "\n")

end SheetCompiler.Text.Columns
