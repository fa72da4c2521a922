import SheetCompiler.Text.Basic

/-!
# Sheets

The grid of one source table. Row 0 holds the header cells, row 1 the declared
types, row 2 the descriptions, row 3 the default values, and the data starts at
row 4.
-/

set_option autoImplicit false

namespace SheetCompiler

structure Sheet where
  name : String
  rows : List (List String)
  deriving DecidableEq, Repr

namespace Sheet

/-- The number of rows above the data. -/
def headerRows : Nat := 4

/-- Fills a row up to a width with empty cells. -/
def padRow (width : Nat) (row : List String) : List String :=
  row ++ List.replicate (width - row.length) ""

/-- A rectangular sheet: short rows are filled up to the widest one. -/
def padded (name : String) (rows : List (List String)) : Sheet :=
  let width := (rows.map List.length).foldl max 0
  ⟨name, rows.map (padRow width)⟩

def rowCount (sheet : Sheet) : Nat := sheet.rows.length

/-- The width of the first row. -/
def columnCount (sheet : Sheet) : Nat := (sheet.rows.head?.map List.length).getD 0

def hasHeader (sheet : Sheet) : Bool := headerRows ≤ sheet.rowCount

/-- The text of a cell; outside the grid it is empty. -/
def cell (sheet : Sheet) (row column : Nat) : String :=
  ((sheet.rows[row]?).bind fun cells => cells[column]?).getD ""

/-- Replaces the text of a cell inside the grid. -/
def setCell (sheet : Sheet) (row column : Nat) (text : String) : Sheet :=
  { sheet with rows := sheet.rows.modify row fun cells => cells.set column text }

def row (sheet : Sheet) (index : Nat) : List String := (sheet.rows[index]?).getD []

/-- The data rows with their absolute indices. -/
def dataRows (sheet : Sheet) : List (Nat × List String) :=
  (sheet.rows.drop headerRows).mapIdx fun index row => (headerRows + index, row)

def dataRowCount (sheet : Sheet) : Nat := sheet.rowCount - headerRows

/-- The texts of a column in the data rows, with their absolute row indices. -/
def columnTexts (sheet : Sheet) (column : Nat) : List (Nat × String) :=
  sheet.dataRows.map fun (index, row) => (index, (row[column]?).getD "")

/-- Trims every cell. -/
def trimCells (sheet : Sheet) : Sheet :=
  { sheet with rows := sheet.rows.map fun row => row.map Text.trimmed }

/-- The number of cells that trimming changes. -/
def untrimmedCount (sheet : Sheet) : Nat :=
  sheet.rows.flatten.countP fun cell => Text.trimmed cell != cell

def isBlankRow (row : List String) : Bool := row.all Text.isBlankText

/-- Removes the data rows whose cells are all blank. -/
def dropBlankRows (sheet : Sheet) : Sheet :=
  { sheet with
    rows := sheet.rows.take headerRows ++
      (sheet.rows.drop headerRows).filter fun row => !isBlankRow row }

end Sheet

end SheetCompiler
