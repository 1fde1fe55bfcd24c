import Spreadsheet.Sheet.Fault

/-!
Sheets.

A sheet is a grid of cells. Each cell has the formula that was written into it,
the value that the formula is worth, and the list of its users: the cells whose
formulas mention it. Names that are not cells may be bound by built-ins, which a
sheet is made with and keeps.

* `Template` collects built-ins and makes sheets that are filled with one
  expression;
* `Sheet.targets` are the cells of the sheet that an expression mentions, under
  any spelling of their names;
* `Sheet.clear` fills a sheet anew;
* `Sheet.formulaText` and `Sheet.valueText` are what is written for a cell, and
  `Sheet.formulaView` and `Sheet.valueView` the same with the colours to show it in.
-/

namespace Spreadsheet

/-- A sheet of cells. -/
structure Sheet where
  /-- The number of rows. -/
  rows : Nat
  /-- The number of columns. -/
  columns : Nat
  /-- What a cell holds before anything is written into it. -/
  blank : Expr
  /-- What names other than those of cells stand for. -/
  builtins : SymbolTable
  /-- The expression written into each cell. -/
  formulas : CellMap Expr
  /-- The expression that each cell is worth. -/
  values : CellMap Expr
  /-- For each cell, the cells whose formulas mention it. -/
  users : CellMap (List Location)

/-- What sheets are made from. -/
structure Template where
  /-- What names other than those of cells stand for. -/
  builtins : SymbolTable
  /-- What every cell of a new sheet holds. -/
  blank : Expr

namespace Sheet

/-- Whether a cell lies on the sheet. -/
def contains (s : Sheet) (cell : Location) : Bool :=
  decide (cell.row < s.rows) && decide (cell.column < s.columns)

/-- The cells of the sheet, row by row. -/
def cells (s : Sheet) : List Location :=
  gridCells s.rows s.columns

/-- The cells of the grid are those that the sheet contains. -/
theorem mem_cells {s : Sheet} {cell : Location} : cell ∈ s.cells ↔ s.contains cell = true := by
  simp [cells, contains, mem_gridCells]

/-- The formula of a cell. -/
def formula? (s : Sheet) (cell : Location) : Option Expr :=
  s.formulas[cell]?

/-- The value of a cell. -/
def value? (s : Sheet) (cell : Location) : Option Expr :=
  s.values[cell]?

/-- The cells that use a cell directly. -/
def usersOf (s : Sheet) (cell : Location) : List Location :=
  s.users[cell]?.getD []

/-- Puts the blank expression into the given cells and takes away their users. -/
def fill (s : Sheet) (cells : List Location) : Sheet :=
  { s with
    formulas := s.formulas.fill cells s.blank
    values := s.values.fill cells s.blank
    users := s.users.fill cells [] }

/-- Empties every cell. Built-ins stay. -/
def clear (s : Sheet) : Sheet :=
  s.fill s.cells

/-- Whether a sheet can have so many rows and columns. Rows are numbered by words
of 64 bits, and columns by letters. -/
def validSize (rows columns : Nat) : Bool :=
  decide (rows < Text.wordLimit) && decide (columns ≤ maxColumns)

/-- The cells of the sheet that an expression mentions, in the order of the names
that spell them. -/
def targets (s : Sheet) (e : Expr) : List Location :=
  (e.dependencies.filterMap Location.ofName?).filter s.contains

/-! ### What is shown of a cell -/

/-- What is written for the formula of a cell; nothing outside the sheet. -/
def formulaText (s : Sheet) (cell : Location) : String :=
  ((s.formula? cell).map Expr.render).getD ""

/-- What is written for the value of a cell; nothing outside the sheet. -/
def valueText (s : Sheet) (cell : Location) : String :=
  ((s.value? cell).map Expr.render).getD ""

/-- A text, and the colours to show it in. -/
structure View where
  content : String
  background : String
  foreground : String

/-- Every text is shown in black on white. -/
def View.plain (content : String) : View :=
  ⟨content, "white", "black"⟩

/-- How the formula of a cell is shown. -/
def formulaView (s : Sheet) (cell : Location) : View :=
  .plain (s.formulaText cell)

/-- How the value of a cell is shown. -/
def valueView (s : Sheet) (cell : Location) : View :=
  .plain (s.valueText cell)

end Sheet

namespace Template

/-- A template without built-ins. -/
def new (blank : Expr) : Template :=
  ⟨∅, blank⟩

/-- Binds a name in sheets that are made from now on. -/
def bind (t : Template) (name : String) (e : Expr) : Template :=
  { t with builtins := t.builtins.insert name e }

/-- A new sheet of at least one cell, each cell holding the template's blank. -/
def make (t : Template) (rows columns : Nat) : Except SheetFault Sheet :=
  if rows = 0 || columns = 0 || !Sheet.validSize rows columns then
    .error (.dimensions rows columns)
  else
    .ok (Sheet.clear
      { rows, columns, blank := t.blank, builtins := t.builtins,
        formulas := ∅, values := ∅, users := ∅ })

end Template

end Spreadsheet
