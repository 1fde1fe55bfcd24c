import Spreadsheet.Expr.Evaluation
import Spreadsheet.FileAccess
import Spreadsheet.Formula

/-!
What can go wrong with a sheet, and how it is worded.

`SheetFault.message` is the wording of a fault by itself. A fault that only passes
another one on is followed by the wording of that one, wherever the whole chain of
causes is shown (`SheetFault.causes`).
-/

namespace Spreadsheet

/-- Why a text is no saved sheet. -/
inductive FormatFault where
  /-- The first line does not give the numbers of rows and columns. -/
  | header (found : String)
  /-- A line with cells follows the last declared row. -/
  | extraRow (rows : Nat)
  /-- A row has more cells than there are columns. -/
  | wideRow (cells columns : Nat)
  deriving DecidableEq

/-- The wording of a fault. -/
def FormatFault.message : FormatFault → String
  | .header found => s!"Expected 'ROWS|COLUMNS' header, found '{found}'"
  | .extraRow rows => s!"More rows than the {rows} declared"
  | .wideRow cells columns => s!"Row has {cells} cells but only {columns} columns are declared"

/-- What can go wrong with a sheet. -/
inductive SheetFault where
  /-- A file could not be read or written. -/
  | file (fault : FileFault)
  /-- A line of a text is not that of a saved sheet; lines count from one. -/
  | format (line : Nat) (fault : FormatFault)
  /-- A text is no formula. -/
  | formula (fault : Formula.Fault)
  /-- A formula has no worth. -/
  | evaluation (fault : EvalFault)
  /-- A cell would depend on itself through a cell that its formula mentions. -/
  | circular (cell via : Location)
  /-- A cell is not on the sheet. -/
  | outside (cell : Location)
  /-- No sheet has so many rows and columns, or the sheet cannot take that size. -/
  | dimensions (rows columns : Nat)
  /-- A cell could not be written in the course of something larger. -/
  | update (cell : Location) (cause : SheetFault)
  deriving DecidableEq

namespace SheetFault

/-- The wording of a fault. -/
def message : SheetFault → String
  | .file fault => s!"IO error: {fault.message}"
  | .format line fault => s!"Parse error at line {line}: {fault.message}"
  | .formula fault => fault.message
  | .evaluation fault => s!"Type error: {fault.message}"
  | .circular cell via =>
      s!"Circular reference: {cell.name} would depend on itself through {via.name}"
  | .outside cell => s!"Cell {cell.name} is outside the sheet"
  | .dimensions rows columns => s!"Invalid dimensions {rows}x{columns}"
  | .update cell cause => s!"Unable to update {cell.name}: {cause.message}"

/-- The wording of a fault, then that of the fault it passes on, if any. -/
def causes : SheetFault → List String
  | .file fault => [message (.file fault), fault.message]
  | .evaluation fault => [message (.evaluation fault), fault.message]
  | fault => [fault.message]

end SheetFault

end Spreadsheet
