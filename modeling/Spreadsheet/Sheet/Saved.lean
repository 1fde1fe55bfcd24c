import Spreadsheet.Sheet.Resize
import Spreadsheet.Text.Lines

/-!
Saved sheets.

The first line of the text is `rows|columns`. Each further line is a row: the
formulas of its cells with `|` between them, empty cells being empty fields. There
is no way to write a `|` or a line end inside a formula, and none is needed.

* `Sheet.encode` writes a sheet, without a line end after the last row;
  `Sheet.saved` ends the last row too;
* `Saved.size` reads the first line, `Saved.cells` all cells that are not empty,
  row by row;
* `Sheet.load` empties a sheet, grows it to the size of the saved one if that is
  larger, and writes the cells. A formula may need cells that come later in the
  text, so cells that cannot be written yet are tried again after the others, as
  long as a round writes at least one.
-/

namespace Spreadsheet

/-! ### Writing -/

namespace Sheet

/-- The lines of a saved sheet. -/
def savedLines (s : Sheet) : List (List Char) :=
  (Text.naturalText s.rows ++ '|' :: Text.naturalText s.columns) ::
    (List.range s.rows).map fun row =>
      ['|'].intercalate ((List.range s.columns).map fun column =>
        (s.formulaText ⟨row, column⟩).toList)

/-- The size of the sheet and the formulas of its cells. -/
def encode (s : Sheet) : String :=
  String.ofList (['\n'].intercalate s.savedLines)

/-- The content of the file that a sheet is saved in. -/
def saved (s : Sheet) : String :=
  s.encode ++ "\n"

end Sheet

/-! ### Reading -/

namespace Saved

/-- The first line of a text, without the blanks around it. -/
def header (text : List Char) : List Char :=
  match Text.lines text with
  | [] => []
  | first :: _ => Text.trim first

/-- The numbers of rows and columns that a header gives. -/
def readHeader? (header : List Char) : Option (Nat × Nat) :=
  match Text.cutAt '|' header with
  | none => none
  | some (rows, columns) =>
      match Text.readUnsigned (Text.trim rows), Text.readUnsigned (Text.trim columns) with
      | .ok rows, .ok columns => some (rows, columns)
      | _, _ => none

/-- The declared numbers of rows and columns. -/
def size (text : String) : Except SheetFault (Nat × Nat) :=
  let header := header text.toList
  match readHeader? header with
  | some size => .ok size
  | none => .error (.format 1 (.header (String.ofList header)))

/-- The cells of a row that are not empty, with the text of their formulas. Rows
count from zero, lines from one, and the header is a line, so row `row` is line
`row + 2`. -/
def rowCells (rows columns : Nat) (line : List Char) (row : Nat) :
    Except SheetFault (List (Location × String)) :=
  let fields := line.splitOn '|'
  if rows ≤ row then
    if (Text.trim line).isEmpty then .ok [] else .error (.format (row + 2) (.extraRow rows))
  else if columns < fields.length then
    .error (.format (row + 2) (.wideRow fields.length columns))
  else
    .ok (fields.zipIdx.filterMap fun (field, column) =>
      let field := Text.trim field
      if field.isEmpty then none else some (⟨row, column⟩, String.ofList field))

/-- All cells that are not empty, row by row, with the text of their formulas. -/
def cells (text : String) : Except SheetFault (List (Location × String)) := do
  let (rows, columns) ← size text
  let found ← (Text.lines text.toList).tail.zipIdx.mapM fun (line, row) =>
    rowCells rows columns line row
  return found.flatten

end Saved

/-! ### Loading -/

namespace Sheet

/-- Writes the cells that can be written, one after the other, and lists the
others with what went wrong. -/
def writeRound (s : Sheet) :
    List (Location × String) → Sheet × List ((Location × String) × SheetFault)
  | [] => (s, [])
  | entry :: rest =>
      match s.write entry.1 entry.2 with
      | .ok s => s.writeRound rest
      | .error fault =>
          let (s, failed) := s.writeRound rest
          (s, (entry, fault) :: failed)

/-- Writes all cells, in as many rounds as it takes. A round that writes nothing
ends the attempt, and the first cell of the round is blamed. -/
def writeAll (s : Sheet) (pending : List (Location × String)) : Except SheetFault Sheet :=
  match s.writeRound pending with
  | (s, []) => .ok s
  | (s, (entry, fault) :: rest) =>
      if rest.length + 1 < pending.length then
        s.writeAll (entry :: rest.map Prod.fst)
      else .error (.update entry.1 fault)
termination_by pending.length
decreasing_by simpa using ‹_›

/-- Replaces the contents of a sheet by those of a saved one. The number of
cells that were written comes with the new sheet. -/
def load (s : Sheet) (text : String) : Except SheetFault (Sheet × Nat) := do
  let (rows, columns) ← Saved.size text
  let cells ← Saved.cells text
  let grown ← s.clear.resize (max rows s.rows) (max columns s.columns)
  let loaded ← grown.writeAll cells
  return (loaded, cells.length)

/-! ### Files -/

/-- Saves a sheet in a file. -/
def saveTo (s : Sheet) (path : String) : FileRequest (Except SheetFault Unit) :=
  .write path s.saved fun
    | .ok () => .ok ()
    | .error fault => .error (.file fault)

/-- Loads a saved sheet from a file. -/
def loadFrom (s : Sheet) (path : String) : FileRequest (Except SheetFault (Sheet × Nat)) :=
  .read path fun
    | .ok text => s.load text
    | .error fault => .error (.file fault)

end Sheet

end Spreadsheet
