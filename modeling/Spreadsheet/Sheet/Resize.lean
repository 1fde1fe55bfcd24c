import Spreadsheet.Sheet.Update

/-!
Growing a sheet.

A sheet never shrinks. Formulas may mention cells beyond the edges of the sheet;
when such a cell comes to lie on the sheet, the formula becomes one of its users,
and the values that depend on it are found anew. The names of new cells hide
built-ins from then on.
-/

namespace Spreadsheet.Sheet

/-- The cells that growing to the given size adds. -/
def addedCells (s : Sheet) (rows columns : Nat) : List Location :=
  (gridCells rows columns).filter fun cell => !s.contains cell

/-- The sheet with the given size, new cells being blank and without users. -/
def extend (s : Sheet) (rows columns : Nat) : Sheet :=
  { s with rows, columns }.fill (s.addedCells rows columns)

/-- The edges from new cells of `grown` to the formulas of `s` that mention
them. -/
def newEdges (s grown : Sheet) : List (Location × Location) :=
  s.formulas.toList.flatMap fun entry =>
    (grown.edges entry.1 entry.2).filter fun edge => !s.contains edge.1

/-- Grows the sheet to the given size. -/
def resize (s : Sheet) (rows columns : Nat) : Except SheetFault Sheet :=
  if rows < s.rows || columns < s.columns || !validSize rows columns then
    .error (.dimensions rows columns)
  else
    let extended := s.extend rows columns
    let edges := s.newEdges extended
    let linked := { extended with users := edges.foldl addUser extended.users }
    if edges.isEmpty then .ok linked
    else
      match linked.stageDependents (edges.map Prod.fst) ⟨linked.symbols, []⟩ with
      | .ok staging => .ok { linked with values := linked.values.store staging.values }
      | .error fault => .error (.evaluation fault)

end Spreadsheet.Sheet
