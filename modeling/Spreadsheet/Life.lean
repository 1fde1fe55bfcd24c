import Spreadsheet.Sheet.Update

/-!
The game of life, played on a sheet.

A cell lives if its value is written `1`. In the next generation a cell lives if
three of the cells around it live, or if it lives itself and two of them do. The
sheet does not wrap at its edges.

The cells that die are emptied first, then `1` is written into those that are
born; cells that stay as they are keep their formulas. Every write is a full
update of the sheet, which may fail, and then the writes before it remain
(`Life.advance`).
-/

namespace Spreadsheet.Life

/-- Whether a cell lives. -/
def isLive (s : Sheet) (cell : Location) : Bool :=
  s.valueText cell == "1"

/-- The numbers below `limit` that differ from `n` by at most one. -/
def around (limit n : Nat) : List Nat :=
  List.range' (n - 1) (min (n + 1) (limit - 1) + 1 - (n - 1))

/-- The cells of a grid that touch a cell, along an edge or at a corner. -/
def neighbours (rows columns : Nat) (cell : Location) : List Location :=
  ((around rows cell.row).flatMap fun row =>
    (around columns cell.column).map fun column => ⟨row, column⟩).filter (· ≠ cell)

/-- The number of living cells that touch a cell. -/
def liveNeighbours (s : Sheet) (cell : Location) : Nat :=
  ((neighbours s.rows s.columns cell).filter (isLive s)).length

/-- Whether a cell lives in the next generation. -/
def livesOn (s : Sheet) (cell : Location) : Bool :=
  liveNeighbours s cell == 3 || (isLive s cell && liveNeighbours s cell == 2)

/-- The living cells that die. -/
def deaths (s : Sheet) : List Location :=
  s.cells.filter fun cell => isLive s cell && !livesOn s cell

/-- The cells that are born. -/
def births (s : Sheet) : List Location :=
  s.cells.filter fun cell => !isLive s cell && livesOn s cell

/-- The number of living cells in the next generation. -/
def population (s : Sheet) : Nat :=
  (s.cells.filter (livesOn s)).length

/-- Writes a text into cells one after the other, up to the first that refuses
it. -/
def writeInto (text : String) (s : Sheet) : List Location → Sheet × Except SheetFault Unit
  | [] => (s, .ok ())
  | cell :: rest =>
      match s.write cell text with
      | .ok s => writeInto text s rest
      | .error fault => (s, .error (.update cell fault))

/-- Empties the cells that die and writes `1` into those that are born, in the
order in which they are given. -/
def advance (s : Sheet) (dying born : List Location) : Sheet × Except SheetFault Unit :=
  match writeInto "" s dying with
  | (s, .ok ()) => writeInto "1" s born
  | (s, .error fault) => (s, .error fault)

/-- The next generation, with its number of living cells. -/
def step (s : Sheet) : Sheet × Except SheetFault Nat :=
  match advance s (deaths s) (births s) with
  | (next, .ok ()) => (next, .ok (population s))
  | (next, .error fault) => (next, .error fault)

/-- The generation after so many steps, with the numbers of living cells that the
steps found, the last one first, after `counts`. A step that fails is the last,
and the sheet stays as that step left it. -/
def run (s : Sheet) (counts : List Nat) : Nat → Sheet × List Nat × Option SheetFault
  | 0 => (s, counts, none)
  | n + 1 =>
      match step s with
      | (next, .ok live) => run next (live :: counts) n
      | (next, .error fault) => (next, counts, some fault)

end Spreadsheet.Life
