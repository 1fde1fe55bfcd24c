import Std.Data.TreeMap
import Std.Data.TreeSet
import Spreadsheet.Text.Number

/-!
Cells of a sheet, and their names.

A cell is given by its row and column, both counted from zero. Its name is the
column's letter and the row's number: `B3` is the cell in row 3 of column 1.

* `Location.name` writes a name; a column past `Z` has no letter and is written
  `#column:row`, which is no name that can be read;
* `Location.ofName?` reads a letter and digits, with any number of leading
  zeros, as long as the row is a word of 64 bits. So a cell has many spellings,
  of which `Location.name` is the shortest;
* cells are ordered by row, then by column (`Location.compare_eq`), and
  `CellMap` keys data by cell in that order.
-/

namespace Spreadsheet

/-- The number of columns that have a letter, `A` to `Z`. -/
def maxColumns : Nat := 26

/-- A cell, by row and column. -/
structure Location where
  row : Nat
  column : Nat
  deriving DecidableEq

namespace Location

/-! ### Order -/

/-- Cells are compared by row, and within a row by column. -/
instance : Ord Location where
  compare a b := (compare a.row b.row).then (compare a.column b.column)

theorem compare_eq (a b : Location) :
    compare a b = (compare a.row b.row).then (compare a.column b.column) := rfl

instance : Std.TransOrd Location :=
  inferInstanceAs (Std.TransCmp (compareLex (compareOn Location.row) (compareOn Location.column)))

instance : Std.LawfulEqOrd Location where
  eq_of_compare {a b} h := by
    rw [compare_eq, Ordering.then_eq_eq] at h
    obtain ⟨hr, hc⟩ := h
    cases a; cases b
    simp only [Nat.compare_eq_eq] at hr hc
    simp [hr, hc]

/-! ### Names -/

/-- The letter of a column, if it has one. -/
def letterOf? (column : Nat) : Option Char :=
  if column < maxColumns then some (Char.ofNat ('A'.toNat + column)) else none

/-- The letter of the cell's column, if it has one. -/
def letter? (cell : Location) : Option Char :=
  letterOf? cell.column

/-- The column of an upper-case letter of ASCII. -/
def columnOf? (letter : Char) : Option Nat :=
  if letter.isUpper then some (letter.toNat - 'A'.toNat) else none

/-- The cell in the column of a letter. -/
def ofLetter? (letter : Char) (row : Nat) : Option Location :=
  (columnOf? letter).map fun column => ⟨row, column⟩

/-- The characters of a cell's name. -/
def nameText (cell : Location) : List Char :=
  match cell.letter? with
  | some letter => letter :: Text.naturalText cell.row
  | none => '#' :: Text.naturalText cell.column ++ ':' :: Text.naturalText cell.row

/-- The name of a cell. -/
def name (cell : Location) : String :=
  String.ofList cell.nameText

/-- The cell that a text names: a letter, then the digits of a row of 64 bits. -/
def ofText? : List Char → Option Location
  | [] => none
  | letter :: digits => Text.magnitude? Text.wordLimit digits >>= ofLetter? letter

/-- The cell that a name spells. -/
def ofName? (name : String) : Option Location :=
  ofText? name.toList

/-- The report on a text that names no cell. -/
def noNameMessage (text : String) : String :=
  s!"Invalid cell reference: {text}"

/-- The cell as a JSON object. -/
def json (cell : Location) : String :=
  s!"\x7b\"row\":{cell.row},\"column\":{cell.column}\x7d"

end Location

/-! ### Data by cell -/

/-- Data keyed by cell, in row-major order. -/
abbrev CellMap (α : Type) := Std.TreeMap Location α

/-- The cells of a grid, row by row. -/
def gridCells (rows columns : Nat) : List Location :=
  (List.range rows).flatMap fun row => (List.range columns).map fun column => ⟨row, column⟩

/-- A cell lies in the grid exactly if its row and column do. -/
theorem mem_gridCells {rows columns : Nat} {cell : Location} :
    cell ∈ gridCells rows columns ↔ cell.row < rows ∧ cell.column < columns := by
  cases cell
  simp [gridCells]

namespace CellMap

variable {α : Type}

/-- One value stored at each of the cells. -/
def fill (map : CellMap α) (cells : List Location) (value : α) : CellMap α :=
  cells.foldl (fun map cell => map.insert cell value) map

/-- Values stored at their cells; of two for one cell the later stays. -/
def store (map : CellMap α) (entries : List (Location × α)) : CellMap α :=
  entries.foldl (fun map entry => map.insert entry.1 entry.2) map

/-- After filling, the given cells hold the value and the others are as they
were. -/
theorem getElem?_fill (map : CellMap α) (cells : List Location) (value : α) (cell : Location) :
    (fill map cells value)[cell]? = if cell ∈ cells then some value else map[cell]? := by
  induction cells generalizing map with
  | nil => simp [fill]
  | cons first rest ih =>
      have step : fill map (first :: rest) value = fill (map.insert first value) rest value := rfl
      rw [step, ih, Std.TreeMap.getElem?_insert]
      by_cases hrest : cell ∈ rest
      · simp [hrest]
      · by_cases hfirst : first = cell
        · simp [hfirst]
        · simp [hrest, hfirst, Ne.symm hfirst]

end CellMap

end Spreadsheet
