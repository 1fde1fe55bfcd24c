import Spreadsheet.Sheet.Basic

/-!
The values of a sheet as a printed table.

The first line has the letters of the columns, each further line the number of a
row and the values of its cells. Fields are set to the right in columns with ` | `
between them, and no line ends in blanks. A column is as wide as the longest of
its texts is in bytes, so that text outside ASCII leaves some room.
-/

namespace Spreadsheet.Table

/-- The number of bytes that encode a text. -/
def byteLength (text : List Char) : Nat :=
  text.foldr (fun c bytes => c.utf8Size + bytes) 0

/-- A text set to the right in a field of so many characters. -/
def padLeft (width : Nat) (text : List Char) : List Char :=
  List.replicate (width - text.length) ' ' ++ text

/-- The letter of a column as text. -/
def columnLabel (column : Nat) : List Char :=
  (Location.letterOf? column).toList

/-- The values of a row's cells. -/
def rowTexts (s : Sheet) (row : Nat) : List (List Char) :=
  (List.range s.columns).map fun column => (s.valueText ⟨row, column⟩).toList

/-- The width of the field that holds the numbers of the rows. -/
def labelWidth (s : Sheet) : Nat :=
  (Text.naturalText (s.rows - 1)).length

/-- The width of a column. -/
def columnWidth (s : Sheet) (column : Nat) : Nat :=
  (List.range s.rows).foldl
    (fun width row => max width (byteLength (s.valueText ⟨row, column⟩).toList))
    (byteLength (columnLabel column))

/-- The widths of all columns. -/
def widths (s : Sheet) : List Nat :=
  (List.range s.columns).map (columnWidth s)

/-- A line of the table. -/
def line (labelWidth : Nat) (widths : List Nat) (label : List Char) (texts : List (List Char)) :
    List Char :=
  Text.trimEnd (padLeft labelWidth label ++
    (List.zipWith (fun width text => ' ' :: '|' :: ' ' :: padLeft width text) widths texts).flatten)

/-- The lines of the table. -/
def lines (s : Sheet) : List (List Char) :=
  let labelWidth := labelWidth s
  let widths := widths s
  line labelWidth widths [] ((List.range s.columns).map columnLabel) ::
    (List.range s.rows).map fun row =>
      line labelWidth widths (Text.naturalText row) (rowTexts s row)

/-- The printed table, with a line end after each line. -/
def render (s : Sheet) : String :=
  String.ofList ((lines s).flatMap (· ++ ['\n']))

end Spreadsheet.Table
