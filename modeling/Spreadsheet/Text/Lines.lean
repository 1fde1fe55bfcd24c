/-!
Lines of text.

* `lines` cuts a text after its line ends, a line end being a line feed, with or
  without a carriage return before it; `unlines` puts a line feed after each line;
* `cutAt` cuts a text once, at the first occurrence of a separator, as a line is
  cut into its first field and the rest.
-/

namespace Spreadsheet.Text

/-- A line without the carriage return that its line end may begin with. -/
def dropReturn (line : List Char) : List Char :=
  if line.getLast? = some '\r' then line.dropLast else line

/-- The lines of the text. Text after the last line end is a line if it is not
empty, and then keeps a carriage return at its end. -/
def lines (text : List Char) : List (List Char) :=
  let parts := text.splitOn '\n'
  let ended := parts.dropLast.map dropReturn
  match parts.getLast? with
  | none | some [] => ended
  | some rest => ended ++ [rest]

/-- Lines, each with a line feed. -/
def unlines (lines : List String) : String :=
  String.join (lines.map (· ++ "\n"))

/-- The text before and after the first occurrence of the separator, if it
occurs. -/
def cutAt (separator : Char) (text : List Char) : Option (List Char × List Char) :=
  match text.dropWhile (· != separator) with
  | [] => none
  | _ :: after => some (text.takeWhile (· != separator), after)

end Spreadsheet.Text
