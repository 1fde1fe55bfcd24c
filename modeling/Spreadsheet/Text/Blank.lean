import Spreadsheet.Text.Ranges

/-!
Blank characters.

* `isBlank` is the White_Space property of Unicode: the space, the five
  controls from tab to carriage return, and nineteen others;
* `trim` removes the blanks at both ends of a text, `trimEnd` those at its right
  end;
* `words` are the maximal runs without a blank;
* `cutAtBlank` cuts a text once, at its first blank.
-/

namespace Spreadsheet.Text

/-- The twenty-five code points that are blank. -/
def blankRanges : List (Nat × Nat) :=
  [(0x0009, 0x000D), (0x0020, 0x0020), (0x0085, 0x0085), (0x00A0, 0x00A0),
   (0x1680, 0x1680), (0x2000, 0x200A), (0x2028, 0x2029), (0x202F, 0x202F),
   (0x205F, 0x205F), (0x3000, 0x3000)]

/-- Whether a character is blank. -/
def isBlank (c : Char) : Bool :=
  inRanges c.toNat blankRanges

/-- The text without the blanks at its left end. -/
def trimStart (text : List Char) : List Char :=
  text.dropWhile isBlank

/-- The text without the blanks at its right end. -/
def trimEnd (text : List Char) : List Char :=
  (text.reverse.dropWhile isBlank).reverse

/-- The text without the blanks at its two ends. -/
def trim (text : List Char) : List Char :=
  trimEnd (trimStart text)

/-- The maximal runs of characters without a blank, in order. -/
def words (text : List Char) : List (List Char) :=
  (text.splitOnP isBlank).filter (fun part => !part.isEmpty)

/-- The text before and after its first blank, if it has one. -/
def cutAtBlank (text : List Char) : Option (List Char × List Char) :=
  match text.dropWhile (fun c => !isBlank c) with
  | [] => none
  | _ :: after => some (text.takeWhile (fun c => !isBlank c), after)

end Spreadsheet.Text
