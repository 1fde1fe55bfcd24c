import Mathlib.Tactic
import Spreadsheet.Location

/-!
The names of cells are read back.

* `magnitude?_eq_some_iff`: which texts are read as numbers below a limit, and as which;
* `magnitude?_naturalText`: so such a number is read back from its digits;
* `ofName?_name`: the name of a cell that has a letter and a row of 64 bits names
  that cell, so that two such cells never share a name.
-/

namespace Spreadsheet

namespace Text

/-- The digits of a natural number are digits. -/
lemma isDigit_of_mem_naturalText {n : Nat} {c : Char} (h : c ∈ naturalText n) : c.isDigit :=
  Nat.isDigit_of_mem_toDigits (by decide) (by decide) h

/-- A text is read as the value of its digits if it has digits, nothing else, and the value is
below the limit. -/
lemma magnitude?_eq_some_iff {limit n : Nat} {digits : List Char} (hlimit : 0 < limit) :
    magnitude? limit digits = some n ↔
      digits ≠ [] ∧ (∀ c ∈ digits, c.isDigit = true) ∧ n < limit ∧ digitsValue digits = n := by
  rw [magnitude?, valueBelow?_eq hlimit, Option.ite_none_right_eq_some,
    Option.ite_none_right_eq_some, List.all_eq_true, Option.some.injEq, and_assoc]
  exact and_congr_right fun _ => and_congr_right fun _ => and_congr_left fun hvalue => by
    rw [hvalue]

/-- A number below the limit is read back from its digits. -/
lemma magnitude?_naturalText {limit n : Nat} (h : n < limit) :
    magnitude? limit (naturalText n) = some n :=
  (magnitude?_eq_some_iff (Nat.zero_lt_of_lt h)).mpr
    ⟨Nat.toDigits_ne_nil, fun _ hc => isDigit_of_mem_naturalText hc, h, digitsValue_naturalText n⟩

end Text

namespace Location

/-- The letter of a column stands for that column. -/
lemma columnOf?_letter {column : Nat} (h : column < maxColumns) :
    columnOf? (Char.ofNat ('A'.toNat + column)) = some column := by
  have hall : ∀ column < maxColumns, columnOf? (Char.ofNat ('A'.toNat + column)) = some column := by
    decide
  exact hall column h

/-- The name of a cell names the cell, if its column has a letter and its row is a
word of 64 bits. -/
theorem ofName?_name {cell : Location} (hrow : cell.row < Text.wordLimit)
    (hcolumn : cell.column < maxColumns) : ofName? cell.name = some cell := by
  rw [ofName?, name, String.toList_ofList, nameText, letter?, letterOf?, if_pos hcolumn]
  dsimp only
  rw [ofText?, Text.magnitude?_naturalText hrow, Option.bind_eq_bind, Option.bind_some, ofLetter?,
    columnOf?_letter hcolumn, Option.map_some]

end Location

end Spreadsheet
