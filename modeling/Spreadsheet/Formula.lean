import Spreadsheet.Expr.Basic
import Spreadsheet.Text.Alphanumeric
import Spreadsheet.Text.Blank

/-!
Formulas: expressions as they are typed.

There are no brackets. The text is cut at the first symbol, in the order
`=`, `<`, `+`, `-`, `*`, `/`, that occurs in it, so that earlier symbols bind
more loosely, and the pieces are read in the same way with the symbols that
remain. A text without symbols is a number, a name of alphanumeric characters,
or nothing. Blanks around a piece do not matter, and a number with a sign is
recognised before any cutting.

* `Formula.read` reads text at the levels of a list of operators;
* `Formula.parse` reads a whole formula; its faults carry the whole text.
-/

namespace Spreadsheet.Formula

/-- Why a text is no formula. -/
inductive Reason where
  /-- A symbol has nothing to its left, and nothing but itself to its right. -/
  | noOperands
  /-- A character stands where a name or a number should. -/
  | unexpected (c : Char)
  deriving DecidableEq

/-- The wording of a reason. -/
def Reason.message : Reason → String
  | .noOperands => Expr.ApplyFault.noOperands.message
  | .unexpected c => s!"Unexpected character '{c}'"

/-- A text that is no formula, and why. -/
structure Fault where
  text : String
  reason : Reason
  deriving DecidableEq

/-- The wording of a fault names the text, not the reason. -/
def Fault.message (fault : Fault) : String :=
  s!"Unable to parse: {fault.text}"

/-- The operators from loosest to tightest. -/
def levels : List Operator :=
  [.equal, .less, .plus, .minus, .times, .divide]

/-- The pieces of a text between occurrences of a symbol. Empty pieces at the
end are dropped; a piece of blanks is not empty. -/
def pieces (symbol : Char) (text : List Char) : List (List Char) :=
  ((text.splitOn symbol).reverse.dropWhile List.isEmpty).reverse

/-- A trimmed text without symbols: a number, a name, or nothing. -/
def atom (text : List Char) : Except Reason Expr :=
  match Text.readSigned? text with
  | some value => .ok (.const value)
  | none =>
      match text.find? (fun c => !Text.isAlphanumeric c) with
      | some c => .error (.unexpected c)
      | none => .ok (if text.isEmpty then .empty else .ref (String.ofList text))

/-- An operator over operands that have been read. -/
def application (operator : Operator) : List Expr → Except Reason Expr
  | [] => .error .noOperands
  | operands => .ok (.op operator operands)

/-- The expression that a text stands for, where the symbols of the given
operators cut it, the first of them first. -/
def read : List Operator → List Char → Except Reason Expr
  | [], text => atom (Text.trim text)
  | operator :: tighter, text =>
      let text := Text.trim text
      match Text.readSigned? text with
      | some value => .ok (.const value)
      | none =>
          if operator.symbol ∈ text then do
            application operator (← (pieces operator.symbol text).mapM (read tighter))
          else read tighter text

/-- The expression that a formula stands for. -/
def parse (text : String) : Except Fault Expr :=
  match read levels text.toList with
  | .ok e => .ok e
  | .error reason => .error ⟨text, reason⟩

end Spreadsheet.Formula
