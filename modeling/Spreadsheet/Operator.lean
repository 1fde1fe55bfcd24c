/-!
The six operators of formulas, on signed 64-bit integers.

An operator takes any number of operands. Sums, differences and products wrap;
a quotient is cut off towards zero, from left to right; a comparison holds if it
holds of each operand and its right neighbour, and is `1` then and `0` otherwise.

* `Operator.symbol` is the character that stands between operands;
* `Operator.result?` computes the result, and has none exactly if a divisor is
  zero.
-/

namespace Spreadsheet

/-- The operators of formulas. -/
inductive Operator where
  | plus
  | minus
  | times
  | divide
  | less
  | equal
  deriving DecidableEq

namespace Operator

/-- All operators. -/
def all : List Operator :=
  [.plus, .minus, .times, .divide, .less, .equal]

/-- The character that stands between operands. -/
def symbol : Operator → Char
  | .plus => '+'
  | .minus => '-'
  | .times => '*'
  | .divide => '/'
  | .less => '<'
  | .equal => '='

/-- The operator that a text of one symbol stands for. -/
def ofSymbol? (text : String) : Option Operator :=
  all.find? fun operator => text == operator.symbol.toString

/-- The result of an operator without operands. -/
def unit : Operator → Int64
  | .plus | .minus | .divide => 0
  | .times | .less | .equal => 1

/-- Whether a relation holds between each element of a list and the next. -/
def holdsBetween (r : Int64 → Int64 → Bool) : List Int64 → Bool
  | a :: b :: rest => r a b && holdsBetween r (b :: rest)
  | _ => true

/-- A truth value as a number. -/
def truth (b : Bool) : Int64 :=
  if b then 1 else 0

/-- The result on the given operands. There is none if a divisor is zero. -/
def result? (operator : Operator) : List Int64 → Option Int64
  | [] => some operator.unit
  | first :: rest =>
      match operator with
      | .plus => some (rest.foldl (· + ·) first)
      | .minus => some (rest.foldl (· - ·) first)
      | .times => some (rest.foldl (· * ·) first)
      | .divide => if 0 ∈ rest then none else some (rest.foldl (· / ·) first)
      | .less => some (truth (holdsBetween (fun a b => decide (a < b)) (first :: rest)))
      | .equal => some (truth (holdsBetween (fun a b => decide (a = b)) (first :: rest)))

/-- A symbol is read back as its operator. -/
theorem ofSymbol?_symbol (operator : Operator) :
    ofSymbol? operator.symbol.toString = some operator := by
  cases operator <;> decide

/-- There is no result exactly if the operator divides and a divisor is zero. -/
theorem result?_eq_none_iff (operator : Operator) (operands : List Int64) :
    operator.result? operands = none ↔ operator = .divide ∧ 0 ∈ operands.tail := by
  cases operands with
  | nil => simp [result?]
  | cons first rest => cases operator <;> simp [result?]

end Operator

end Spreadsheet
