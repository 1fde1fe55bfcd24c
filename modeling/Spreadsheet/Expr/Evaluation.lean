import Spreadsheet.Expr.Basic

/-!
What an expression is worth, given what names stand for.

A `SymbolTable` binds names to expressions. A bound name is worth what its
binding is worth, an unbound name stands for itself, and an operator needs a
number from each operand.

* `Expr.reduce` evaluates an expression, given what names are worth;
* `Expr.resolve` is what a name is worth. It keeps the names on the path from
  the expression to the binding in hand, and a bound name that is already on the
  path is circular. Each step down the path uses up one binding, so a path is
  never longer than the table, and the depth given by `Expr.evaluate` suffices;
* `Expr.evaluate` puts the two together.
-/

namespace Spreadsheet

/-- What names stand for. -/
abbrev SymbolTable := Std.TreeMap String Expr

/-- Why an expression has no worth. -/
inductive EvalFault where
  /-- A number was needed, and something else was found. -/
  | notNumber (found : Expr)
  /-- A divisor is zero. -/
  | divisionByZero
  /-- A name is bound, directly or through other names, to itself. -/
  | circular (name : String)
  deriving DecidableEq

/-- The wording of a fault. -/
def EvalFault.message : EvalFault → String
  | .notNumber found => s!"expected a number, found {found.describe}"
  | .divisionByZero => "division by zero"
  | .circular name => s!"reference {name} resolves to itself"

namespace Expr

/-- The number that an expression is. -/
def number : Expr → Except EvalFault Int64
  | .const value => .ok value
  | other => .error (.notNumber other)

/-- The result of an operator on numbers. -/
def applyOperator (operator : Operator) (operands : List Int64) : Except EvalFault Expr :=
  match operator.result? operands with
  | some value => .ok (.const value)
  | none => .error .divisionByZero

mutual

/-- What an expression is worth, if `worth` says what names are worth. -/
def reduce (worth : String → Except EvalFault Expr) : Expr → Except EvalFault Expr
  | .const value => .ok (.const value)
  | .ref name => worth name
  | .empty => .ok .empty
  | .op operator operands => do applyOperator operator (← numbers worth operands)

/-- The numbers that operands are worth. The leftmost operand without one is
blamed. -/
def numbers (worth : String → Except EvalFault Expr) : List Expr → Except EvalFault (List Int64)
  | [] => .ok []
  | e :: es => do
      let value ← (← reduce worth e).number
      return value :: (← numbers worth es)

end

/-- What a name is worth, where `path` are the bound names whose bindings are
being evaluated. The first argument bounds the length of the path from here
on. -/
def resolve (table : SymbolTable) : Nat → List String → String → Except EvalFault Expr
  | 0, _, name => .error (.circular name)
  | depth + 1, path, name =>
      match table[name]? with
      | none => .ok (.ref name)
      | some binding =>
          if name ∈ path then .error (.circular name)
          else binding.reduce (resolve table depth (name :: path))

/-- What an expression is worth under a table. -/
def evaluate (table : SymbolTable) (e : Expr) : Except EvalFault Expr :=
  e.reduce (resolve table (table.size + 1) [])

end Expr

end Spreadsheet
