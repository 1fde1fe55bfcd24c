import Spreadsheet.Location
import Spreadsheet.Operator

/-!
Expressions: what is written into a cell, and what a cell is worth.

* `Expr` is a number, a name, nothing, or an operator over a list of operands;
* `Expr.names` lists the names an expression mentions, and
  `Expr.dependencies` the same without repetition, in order;
* `Expr.render` writes an expression as text: the operands of an operator with
  its symbol between them, and no brackets;
* `Expr.describe` says in words what an expression is;
* `Expr.applySymbol` applies the operator of a symbol to operands.
-/

namespace Spreadsheet

/-- An expression. -/
inductive Expr where
  /-- A number. -/
  | const (value : Int64)
  /-- A name: of a cell, of a built-in, or of nothing. -/
  | ref (name : String)
  /-- What an empty cell holds. -/
  | empty
  /-- An operator over operands. -/
  | op (operator : Operator) (operands : List Expr)
  deriving Inhabited

namespace Expr

/-- A property holds of every expression once each operator inherits it from its
operands. -/
@[elab_as_elim]
theorem ind {P : Expr → Prop} (const : ∀ n, P (.const n)) (ref : ∀ name, P (.ref name))
    (empty : P .empty)
    (op : ∀ operator operands, (∀ e ∈ operands, P e) → P (.op operator operands))
    (e : Expr) : P e :=
  Expr.rec (motive_1 := P) (motive_2 := fun es => ∀ e ∈ es, P e)
    const ref empty (fun operator operands ih => op operator operands ih)
    (fun e he => absurd he (by simp))
    (fun _ _ ihh iht e he => by
      rcases List.mem_cons.mp he with rfl | he'
      · exact ihh
      · exact iht e he')
    e

/-! ### Equality -/

mutual

/-- Equality of expressions is decided part by part. -/
def decEq : (a b : Expr) → Decidable (a = b)
  | .const m, .const n =>
      if h : m = n then isTrue (by rw [h]) else isFalse (by simp [h])
  | .ref s, .ref t =>
      if h : s = t then isTrue (by rw [h]) else isFalse (by simp [h])
  | .empty, .empty => isTrue rfl
  | .op o as, .op p bs =>
      if h : o = p then
        match decEqList as bs with
        | isTrue h' => isTrue (by rw [h, h'])
        | isFalse h' => isFalse (by simp [h'])
      else isFalse (by simp [h])
  | .const _, .ref _ | .const _, .empty | .const _, .op _ _ => isFalse (by simp)
  | .ref _, .const _ | .ref _, .empty | .ref _, .op _ _ => isFalse (by simp)
  | .empty, .const _ | .empty, .ref _ | .empty, .op _ _ => isFalse (by simp)
  | .op _ _, .const _ | .op _ _, .ref _ | .op _ _, .empty => isFalse (by simp)

/-- Equality of operand lists is decided operand by operand. -/
def decEqList : (as bs : List Expr) → Decidable (as = bs)
  | [], [] => isTrue rfl
  | a :: as, b :: bs =>
      match decEq a b, decEqList as bs with
      | isTrue h, isTrue h' => isTrue (by rw [h, h'])
      | isFalse h, _ => isFalse (by simp [h])
      | _, isFalse h => isFalse (by simp [h])
  | [], _ :: _ | _ :: _, [] => isFalse (by simp)

end

instance : DecidableEq Expr := decEq

/-! ### Names -/

mutual

/-- The names mentioned in an expression, from left to right. -/
def names : Expr → List String
  | .const _ | .empty => []
  | .ref name => [name]
  | .op _ operands => namesOfAll operands

/-- The names mentioned in a list of expressions, from left to right. -/
def namesOfAll : List Expr → List String
  | [] => []
  | e :: es => names e ++ namesOfAll es

end

/-- The names in a list of expressions are those in its members. -/
theorem namesOfAll_eq_flatMap (es : List Expr) : namesOfAll es = es.flatMap names := by
  induction es with
  | nil => rfl
  | cons e es ih => simp [namesOfAll, ih]

/-- The names mentioned in an expression, each once, in ascending order. -/
def dependencies (e : Expr) : List String :=
  (Std.TreeSet.ofList e.names).toList

/-- Sorting the names loses none and adds none. -/
theorem mem_dependencies {e : Expr} {name : String} :
    name ∈ e.dependencies ↔ name ∈ e.names := by
  simp [dependencies]

/-- Without them there are no names. -/
theorem names_eq_nil {e : Expr} (h : e.dependencies = []) : e.names = [] := by
  refine List.eq_nil_iff_forall_not_mem.mpr fun name hname => ?_
  rw [← mem_dependencies, h] at hname
  exact absurd hname List.not_mem_nil

/-! ### Text -/

mutual

/-- The characters that are written for an expression: the operands of an
operator stand with a blank, its symbol and a blank between them. -/
def text : Expr → List Char
  | .const value => Text.signedText value
  | .ref name => name.toList
  | .empty => []
  | .op operator operands => textOfAll operator operands

/-- The characters that are written for the operands of an operator. -/
def textOfAll (operator : Operator) : List Expr → List Char
  | [] => []
  | [e] => text e
  | e :: es => text e ++ ' ' :: operator.symbol :: ' ' :: textOfAll operator es

end

/-- The operands' texts stand with the symbol, between blanks, between them. -/
theorem textOfAll_eq_intercalate (operator : Operator) (es : List Expr) :
    textOfAll operator es = [' ', operator.symbol, ' '].intercalate (es.map text) := by
  induction es with
  | nil => rfl
  | cons e es ih =>
      cases es with
      | nil => simp [textOfAll]
      | cons e' es => simp [textOfAll, ih, List.intercalate_cons_cons]

/-- An expression as text. -/
def render (e : Expr) : String :=
  String.ofList e.text

/-- What an expression is, in words, for a report that it is no number. -/
def describe : Expr → String
  | .const value => String.ofList (Text.signedText value)
  | .ref name => s!"unresolved reference {name}"
  | .empty => "empty"
  | .op operator operands => s!"unevaluated formula \x60{(Expr.op operator operands).render}\x60"

/-! ### Application of a symbol -/

/-- Why a symbol cannot be applied to operands. -/
inductive ApplyFault where
  /-- There are no operands. -/
  | noOperands
  /-- The symbol is no operator's. -/
  | unknownOperator (symbol : String)
  deriving DecidableEq

/-- The wording of a fault. -/
def ApplyFault.message : ApplyFault → String
  | .noOperands => "No arguments provided"
  | .unknownOperator symbol => s!"Unknown operator: {symbol}"

/-- The operator of a symbol over operands. Without operands the symbol is not
looked at. -/
def applySymbol (symbol : String) (operands : List Expr) : Except ApplyFault Expr :=
  if operands.isEmpty then .error .noOperands
  else match Operator.ofSymbol? symbol with
    | some operator => .ok (.op operator operands)
    | none => .error (.unknownOperator symbol)

end Expr

end Spreadsheet
