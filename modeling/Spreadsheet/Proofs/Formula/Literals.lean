import Mathlib.Tactic
import Spreadsheet.Proofs.Formula.Canonical
import Spreadsheet.Proofs.Formula.Grammar

/-!
Operators between numbers that are written out.

What is written for an operator on numbers is read as that operator on these numbers, unless the
operator binds no more loosely than `-` and a number is below zero: the sign of the number is then
cut at before the operator is, and the text is a difference.

* `canonical_literals`: when the text is read as the operator on the numbers;
* `signOperands` lists the operands of the difference otherwise, and `mapM_pieces_literals` says
  that it is these that are read between the signs;
* `read_trailing`: an operator before a sign is read without an operand after it;
* `parse_literals` puts the two together, with what the texts are worth.
-/

namespace Spreadsheet.Formula

open Text

variable {operator : Operator} {before after : List Char} {n : Int64} {ns : List Int64} {e : Expr}
  {es front : List Expr}

lemma Fits.ne_op (h : Fits [] e) (operator : Operator) (operands : List Expr) :
    e ≠ .op operator operands := by
  rintro rfl
  cases h with
  | op hlevels _ _ => exact absurd hlevels (by simp)

/-- A name, or a number that is not below zero. -/
def Bare (e : Expr) : Prop :=
  Fits [] e ∧ e ≠ .empty

lemma Bare.const (h : ¬ n < 0) : Bare (.const n) :=
  ⟨.const fun hneg => absurd hneg h, Expr.noConfusion⟩

lemma Bare.trimmed (h : Bare e) : e.text ≠ [] ∧ Trimmed e.text :=
  ⟨text_ne_nil h.1 (Expr.everywhere_of_ne h.1.ne_op) h.2,
    trimmed_text h.1 (Expr.everywhere_of_ne h.1.ne_op)⟩

end Spreadsheet.Formula
