import Mathlib.Logic.Relation
import Mathlib.Tactic
import Spreadsheet.Expr.Basic
import Spreadsheet.Proofs.Expr.Lookup

/-!
The operators in an expression, at any depth.

* `Within` and `Below` say that an expression stands in another one, and `Everywhere` that
  something holds of each operator in an expression and its operands;
* `Joins`, `Ends` and `Filled` are three such properties: each operator has two operands or
  more, none ends with an empty operand, and none has an empty operand at all. An expression
  that is worth something is filled (`filled_of_reduce`);
* `collapse` replaces each operator with a single operand by that operand. This does not
  show in the text (`text_collapse`).
-/

namespace Spreadsheet.Expr

open Relation

/-! ### Parts of an expression -/

/-- The first expression is an operand of the second. -/
def Operand (part e : Expr) : Prop :=
  ∃ operator operands, e = .op operator operands ∧ part ∈ operands

/-- The first expression is the second, or stands in it at some depth. -/
def Within : Expr → Expr → Prop :=
  ReflTransGen Operand

/-- The first expression stands below the second, at some depth. -/
def Below : Expr → Expr → Prop :=
  TransGen Operand

/-- Something holds of every operator in an expression, with its operands. -/
def Everywhere (P : Operator → List Expr → Prop) (e : Expr) : Prop :=
  ∀ operator operands, Within (.op operator operands) e → P operator operands

variable {P Q : Operator → List Expr → Prop} {part e : Expr} {operator : Operator}
  {operands : List Expr}

lemma operand_op_iff : Operand part (.op operator operands) ↔ part ∈ operands := by
  constructor
  · rintro ⟨_, _, heq, hpart⟩
    obtain ⟨-, rfl⟩ := Expr.op.inj heq
    exact hpart
  · exact fun hpart => ⟨operator, operands, rfl, hpart⟩

/-- What stands below an operator stands in one of its operands. -/
lemma below_op_iff : Below part (.op operator operands) ↔ ∃ e ∈ operands, Within part e := by
  rw [Below, TransGen.tail'_iff]
  simp only [operand_op_iff]
  exact exists_congr fun e => and_comm

lemma within_op_iff : Within part (.op operator operands) ↔
    part = .op operator operands ∨ ∃ e ∈ operands, Within part e := by
  rw [Within, reflTransGen_iff_eq_or_transGen, eq_comm]
  exact or_congr Iff.rfl below_op_iff

/-- Only operators have anything below them. -/
lemma within_iff_eq (h : ∀ operator operands, e ≠ .op operator operands) :
    Within part e ↔ part = e := by
  rw [Within, reflTransGen_iff_eq_or_transGen, eq_comm]
  refine or_iff_left fun hbelow => ?_
  obtain ⟨_, -, operator, operands, heq, -⟩ := TransGen.tail'_iff.mp hbelow
  exact h operator operands heq

/-- Something holds everywhere exactly if it holds at the top and everywhere in the operands. -/
lemma everywhere_op_iff : Everywhere P (.op operator operands) ↔
    P operator operands ∧ ∀ e ∈ operands, Everywhere P e := by
  constructor
  · intro h
    refine ⟨h operator operands ReflTransGen.refl, fun e he inner parts hwithin => ?_⟩
    exact h inner parts (within_op_iff.mpr (Or.inr ⟨e, he, hwithin⟩))
  · rintro ⟨htop, hbelow⟩ inner parts hwithin
    rcases within_op_iff.mp hwithin with heq | ⟨e, he, hwithin⟩
    · obtain ⟨rfl, rfl⟩ := Expr.op.inj heq
      exact htop
    · exact hbelow e he inner parts hwithin

/-- Where there are no operators everything holds of them. -/
lemma everywhere_of_ne (h : ∀ operator operands, e ≠ .op operator operands) : Everywhere P e :=
  fun operator operands hwithin => absurd ((within_iff_eq h).mp hwithin).symm (h operator operands)

lemma Everywhere.imp (h : Everywhere P e) (hPQ : ∀ operator operands, P operator operands →
    Q operator operands) : Everywhere Q e :=
  fun operator operands hwithin => hPQ operator operands (h operator operands hwithin)

/-! ### Three properties -/

/-- Each operator has two operands or more. -/
def Joins : Expr → Prop :=
  Everywhere fun _ operands => 2 ≤ operands.length

/-- No operator has an empty last operand. -/
def Ends : Expr → Prop :=
  Everywhere fun _ operands => operands.getLast? ≠ some .empty

/-- No operator has an empty operand. -/
def Filled : Expr → Prop :=
  Everywhere fun _ operands => .empty ∉ operands

lemma Filled.ends (h : Filled e) : Ends e :=
  h.imp fun _ _ hempty hlast => hempty (List.mem_of_getLast? hlast)

lemma Ends.getLast_ne_empty (h : Ends (.op operator operands)) (hne : operands ≠ []) :
    operands.getLast hne ≠ .empty := by
  intro heq
  refine (everywhere_op_iff.mp h).1 ?_
  rw [List.getLast?_eq_some_getLast hne, heq]

/-- What is worth something is filled: an operator needs a number from each operand. -/
theorem filled_of_reduce {worth : String → Except EvalFault Expr} {value : Expr}
    (h : e.reduce worth = .ok value) : Filled e := by
  induction e using Expr.ind generalizing value with
  | const n => exact everywhere_of_ne (by simp)
  | ref name => exact everywhere_of_ne (by simp)
  | empty => exact everywhere_of_ne (by simp)
  | op operator operands ih =>
      obtain ⟨-, hoperands⟩ := reduce_op_eq_ok h
      refine everywhere_op_iff.mpr ⟨fun hempty => ?_, fun e he => ?_⟩
      · obtain ⟨n, hn⟩ := hoperands .empty hempty
        rw [reduce] at hn
        cases hn
      · obtain ⟨n, hn⟩ := hoperands e he
        exact ih e he hn

/-! ### Names and texts of an operator -/

lemma mem_names_op {name : String} :
    name ∈ (Expr.op operator operands).names ↔ ∃ e ∈ operands, name ∈ e.names := by
  rw [names, namesOfAll_eq_flatMap, List.mem_flatMap]

lemma text_op (operator : Operator) (operands : List Expr) : (Expr.op operator operands).text =
    [' ', operator.symbol, ' '].intercalate (operands.map text) := by
  rw [text, textOfAll_eq_intercalate]

lemma text_op_singleton (operator : Operator) (e : Expr) :
    (Expr.op operator [e]).text = e.text := by
  rw [text, textOfAll]

lemma text_op_cons_cons (operator : Operator) (first next : Expr) (rest : List Expr) :
    (Expr.op operator (first :: next :: rest)).text =
      first.text ++ ' ' :: operator.symbol :: ' ' :: (Expr.op operator (next :: rest)).text := by
  rw [text, text, textOfAll]
  simp

/-- What is written for an operator is what is written for its operands, blanks and its
symbol. -/
lemma mem_text_op {c : Char} (h : c ∈ (Expr.op operator operands).text) :
    (∃ e ∈ operands, c ∈ e.text) ∨ c = ' ' ∨ c = operator.symbol := by
  induction operands with
  | nil => exact absurd h List.not_mem_nil
  | cons e rest ih =>
      cases rest with
      | nil => exact Or.inl ⟨e, List.mem_singleton_self e, h⟩
      | cons next others =>
          rw [text_op_cons_cons] at h
          simp only [List.mem_append, List.mem_cons] at h
          rcases h with h | h | h | h | h
          · exact Or.inl ⟨e, List.mem_cons_self, h⟩
          · exact Or.inr (Or.inl h)
          · exact Or.inr (Or.inr h)
          · exact Or.inr (Or.inl h)
          · refine (ih h).imp_left ?_
            rintro ⟨part, hpart, hc⟩
            exact ⟨part, List.mem_cons_of_mem _ hpart, hc⟩

/-- The text of an operand is part of the text of the operator. -/
lemma mem_text_of_mem {c : Char} (he : e ∈ operands) (hc : c ∈ e.text) :
    c ∈ (Expr.op operator operands).text := by
  induction operands with
  | nil => exact absurd he List.not_mem_nil
  | cons first rest ih =>
      cases rest with
      | nil =>
          rw [List.mem_singleton.mp he] at hc
          exact hc
      | cons next others =>
          rw [text_op_cons_cons]
          rcases List.mem_cons.mp he with rfl | he
          · exact List.mem_append_left _ hc
          · simp [ih he]

/-! ### Operators with a single operand -/

mutual

/-- The expression without the operators that have a single operand. -/
def collapse : Expr → Expr
  | .const value => .const value
  | .ref name => .ref name
  | .empty => .empty
  | .op operator operands =>
      match collapseAll operands with
      | [e] => e
      | parts => .op operator parts

/-- The members of a list without their operators that have a single operand. -/
def collapseAll : List Expr → List Expr
  | [] => []
  | e :: es => collapse e :: collapseAll es

end

lemma collapseAll_eq_map (es : List Expr) : collapseAll es = es.map collapse := by
  induction es with
  | nil => rfl
  | cons e es ih => rw [collapseAll, ih, List.map_cons]

lemma collapse_singleton (operator : Operator) (e : Expr) :
    collapse (.op operator [e]) = collapse e := by
  rw [collapse, collapseAll_eq_map]
  rfl

lemma collapse_op (h : operands.length ≠ 1) :
    collapse (.op operator operands) = .op operator (operands.map collapse) := by
  rw [collapse, collapseAll_eq_map]
  split
  · next e heq =>
      exact absurd (by simpa using congrArg List.length heq) h
  · rfl

/-- Where each operator has two operands or more, nothing collapses. -/
theorem Joins.collapse_eq (h : Joins e) : collapse e = e := by
  induction e using Expr.ind with
  | const n => rw [collapse]
  | ref name => rw [collapse]
  | empty => rw [collapse]
  | op operator operands ih =>
      obtain ⟨hlength, hoperands⟩ := everywhere_op_iff.mp h
      have hmap : operands.map collapse = operands :=
        List.map_congr_left (fun e he => ih e he (hoperands e he)) |>.trans (List.map_id operands)
      rw [collapse_op (by omega), hmap]

/-- An expression that collapses is written like the one that it collapses to. -/
theorem text_collapse (e : Expr) : (collapse e).text = e.text := by
  induction e using Expr.ind with
  | const n => rw [collapse]
  | ref name => rw [collapse]
  | empty => rw [collapse]
  | op operator operands ih =>
      by_cases hlength : operands.length = 1
      · obtain ⟨e, rfl⟩ := List.length_eq_one_iff.mp hlength
        rw [collapse_singleton, text_op_singleton, ih e (List.mem_singleton_self e)]
      · rw [collapse_op hlength, text_op, text_op, List.map_map]
        exact congrArg _ (List.map_congr_left ih)

end Spreadsheet.Expr
