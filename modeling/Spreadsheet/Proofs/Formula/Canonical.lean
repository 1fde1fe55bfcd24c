import Mathlib.Data.List.Infix
import Mathlib.Tactic
import Spreadsheet.Proofs.Formula.Rendering

/-!
Which expressions are read back from their texts.

* `Expr.Canonical` says which ones: their names can be read, each operator has two operands or
  more of which the last is not empty, operators are nested from loose to tight, and there are
  no numbers below zero where a minus sign would be cut at;
* `canonical_iff_fits`: these are the ones that fit the levels, with operands as they should
  be;
* `parse_render_iff`: they are the ones that are read back.
-/

namespace Spreadsheet

namespace Formula

variable {operator : Operator} {levels : List Operator} {e part : Expr} {es : List Expr}

/-! ### Levels of the operators in an expression -/

/-- What stands in an expression fits the last of its levels. -/
lemma Fits.of_within (h : Fits levels e) (hwithin : Expr.Within part e) :
    ∃ tighter, tighter <:+ levels ∧ Fits tighter part := by
  induction h with
  | const hn =>
      obtain rfl := (Expr.within_iff_eq (by simp)).mp hwithin
      exact ⟨_, List.suffix_rfl, .const hn⟩
  | ref hname =>
      obtain rfl := (Expr.within_iff_eq (by simp)).mp hwithin
      exact ⟨_, List.suffix_rfl, .ref hname⟩
  | empty =>
      obtain rfl := (Expr.within_iff_eq (by simp)).mp hwithin
      exact ⟨_, List.suffix_rfl, .empty⟩
  | @op levels before tighter operator operands hlevels hne hoperands ih =>
      rcases Expr.within_op_iff.mp hwithin with rfl | ⟨e, he, hwithin⟩
      · exact ⟨_, List.suffix_rfl, .op hlevels hne hoperands⟩
      · obtain ⟨last, hsuffix, hpart⟩ := ih e he hwithin
        refine ⟨last, hsuffix.trans ?_, hpart⟩
        rw [hlevels, List.append_cons]
        exact List.suffix_append _ _

/-- An operator that stands in an expression is one of its levels. -/
lemma Fits.operator_mem (h : Fits levels e) (hwithin : Expr.Within (.op operator es) e) :
    operator ∈ levels := by
  obtain ⟨tighter, hsuffix, hpart⟩ := h.of_within hwithin
  cases hpart with
  | op hlevels _ _ =>
      refine hsuffix.subset ?_
      rw [hlevels]
      exact List.mem_append_right _ List.mem_cons_self

/-- For a number below zero that stands in an expression the minus sign is one of its levels. -/
lemma Fits.minus_mem (h : Fits levels e) {n : Int64} (hwithin : Expr.Within (.const n) e)
    (hn : n < 0) : .minus ∈ levels := by
  obtain ⟨tighter, hsuffix, hpart⟩ := h.of_within hwithin
  cases hpart with
  | const hminus => exact hsuffix.subset (hminus hn)

end Formula

/-! ### Canonical expressions -/

/-- The first operator binds more loosely than the second. -/
def Operator.Looser (a b : Operator) : Prop :=
  Formula.levels.idxOf a < Formula.levels.idxOf b

instance (a b : Operator) : Decidable (a.Looser b) :=
  inferInstanceAs (Decidable (_ < _))

/-- The levels after that of an operator are the tighter ones. -/
lemma Operator.mem_tighter_iff {a b : Operator} {tighter : List Operator}
    (h : a :: tighter <:+ Formula.levels) : b ∈ tighter ↔ a.Looser b := by
  have hmem : a :: tighter ∈ Formula.levels.tails := (List.mem_tails _ _).mpr h
  simp only [Formula.levels, List.tails, List.mem_cons, List.cons.injEq, List.not_mem_nil,
    reduceCtorEq, or_false] at hmem
  rcases hmem with ⟨rfl, rfl⟩ | ⟨rfl, rfl⟩ | ⟨rfl, rfl⟩ | ⟨rfl, rfl⟩ | ⟨rfl, rfl⟩ | ⟨rfl, rfl⟩ <;>
    cases b <;> decide

namespace Expr

open Formula

variable {e : Expr} {operator : Operator} {operands : List Expr} {levels tighter : List Operator}

/-- The expression is the one that its text stands for. -/
structure Canonical (e : Expr) : Prop where
  /-- Names are of letters and digits, and no numbers. -/
  names : ∀ name ∈ e.names, IsName name
  /-- Each operator has two operands or more. -/
  joins : e.Joins
  /-- No operator has an empty last operand. -/
  ends : e.Ends
  /-- Inside the operands of an operator there are tighter operators only. -/
  nested : e.Everywhere fun outer operands => ∀ inner parts,
    Below (.op inner parts) (.op outer operands) → outer.Looser inner
  /-- There are no numbers below zero inside the operands of `-`, `*` and `/`. -/
  signs : e.Everywhere fun operator operands => operator ∈ [.minus, .times, .divide] →
    ∀ n, Below (.const n) (.op operator operands) → ¬ n < 0

/-- The operands of a canonical expression are canonical. -/
lemma Canonical.operand (h : Canonical (.op operator operands)) (he : e ∈ operands) :
    Canonical e where
  names name hname := h.names name (mem_names_op.mpr ⟨e, he, hname⟩)
  joins := (everywhere_op_iff.mp h.joins).2 e he
  ends := (everywhere_op_iff.mp h.ends).2 e he
  nested := (everywhere_op_iff.mp h.nested).2 e he
  signs := (everywhere_op_iff.mp h.signs).2 e he

/-- Names stand in an expression as expressions of their own. -/
lemma within_ref {name : String} (h : name ∈ e.names) : Within (.ref name) e := by
  induction e using Expr.ind with
  | const n => exact absurd h List.not_mem_nil
  | ref other =>
      obtain rfl := List.mem_singleton.mp h
      exact .refl
  | empty => exact absurd h List.not_mem_nil
  | op operator operands ih =>
      obtain ⟨e, he, hname⟩ := mem_names_op.mp h
      exact within_op_iff.mpr (Or.inr ⟨e, he, ih e he hname⟩)

/-- What fits the levels is canonical, but for the numbers of operands. -/
lemma canonical_of_fits (h : Fits Formula.levels e) (hjoins : e.Joins) (hends : e.Ends) :
    e.Canonical where
  names name hname := by
    obtain ⟨_, -, hpart⟩ := h.of_within (within_ref hname)
    cases hpart with
    | ref hname => exact hname
  joins := hjoins
  ends := hends
  nested outer operands hwithin inner parts hbelow := by
    obtain ⟨levels, hsuffix, hpart⟩ := h.of_within hwithin
    cases hpart with
    | @op _ before tighter _ _ hlevels _ hoperands =>
        obtain ⟨e, he, hwithin⟩ := below_op_iff.mp hbelow
        rw [hlevels] at hsuffix
        exact (Operator.mem_tighter_iff ((List.suffix_append _ _).trans hsuffix)).mp
          ((hoperands e he).operator_mem hwithin)
  signs operator operands hwithin hoperator n hbelow hn := by
    obtain ⟨levels, hsuffix, hpart⟩ := h.of_within hwithin
    cases hpart with
    | @op _ before tighter _ _ hlevels _ hoperands =>
        obtain ⟨e, he, hwithin⟩ := below_op_iff.mp hbelow
        rw [hlevels] at hsuffix
        -- a number below zero needs the minus sign, which none of the three is looser than
        have hlooser : operator.Looser .minus :=
          (Operator.mem_tighter_iff ((List.suffix_append _ _).trans hsuffix)).mp
            ((hoperands e he).minus_mem hwithin hn)
        revert hlooser
        cases operator <;> revert hoperator <;> decide

/-- A canonical expression fits the levels from that of its loosest operator on, if these
allow for its signs. -/
lemma Canonical.fits (h : e.Canonical) (hsuffix : levels <:+ Formula.levels)
    (hoperators : ∀ operator operands, Within (.op operator operands) e → operator ∈ levels)
    (hsigns : ∀ n, Within (.const n) e → n < 0 → .minus ∈ levels) : Fits levels e := by
  induction e using Expr.ind generalizing levels with
  | const n => exact .const (hsigns n .refl)
  | ref name => exact .ref (h.names name (List.mem_singleton_self name))
  | empty => exact .empty
  | op operator operands ih =>
      obtain ⟨before, tighter, rfl⟩ := List.append_of_mem (hoperators operator operands .refl)
      have hlength := (everywhere_op_iff.mp h.joins).1
      have hlevels := (List.suffix_append before (operator :: tighter)).trans hsuffix
      refine .op rfl (List.ne_nil_of_length_pos (by omega)) fun e he => ?_
      have hbelow : ∀ {part}, Within part e → Below part (.op operator operands) :=
        fun hwithin => below_op_iff.mpr ⟨e, he, hwithin⟩
      -- the operators and signs inside an operand are of the levels after that of the operator
      refine ih e he (h.operand he) ((List.suffix_cons _ _).trans hlevels) ?_ ?_
      · intro inner parts hwithin
        exact (Operator.mem_tighter_iff hlevels).mpr
          ((everywhere_op_iff.mp h.nested).1 inner parts (hbelow hwithin))
      · intro n hwithin hn
        have hoperator : operator ∉ [.minus, .times, .divide] := fun hmem =>
          (everywhere_op_iff.mp h.signs).1 hmem n (hbelow hwithin) hn
        refine (Operator.mem_tighter_iff hlevels).mpr ?_
        revert hoperator
        cases operator <;> decide

/-- Canonical expressions are those that fit the levels, with operands as they should be. -/
theorem canonical_iff_fits :
    e.Canonical ↔ Fits Formula.levels e ∧ e.Joins ∧ e.Ends := by
  constructor
  · intro h
    refine ⟨h.fits List.suffix_rfl (fun operator _ _ => ?_) fun _ _ _ => by decide, h.joins,
      h.ends⟩
    cases operator <;> decide
  · rintro ⟨hfits, hjoins, hends⟩
    exact canonical_of_fits hfits hjoins hends

end Expr

namespace Formula

/-- **Expressions that are read back.** An expression is the one that its rendering is read as
exactly if it is canonical. -/
theorem parse_render_iff (e : Expr) : parse e.render = .ok e ↔ e.Canonical := by
  rw [Expr.canonical_iff_fits]
  constructor
  · intro h
    have hfits := fits_of_parse h
    exact ⟨hfits, joins_of_read hfits levels_nodup (parse_render_eq_ok_iff.mp h)⟩
  · rintro ⟨hfits, hjoins, hends⟩
    rw [parse_render_eq_ok_iff, read_text hfits hends levels_nodup, hjoins.collapse_eq]

/-- A product of sums is not read back: it is written like a sum of products. -/
example : parse (Expr.op .times [.op .plus [.const 1, .const 2], .const 3]).render =
    .ok (.op .plus [.const 1, .op .times [.const 2, .const 3]]) := by
  decide +kernel

end Formula

end Spreadsheet
