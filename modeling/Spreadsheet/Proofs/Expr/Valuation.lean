import Mathlib.Tactic
import Spreadsheet.Proofs.Expr.Circular

/-!
Evaluation against values instead of formulas.

A table of values binds the same names as a table of formulas, each to what its binding is
worth. Expressions are worth the same under both, so that a table of values is enough to
evaluate a new formula.

* `resolve_eq_of_acyclic`: what a name is worth does not depend on the names on the path, if
  the evaluation cannot meet them and meets no name that reaches itself;
* `evaluate_ref_eq`: so a bound name that does not lead to a cycle is worth what its binding
  is worth by itself, with an empty path;
* `evaluate_eq_evaluate_values`: the worth of an expression, or its fault, is the same under
  both tables. No name may reach itself for that, but this need not be asked for: if it does,
  its binding has no worth (`Valuation.not_reaches`).
-/

namespace Spreadsheet.Expr

/-- The second table binds the same names as the first, each to what its binding there is
worth. -/
def Valuation (table values : SymbolTable) : Prop :=
  ∀ name : String,
    Option.Rel (fun binding value => binding.evaluate table = .ok value) table[name]? values[name]?

variable {table values : SymbolTable} {name : String} {binding : Expr}

/-! ### Paths that do not matter -/

/-- What is met below a bound name is met by the name. -/
lemma meets_of_next {next met : String} (hbinding : table[name]? = some binding)
    (hnext : next ∈ binding.names) (hmet : Meets (fun name => table[name]?) (.ref next) met) :
    Meets (fun name => table[name]?) (.ref name) met :=
  meets_ref_iff.mpr (Or.inr ⟨binding, hbinding, hmet.of_ref hnext⟩)

/-- A name that does not reach itself is not met below it. -/
lemma ne_of_next {next met : String} (hbinding : table[name]? = some binding)
    (hnext : next ∈ binding.names) (hmet : Meets (fun name => table[name]?) (.ref next) met)
    (hacyclic : ¬ Reaches table name name) : met ≠ name := by
  rintro rfl
  exact hacyclic ⟨binding, hbinding, hmet.of_ref hnext⟩

/-- A name is worth the same along any two paths that the evaluation cannot come back to, if
it meets no name that reaches itself. -/
lemma resolve_eq_of_acyclic {depth depth' : Nat} {path path' : List String}
    (hdepth : DeepEnough table depth path) (hdepth' : DeepEnough table depth' path')
    (hfar : ∀ met, Meets (fun name => table[name]?) (.ref name) met → met ∉ path ∧ met ∉ path')
    (hacyclic : ∀ met, Meets (fun name => table[name]?) (.ref name) met →
      ¬ Reaches table met met) :
    resolve table depth path name = resolve table depth' path' name := by
  induction depth generalizing depth' path path' name with
  | zero => exact absurd hdepth.pos (lt_irrefl 0)
  | succ depth ih =>
      obtain ⟨depth', rfl⟩ := Nat.exists_eq_add_one.mpr hdepth'.pos
      have hself : Meets (fun name => table[name]?) (.ref name) name :=
        meets_ref_iff.mpr (Or.inl rfl)
      rw [resolve, resolve]
      cases hbinding : table[name]? with
      | none => rfl
      | some binding =>
          obtain ⟨hpath, hpath'⟩ := hfar name hself
          have hname := mem_of_getElem?_eq_some hbinding
          dsimp only
          rw [if_neg hpath, if_neg hpath']
          refine reduce_congr fun next hnext => ?_
          refine ih (hdepth.cons hname hpath) (hdepth'.cons hname hpath') (fun met hmet => ?_)
            fun met hmet => hacyclic met (meets_of_next hbinding hnext hmet)
          -- the name has joined both paths, and is not met again below itself
          have hne := ne_of_next hbinding hnext hmet (hacyclic name hself)
          obtain ⟨hmem, hmem'⟩ := hfar met (meets_of_next hbinding hnext hmet)
          exact ⟨by simp [hne, hmem], by simp [hne, hmem']⟩

/-- A bound name is worth what its binding is worth, if the evaluation meets no name that
reaches itself. -/
lemma evaluate_ref_eq (hbinding : table[name]? = some binding)
    (hacyclic : ∀ met, Meets (fun name => table[name]?) (.ref name) met →
      ¬ Reaches table met met) : (Expr.ref name).evaluate table = binding.evaluate table := by
  have hdeep := (DeepEnough.start table).cons (mem_of_getElem?_eq_some hbinding) List.not_mem_nil
  rw [evaluate, reduce, resolve, hbinding]
  dsimp only
  rw [if_neg List.not_mem_nil]
  refine reduce_congr fun next hnext => ?_
  refine resolve_eq_of_acyclic hdeep (DeepEnough.start table) (fun met hmet => ?_) fun met hmet =>
    hacyclic met (meets_of_next hbinding hnext hmet)
  have hne := ne_of_next hbinding hnext hmet (hacyclic name (meets_ref_iff.mpr (Or.inl rfl)))
  exact ⟨by simp [hne], List.not_mem_nil⟩

/-! ### Tables of values -/

/-- If every binding is worth something, there is a table of their values. -/
lemma exists_valuation
    (hworth : ∀ (name : String) (binding : Expr), table[name]? = some binding →
      ∃ value, binding.evaluate table = .ok value) : ∃ values, Valuation table values := by
  refine ⟨table.map fun _ binding => ((binding.evaluate table).toOption.getD .empty),
    fun name => ?_⟩
  rw [Std.TreeMap.getElem?_map]
  cases hbinding : table[name]? with
  | none => exact .none
  | some binding =>
      obtain ⟨value, hvalue⟩ := hworth name binding hbinding
      rw [Option.map_some, hvalue]
      exact .some hvalue

namespace Valuation

lemma getElem?_eq_none_iff (h : Valuation table values) :
    values[name]? = none ↔ table[name]? = none := by
  have hname := h name
  generalize table[name]? = binding?, values[name]? = value? at hname ⊢
  cases hname <;> simp

/-- What a bound name is bound to in the second table. -/
lemma exists_value (h : Valuation table values) (hbinding : table[name]? = some binding) :
    ∃ value, values[name]? = some value ∧ binding.evaluate table = .ok value := by
  have hname := h name
  rw [hbinding] at hname
  generalize values[name]? = value? at hname ⊢
  cases hname with
  | some hvalue => exact ⟨_, rfl, hvalue⟩

/-- If every binding is worth something, no name reaches itself: it could be met from its own
binding. -/
lemma not_reaches (h : Valuation table values) (name : String) : ¬ Reaches table name name := by
  rintro ⟨binding, hbinding, hmet⟩
  obtain ⟨value, -, hvalue⟩ := h.exists_value hbinding
  exact not_reaches_of_evaluate hvalue hmet ⟨binding, hbinding, hmet⟩

/-- A value is worth itself, under its own table as well. -/
lemma evaluate_ref (h : Valuation table values) (name : String) :
    (Expr.ref name).evaluate values = (Expr.ref name).evaluate table := by
  cases hbinding : table[name]? with
  | none =>
      rw [evaluate, evaluate, reduce, reduce, resolve, resolve, h.getElem?_eq_none_iff.mpr hbinding,
        hbinding]
  | some binding =>
      obtain ⟨value, hfound, hvalue⟩ := h.exists_value hbinding
      rw [evaluate_ref_eq hbinding fun met _ => h.not_reaches met, hvalue, evaluate, reduce,
        resolve, hfound]
      dsimp only
      rw [if_neg List.not_mem_nil]
      have hdeep := (DeepEnough.start values).cons (mem_of_getElem?_eq_some hfound) List.not_mem_nil
      refine reduce_of_settled hdeep.pos ?_
      have hsettled := evaluate_settled hvalue
      cases value with
      | const n => trivial
      | ref id => exact h.getElem?_eq_none_iff.mpr hsettled
      | empty => trivial
      | op operator es => exact hsettled

end Valuation

/-- **Values are enough to evaluate.** Let every binding of a table be worth something. Then
there is a table of values, which binds the same names to what their bindings are worth; and
under any such table every expression has the worth that it has under the first one, or the
same fault. -/
theorem evaluate_eq_evaluate_values
    (hworth : ∀ (name : String) (binding : Expr), table[name]? = some binding →
      ∃ value, binding.evaluate table = .ok value) :
    (∃ values, Valuation table values) ∧
      ∀ values, Valuation table values → ∀ e : Expr, e.evaluate values = e.evaluate table := by
  refine ⟨exists_valuation hworth, fun values h e => reduce_congr fun name _ => ?_⟩
  have hname := h.evaluate_ref name
  rwa [evaluate, evaluate, reduce, reduce] at hname

/-- A chain of names and a name that stands for nothing: the sum of the two is no number under
the table of values either, and for the same reason. -/
theorem evaluate_eq_evaluate_values_dangling : ∃ table values : SymbolTable,
    table["sum"]? = some (.op .plus [.ref "five", .ref "five"]) ∧
    Valuation table values ∧ values["sum"]? = some (.const 10) ∧
    (Expr.op .plus [.ref "sum", .ref "far"]).evaluate values
      = .error (.notNumber (.ref "nowhere")) := by
  obtain ⟨table, htable⟩ : ∃ table : SymbolTable, table =
      (((∅ : SymbolTable).insert "five" (.const 5)).insert "sum"
        (.op .plus [.ref "five", .ref "five"])).insert "far" (.ref "nowhere") := ⟨_, rfl⟩
  have hworth : ∀ (name : String) (binding : Expr), table[name]? = some binding →
      ∃ value, binding.evaluate table = .ok value := by
    intro name binding hbinding
    rw [htable] at hbinding ⊢
    simp only [Std.TreeMap.getElem?_insert] at hbinding
    split_ifs at hbinding
    · obtain rfl := Option.some.inj hbinding
      exact ⟨.ref "nowhere", by decide +kernel⟩
    · obtain rfl := Option.some.inj hbinding
      exact ⟨.const 10, by decide +kernel⟩
    · obtain rfl := Option.some.inj hbinding
      exact ⟨.const 5, by decide +kernel⟩
    · simp at hbinding
  obtain ⟨⟨values, hvalues⟩, hsame⟩ := evaluate_eq_evaluate_values hworth
  have hsum : table["sum"]? = some (.op .plus [.ref "five", .ref "five"]) := by
    rw [htable]
    decide +kernel
  obtain ⟨value, hvalue, hten⟩ := hvalues.exists_value hsum
  refine ⟨table, values, hsum, hvalues, ?_, ?_⟩
  · have hten' : (Expr.op .plus [.ref "five", .ref "five"]).evaluate table = .ok (.const 10) := by
      rw [htable]
      decide +kernel
    obtain rfl := Except.ok.inj (hten.symm.trans hten')
    exact hvalue
  · rw [hsame values hvalues, htable]
    decide +kernel

end Spreadsheet.Expr
