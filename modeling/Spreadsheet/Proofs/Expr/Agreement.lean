import Mathlib.Logic.Relation
import Mathlib.Tactic
import Spreadsheet.Proofs.Expr.Circular

/-!
Tables that agree on what an expression leads to.

An evaluation looks up the names of its expression, those of their bindings, and so on. So two
tables that say the same about these names cannot be told apart by it, whatever else they bind.
This is why values of cells may stay in a table of symbols when the next formula is evaluated, and
why a cell that nothing leads to from a change keeps its value.

* `Uses`: the binding of one name mentions another. Going on from name to name is the same as what
  an evaluation can meet (`meets_iff`), and is a matter of the names gone through only
  (`reachable_congr`);
* `evaluate_eq_of_agree`: under tables that agree on these names an expression has the same worth
  or the same fault, be there cycles or not.
-/

namespace Spreadsheet.Expr

open Relation

variable {table other : SymbolTable} {e : Expr} {name next met : String}

/-- The binding of the first name mentions the second. -/
def Uses (table : SymbolTable) (name next : String) : Prop :=
  ∃ binding, table[name]? = some binding ∧ next ∈ binding.dependencies

/-- What a name uses is a matter of its own binding. -/
lemma uses_congr (h : table[name]? = other[name]?) :
    Uses table name next ↔ Uses other name next := by
  rw [Uses, Uses, h]

/-- What an evaluation can meet are the names of the expression and those that they lead to. -/
lemma meets_iff : Meets (fun name => table[name]?) e met ↔
    ∃ name ∈ e.dependencies, ReflTransGen (Uses table) name met := by
  constructor
  · intro h
    induction h with
    | mention hname => exact ⟨_, mem_dependencies.mpr hname, .refl⟩
    | follow hname hbinding _ ih =>
        obtain ⟨next, hnext, hpath⟩ := ih
        exact ⟨_, mem_dependencies.mpr hname, .head ⟨_, hbinding, hnext⟩ hpath⟩
  · rintro ⟨name, hname, hpath⟩
    refine Meets.of_ref ?_ (mem_dependencies.mp hname)
    clear hname
    induction hpath using ReflTransGen.head_induction_on with
    | refl => exact .mention (by simp [names])
    | head huses _ ih =>
        obtain ⟨binding, hbinding, hnext⟩ := huses
        exact .follow (by simp [names]) hbinding (ih.of_ref (mem_dependencies.mp hnext))

/-- From a name, tables lead to the same names if they agree on those that one of them leads
to. -/
lemma reachable_congr (h : ∀ met, ReflTransGen (Uses table) name met → table[met]? = other[met]?) :
    ReflTransGen (Uses table) name met ↔ ReflTransGen (Uses other) name met := by
  constructor
  · intro hpath
    induction hpath with
    | refl => exact .refl
    | tail hpath huses ih => exact ih.tail ((uses_congr (h _ hpath)).mp huses)
  · intro hpath
    induction hpath with
    | refl => exact .refl
    | tail _ huses ih => exact ih.tail ((uses_congr (h _ ih)).mpr huses)

/-- From a name of a list that has with each name those that its binding mentions, the table leads
to names of the list only. -/
lemma mem_of_reachable {known : List String}
    (hclosed : ∀ name ∈ known, ∀ binding ∈ table[name]?, binding.dependencies ⊆ known)
    (hname : name ∈ known) (hpath : ReflTransGen (Uses table) name met) : met ∈ known := by
  induction hpath with
  | refl => exact hname
  | tail _ huses ih =>
      obtain ⟨binding, hbinding, hnext⟩ := huses
      exact hclosed _ ih binding hbinding hnext

/-- **Evaluation depends only on what the expression leads to.** Let two tables agree on every name
that the names of an expression lead to by the bindings of the first, in that both bind it to the
same or neither binds it. Then the expression is worth the same under both, or has the same fault,
also where names lead back to themselves; and it has the same results by the rules of evaluation.
The second table leads from the names to no others than the first, so it does not matter by which
of the two they are found. -/
theorem evaluate_eq_of_agree
    (hagree : ∀ name ∈ e.dependencies, ∀ met, ReflTransGen (Uses table) name met →
      table[met]? = other[met]?) :
    e.evaluate table = e.evaluate other ∧
    (∀ result, Yields table [] e result ↔ Yields other [] e result) ∧
    ∀ name ∈ e.dependencies, ∀ met,
      ReflTransGen (Uses table) name met ↔ ReflTransGen (Uses other) name met := by
  have heval : e.evaluate table = e.evaluate other := evaluate_congr fun met hmet => by
    obtain ⟨name, hname, hpath⟩ := meets_iff.mp hmet
    exact hagree name hname met hpath
  refine ⟨heval, fun result => ?_, fun name hname met => reachable_congr (hagree name hname)⟩
  rw [yields_iff, yields_iff, heval]

/-- Two names that lead to each other, and one that nothing binds. What another name is bound to
does not matter to an expression with these, not even if it leads to them itself. -/
theorem evaluate_eq_of_agree_circular : ∃ table other : SymbolTable,
    table["apart"]? = some (.const 3) ∧ other["apart"]? = some (.ref "first") ∧
    (Expr.op .plus [.const 1, .ref "first", .ref "free"]).evaluate table
      = .error (.circular "first") ∧
    (Expr.op .plus [.const 1, .ref "first", .ref "free"]).evaluate other
      = .error (.circular "first") := by
  obtain ⟨table, htable⟩ : ∃ table : SymbolTable, table =
      (((∅ : SymbolTable).insert "first" (.op .plus [.ref "second", .const 1])).insert "second"
        (.ref "first")).insert "apart" (.const 3) := ⟨_, rfl⟩
  have hmentioned : (Expr.op .plus [.const 1, .ref "first", .ref "free"]).dependencies
      ⊆ ["first", "second", "free"] := by decide +kernel
  have hclosed : ∀ name ∈ ["first", "second", "free"], ∀ binding ∈ table[name]?,
      binding.dependencies ⊆ ["first", "second", "free"] := by
    rw [htable]
    decide +kernel
  have hknown : ∀ name ∈ ["first", "second", "free"],
      table[name]? = (table.insert "apart" (.ref "first"))[name]? := by
    rw [htable]
    decide +kernel
  obtain ⟨heval, -, -⟩ := evaluate_eq_of_agree fun name hname met hpath =>
    hknown met (mem_of_reachable hclosed (hmentioned hname) hpath)
  have hcircular : (Expr.op .plus [.const 1, .ref "first", .ref "free"]).evaluate table
      = .error (.circular "first") := by
    rw [htable]
    decide +kernel
  refine ⟨table, table.insert "apart" (.ref "first"), ?_, Std.TreeMap.getElem?_insert_self,
    hcircular, heval.symm.trans hcircular⟩
  rw [htable]
  decide +kernel

end Spreadsheet.Expr
