import Mathlib.Tactic
import Spreadsheet.Life
import Spreadsheet.Proofs.Sheet.UpToDate

/-!
Writing into cells that no formula mentions.

If nothing or a number is written into such a cell, then no other cell is evaluated again, so
that the write cannot fail, whatever the values of the sheet are. Nor does any cell get users by
it, so that the same goes for the next write.

* `Linked.update_unused`: one write;
* `Linked.writeInto_unused`: a text is written into one cell after the other.
-/

namespace Spreadsheet.Sheet

open Relation

variable {s mid next : Sheet} {cell : Location} {cells : List Location} {e : Expr}

/-- No formula mentions the cell. -/
def Unused (s : Sheet) (cell : Location) : Prop :=
  ∀ user, ¬ s.grid.Feeds cell user

/-- The second sheet holds the expression in the given cells, as formula and as value, and is
like the first one otherwise. -/
structure Holding (s : Sheet) (cells : List Location) (e : Expr) (next : Sheet) : Prop where
  rows : next.rows = s.rows
  columns : next.columns = s.columns
  formula? : ∀ cell, next.formula? cell = if cell ∈ cells then some e else s.formula? cell
  value? : ∀ cell, next.value? cell = if cell ∈ cells then some e else s.value? cell

namespace Holding

lemma refl (s : Sheet) (e : Expr) : s.Holding [] e s :=
  ⟨rfl, rfl, fun _ => by simp, fun _ => by simp⟩

lemma cons (hfirst : s.Holding [cell] e mid) (hrest : mid.Holding cells e next) :
    s.Holding (cell :: cells) e next where
  rows := hrest.rows.trans hfirst.rows
  columns := hrest.columns.trans hfirst.columns
  formula? other := by
    rw [hrest.formula?, hfirst.formula?]
    by_cases hother : other ∈ cells <;> simp [hother]
  value? other := by
    rw [hrest.value?, hfirst.value?]
    by_cases hother : other ∈ cells <;> simp [hother]

lemma contains_eq (h : s.Holding cells e next) (cell : Location) :
    next.contains cell = s.contains cell := by
  rw [contains, contains, h.rows, h.columns]

end Holding

/-- A cell is unused if no name in a formula spells it. -/
lemma Linked.unused_of_formulas (h : s.Linked)
    (hcell : ∀ user formula, s.formula? user = some formula → ∀ name ∈ formula.dependencies,
      Location.ofName? name ≠ some cell) : s.Unused cell := by
  rintro user ⟨huser, name, hname, hspelled⟩
  exact hcell user _ (h.formula?_eq huser) name (Expr.mem_dependencies.mpr hname)
    (Grid.cellOf?_eq_some_iff.mp hspelled).1

/-- Where a cell is unused, no other cell depends on it. -/
lemma Linked.evaluationOrder_unused (h : s.Linked) (hunused : s.Unused cell) :
    s.evaluationOrder [cell] = [] := by
  refine List.eq_nil_iff_forall_not_mem.mpr fun other hother => ?_
  obtain ⟨source, hsource, hpath⟩ := h.mem_evaluationOrder.mp hother
  obtain ⟨user, hfeeds, -⟩ := TransGen.head'_iff.mp hpath
  exact hunused user (List.mem_singleton.mp hsource ▸ hfeeds)

/-- **Writing into an unused cell.** Nothing and numbers can be written there. Only that cell
changes, and no cell gets a user. -/
theorem Linked.update_unused (h : s.Linked) (hcell : s.contains cell = true)
    (hunused : s.Unused cell) (he : e = .empty ∨ ∃ n, e = .const n) :
    ∃ next, s.update cell e = .ok next ∧ next.Linked ∧ s.Holding [cell] e next ∧
      ∀ other, s.Unused other → next.Unused other := by
  have hdependencies : e.dependencies = [] := by
    rcases he with rfl | ⟨n, rfl⟩ <;> rfl
  have hvia : s.cycleThrough? cell e = none := by
    rw [cycleThrough?, targets, hdependencies]
    rfl
  -- nothing but the cell itself is evaluated, and its formula is its value
  have hstage : s.stageUpdate cell e = .ok ⟨s.symbols.insert cell.name e, [(cell, e)]⟩ := by
    have hbind : s.bindSpellings e s.symbols = s.symbols := by
      rw [bindSpellings, hdependencies]
      rfl
    rw [stageUpdate, stage, hbind, Expr.evaluate, reduce_blank he]
    change s.stageDependents [cell] _ = _
    rw [stageDependents, h.evaluationOrder_unused hunused]
    rfl
  have hupdate : s.update cell e =
      .ok (s.commit cell e ⟨s.symbols.insert cell.name e, [(cell, e)]⟩) := by
    rw [Sheet.update, if_neg (by simp [hcell]), hvia]
    simp only [hstage]
  refine ⟨_, hupdate, h.update hupdate, ⟨rfl, rfl, fun other => ?_, fun other => ?_⟩,
    fun other hother user hfeeds => ?_⟩
  · simp only [formula?_commit, List.mem_singleton]
  · change (s.values.insert cell e)[other]? = _
    rw [Std.TreeMap.getElem?_insert]
    simp only [Std.LawfulEqCmp.compare_eq_iff_eq, eq_comm (a := cell), List.mem_singleton]
    rfl
  · rw [grid_commit] at hfeeds
    by_cases huser : user = cell
    · refine Grid.not_feeds_of_names ?_ hfeeds
      rw [huser, Grid.formula_write_self, names_blank he]
    · exact hother user ((Grid.feeds_write_of_ne huser).mp hfeeds)

/-- **Writing into unused cells.** All of them get the expression, in whatever order they come. -/
theorem Linked.writeInto_unused (h : s.Linked) {text : String} (hparse : Formula.parse text = .ok e)
    (he : e = .empty ∨ ∃ n, e = .const n)
    (hcells : ∀ cell ∈ cells, s.contains cell = true ∧ s.Unused cell) :
    ∃ next, Life.writeInto text s cells = (next, .ok ()) ∧ next.Linked ∧ s.Holding cells e next ∧
      ∀ other, s.Unused other → next.Unused other := by
  induction cells generalizing s with
  | nil => exact ⟨s, rfl, h, .refl s e, fun _ hother => hother⟩
  | cons cell rest ih =>
      obtain ⟨hcell, hunused⟩ := hcells cell List.mem_cons_self
      obtain ⟨mid, hmid, hlinked, hholding, hkeep⟩ := h.update_unused hcell hunused he
      have hwrite : s.write cell text = .ok mid := by
        rw [write, hparse]
        exact hmid
      obtain ⟨next, hnext, hlinked', hholding', hkeep'⟩ := ih hlinked fun other hother => by
        obtain ⟨hin, hfree⟩ := hcells other (List.mem_cons_of_mem _ hother)
        exact ⟨(hholding.contains_eq other).trans hin, hkeep other hfree⟩
      refine ⟨next, ?_, hlinked', hholding.cons hholding', fun other hother =>
        hkeep' other (hkeep other hother)⟩
      rw [Life.writeInto, hwrite]
      exact hnext

end Spreadsheet.Sheet
