import Mathlib.Tactic
import Spreadsheet.Proofs.Sheet.Incremental

/-!
What the state of a sheet depends on.

Values and users are kept up to date step by step, so that they could depend on what has
happened to the sheet. They do not: sheets that agree in their formulas (`Agrees`) agree
in everything else.

* `Agrees.value?_eq` and `Agrees.usedBy_eq`: the same values, and the same cells downstream of
  each one;
* `UpToDate.undo`: writing the former formula of a cell leads back to the former grid;
* `Reached.determined` puts the two together for the sheets that are reached.
-/

namespace Spreadsheet.Sheet

open Relation

variable {t t' : Template} {s s' next w : Sheet} {cell : Location} {formula : Expr}

/-! ### Sheets that agree -/

/-- The sheets have the same size, the same built-ins, and the same formula in each cell. -/
structure Agrees (s s' : Sheet) : Prop where
  rows : s.rows = s'.rows
  columns : s.columns = s'.columns
  builtins : s.builtins = s'.builtins
  formula? : ∀ cell, s.contains cell = true → s.formula? cell = s'.formula? cell

/-- Linked sheets with the same grid agree. -/
lemma Linked.agrees (h : s.Linked) (h' : s'.Linked) (hgrid : s'.grid = s.grid) : s.Agrees s' := by
  have hcontains : ∀ cell, s'.contains cell = s.contains cell := fun cell =>
    congrArg (Grid.contains · cell) hgrid
  refine ⟨congrArg Grid.rows hgrid.symm, congrArg Grid.columns hgrid.symm,
    congrArg Grid.builtins hgrid.symm, fun cell hcell => ?_⟩
  rw [h.formula?_eq hcell, h'.formula?_eq ((hcontains cell).trans hcell), hgrid]

namespace Agrees

lemma contains_eq (h : s.Agrees s') (cell : Location) : s'.contains cell = s.contains cell := by
  rw [contains, contains, h.rows, h.columns]

lemma cellOf?_eq (h : s.Agrees s') (name : String) :
    s'.grid.cellOf? name = s.grid.cellOf? name := by
  have hcontains : s'.grid.contains = s.grid.contains := funext h.contains_eq
  rw [Grid.cellOf?, Grid.cellOf?, hcontains]

/-- The formulas are the same beyond the sheets as well: there are none. -/
lemma formula?_eq (h : s.Agrees s') (hs : s.Linked) (hs' : s'.Linked) (cell : Location) :
    s'.formula? cell = s.formula? cell := by
  by_cases hcell : s.contains cell = true
  · exact (h.formula? cell hcell).symm
  · have hgone : cell ∉ s.formulas := fun hmem => hcell ((hs.mem_formulas cell).mp hmem)
    have hgone' : cell ∉ s'.formulas := fun hmem =>
      hcell ((h.contains_eq cell).symm.trans ((hs'.mem_formulas cell).mp hmem))
    rw [Sheet.formula?, Sheet.formula?, Std.TreeMap.getElem?_eq_none hgone,
      Std.TreeMap.getElem?_eq_none hgone']

lemma formula_eq (h : s.Agrees s') (hs : s.Linked) (hs' : s'.Linked)
    (hcell : s.contains cell = true) : s'.grid.formula cell = s.grid.formula cell :=
  grid_formula ((h.formula?_eq hs hs' cell).trans (hs.formula?_eq hcell))

/-- The same cells feed each other. -/
lemma feeds_eq (h : s.Agrees s') (hs : s.Linked) (hs' : s'.Linked) :
    s'.grid.Feeds = s.grid.Feeds := by
  funext source user
  refine propext ?_
  rw [Grid.Feeds, Grid.Feeds, contains_grid, contains_grid, h.contains_eq]
  refine and_congr_right fun huser => ?_
  simp only [h.formula_eq hs hs' huser, h.cellOf?_eq]

/-- Cells are worth the same from scratch. -/
lemma worth_eq (h : s.Agrees s') (hs : s.Linked) (hs' : s'.Linked)
    (hcell : s.contains cell = true) : s.grid.worth cell = s'.grid.worth cell := by
  refine Grid.worth_congr hs.acyclic hs'.acyclic h.builtins hcell fun source hsource _ => ?_
  exact ⟨(h.contains_eq source).trans hsource, (h.formula_eq hs hs' hsource).symm,
    fun name _ => (h.cellOf?_eq name).symm⟩

/-- There are no values beyond the sheets. -/
lemma value?_eq_of_not_contains (h : s.Agrees s') (hs : s.Linked) (hs' : s'.Linked)
    (hcell : ¬ s.contains cell = true) : s'.value? cell = s.value? cell := by
  have hgone : cell ∉ s.values := fun hmem => hcell ((hs.mem_values cell).mp hmem)
  have hgone' : cell ∉ s'.values := fun hmem =>
    hcell ((h.contains_eq cell).symm.trans ((hs'.mem_values cell).mp hmem))
  rw [value?, value?, Std.TreeMap.getElem?_eq_none hgone, Std.TreeMap.getElem?_eq_none hgone']

/-- **Values are a matter of the formulas.** -/
theorem value?_eq (h : s.Agrees s') (hs : s.UpToDate) (hs' : s'.UpToDate) (cell : Location) :
    s'.value? cell = s.value? cell := by
  by_cases hcell : s.contains cell = true
  · have hcell' := (h.contains_eq cell).trans hcell
    have hworth := h.worth_eq hs.toLinked hs'.toLinked hcell
    rw [hs.worth_eq cell hcell, hs'.worth_eq cell hcell', Except.ok.injEq] at hworth
    rw [hs.value?_eq hcell, hs'.value?_eq hcell', hworth]
  · exact h.value?_eq_of_not_contains hs.toLinked hs'.toLinked hcell

/-- **Dependents are a matter of the formulas.** They are listed row by row, in whatever order
they have been found. -/
theorem usedBy_eq (h : s.Agrees s') (hs : s.Linked) (hs' : s'.Linked) (cell : Location) :
    s'.usedBy cell = s.usedBy cell := by
  rw [usedBy, usedBy]
  refine Std.TreeSet.Equiv.toList_eq (Std.TreeSet.Equiv.of_forall_mem_iff fun user => ?_)
  rw [← Std.TreeSet.mem_toList, ← Std.TreeSet.mem_toList]
  change user ∈ s'.usedBy cell ↔ user ∈ s.usedBy cell
  rw [hs.mem_usedBy, hs'.mem_usedBy, h.feeds_eq hs hs']

end Agrees

/-! ### Undoing an update -/

/-- **Undoing.** After an update the former formula can be written again, and leads back to the
former grid. -/
theorem UpToDate.undo (h : s.UpToDate) (hupdate : s.update cell formula = .ok next)
    (hw : next.Reordered w) :
    ∃ last, w.update cell (s.grid.formula cell) = .ok last ∧ last.UpToDate ∧
      last.grid = s.grid := by
  obtain ⟨-, -, hnext, hgrid⟩ := h.of_update_eq_ok hupdate
  obtain ⟨hcell, -⟩ := update_eq_ok hupdate
  have hback : w.grid.write cell (s.grid.formula cell) = s.grid := by
    rw [hw.grid_eq, hgrid, Grid.write, Grid.write, Function.update_idem, Function.update_eq_self]
  have hcell' : w.contains cell = true := by
    rw [← contains_grid, hw.grid_eq, hgrid]
    exact hcell
  have hevaluates : s.grid.Evaluates := fun other hother => ⟨_, h.worth_eq other hother⟩
  obtain ⟨last, hlast, hdate, hlastgrid⟩ :=
    (hw.upToDate hnext).update_of_evaluates hcell' (hback.symm ▸ h.acyclic)
      (hback.symm ▸ hevaluates)
  exact ⟨last, hlast, hdate, hlastgrid.trans hback⟩

/-! ### Sheets that are reached -/

/-- **The state is a function of the formulas.** Two sheets that are reached in any two ways,
with the same built-ins, have the same values and the same dependents of each cell if they
have the same size and the same formulas. So an update is undone by writing the former formula
of the cell, in whatever order users are then listed: this succeeds, and every formula, every
value and all dependents are as before. -/
theorem Reached.determined (hbuiltins : t.builtins = t'.builtins) (hfree : FreeOfCells t.builtins)
    (hblank : t.blank = .empty ∨ ∃ n, t.blank = .const n)
    (hblank' : t'.blank = .empty ∨ ∃ n, t'.blank = .const n)
    (h : Reached t s) (h' : Reached t' s') :
    (s.rows = s'.rows → s.columns = s'.columns →
      (∀ cell, s.contains cell = true → s.formula? cell = s'.formula? cell) →
      ∀ cell, s'.value? cell = s.value? cell ∧ s'.usedBy cell = s.usedBy cell) ∧
    ∀ cell formula next, s.update cell formula = .ok next → ∀ w, next.Reordered w →
      ∃ former last, s.formula? cell = some former ∧ w.update cell former = .ok last ∧
        last.rows = s.rows ∧ last.columns = s.columns ∧
        ∀ other, last.formula? other = s.formula? other ∧ last.value? other = s.value? other ∧
          last.usedBy other = s.usedBy other := by
  have hdate := h.upToDate hfree hblank
  have hdate' := h'.upToDate (hbuiltins ▸ hfree) hblank'
  constructor
  · intro hrows hcolumns hformulas cell
    have hagrees : s.Agrees s' :=
      ⟨hrows, hcolumns, by rw [h.template.2, h'.template.2, hbuiltins], hformulas⟩
    exact ⟨hagrees.value?_eq hdate hdate' cell,
      hagrees.usedBy_eq hdate.toLinked hdate'.toLinked cell⟩
  · intro cell formula next hupdate w hw
    obtain ⟨hcell, -⟩ := update_eq_ok hupdate
    obtain ⟨last, hlast, hlastdate, hgrid⟩ := hdate.undo hupdate hw
    have hagrees := hdate.toLinked.agrees hlastdate.toLinked hgrid
    refine ⟨s.grid.formula cell, last, hdate.formula?_eq hcell, hlast, hagrees.rows.symm,
      hagrees.columns.symm, fun other => ⟨?_, ?_, ?_⟩⟩
    · exact hagrees.formula?_eq hdate.toLinked hlastdate.toLinked other
    · exact hagrees.value?_eq hdate hlastdate other
    · exact hagrees.usedBy_eq hdate.toLinked hlastdate.toLinked other

/-- A sheet whose first cell mentions the second has the value that it has when it is filled
in another order, and has it again after the second cell is overwritten and restored. -/
theorem Reached.determined_spelled :
    ∃ s s' next last, Reached ((Template.new .empty).bind "ten" (.const 10)) s ∧
      Reached ((Template.new .empty).bind "ten" (.const 10)) s' ∧
      s.value? ⟨0, 0⟩ = some (.const 11) ∧ s'.value? ⟨0, 0⟩ = some (.const 11) ∧
      s.update ⟨0, 1⟩ (.const 5) = .ok next ∧ next.value? ⟨0, 0⟩ = some (.const 6) ∧
      next.update ⟨0, 1⟩ (.ref "ten") = .ok last ∧ last.value? ⟨0, 0⟩ = some (.const 11) := by
  have hmake : ((Template.new .empty).bind "ten" (.const 10)).make 1 2 = .ok _ := rfl
  obtain ⟨s, s', hs, hs', hrows, hcolumns, hformulas, hvalue, hformula, hnext⟩ :
      ∃ s s', Reached ((Template.new .empty).bind "ten" (.const 10)) s ∧
        Reached ((Template.new .empty).bind "ten" (.const 10)) s' ∧
        s.rows = s'.rows ∧ s.columns = s'.columns ∧
        (∀ cell ∈ s.cells, s.formula? cell = s'.formula? cell) ∧
        s.value? ⟨0, 0⟩ = some (.const 11) ∧ s.formula? ⟨0, 1⟩ = some (.ref "ten") ∧
        (s.update ⟨0, 1⟩ (.const 5)).toOption.bind (·.value? ⟨0, 0⟩) = some (.const 6) := by
    refine ⟨_, _, .step (.step (.make hmake) (.write ⟨0, 1⟩ "ten")) (.write ⟨0, 0⟩ "B00 + 1"),
      .step (.step (.step (.make hmake) (.write ⟨0, 1⟩ "3")) (.write ⟨0, 0⟩ "B00 + 1"))
        (.write ⟨0, 1⟩ "ten"), ?_⟩
    decide +kernel
  obtain ⟨hsame, hundo⟩ := Reached.determined rfl
    (numeric_empty.insert "ten" 10).freeOfCells (Or.inl rfl) (Or.inl rfl) hs hs'
  have hvalue' := (hsame hrows hcolumns (fun cell hcell => hformulas cell (mem_cells.mpr hcell))
    ⟨0, 0⟩).1
  obtain ⟨next, hupdate, hnext⟩ := Option.bind_eq_some_iff.mp hnext
  rw [toOption_eq_some_iff] at hupdate
  obtain ⟨former, last, hformer, hlast, -, -, hback⟩ :=
    hundo ⟨0, 1⟩ (.const 5) next hupdate next (Reordered.refl next)
  rw [hformula, Option.some.injEq] at hformer
  subst hformer
  exact ⟨s, s', next, last, hs, hs', hvalue, hvalue'.trans hvalue, hupdate, hnext, hlast,
    (hback ⟨0, 0⟩).2.1.trans hvalue⟩

end Spreadsheet.Sheet
