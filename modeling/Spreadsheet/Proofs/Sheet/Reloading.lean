import Mathlib.Tactic
import Spreadsheet.Proofs.Sheet.Determined
import Spreadsheet.Proofs.Sheet.Loading
import Spreadsheet.Proofs.Sheet.Typed

/-!
Saving a sheet and loading it again.

An operator on a single operand, as in `5 <`, is written like its operand, and is lost when
the sheet is loaded. Nothing else is:

* `Typed.saved_exact`: a saved sheet tells its size and the text of each formula in it;
* `FromText.saved_formula`: a saved sheet asks for its formulas without such operators;
* `Typed.saved_load`: so it is saved again as it was saved before, whenever it is loaded;
* `Typed.load_saved_iff`: and it is loaded with the same formulas and values exactly if there
  are no such operators in its formulas.
-/

namespace Spreadsheet.Sheet

variable {t : Template} {s s' fresh last : Sheet} {cell : Location} {rows columns count : Nat}

/-! ### What a saved sheet asks for -/

namespace FromText

lemma size_saved (h : s.FromText) (hlinked : s.Linked) :
    Saved.size s.saved = .ok (s.rows, s.columns) :=
  h.legible.size_saved hlinked.rows_lt (lt_of_le_of_lt hlinked.columns_le (by decide))

lemma cells_saved (h : s.FromText) (hlinked : s.Linked) : Saved.cells s.saved = .ok s.entries :=
  h.legible.cells_saved hlinked.rows_lt (lt_of_le_of_lt hlinked.columns_le (by decide))
    hlinked.columns_pos

/-- A cell is listed with the text of its formula, unless the formula is empty. -/
lemma listed?_eq (h : s.FromText) {formula : Expr} (hformula : s.formula? cell = some formula) :
    s.listed? cell = if formula = .empty then none else some (cell, formula.render) := by
  have htext : s.formulaText cell = formula.render := by
    rw [formulaText_eq h.blank_eq, grid_formula hformula]
  have hempty : s.formulaText cell = "" ↔ formula = .empty := by
    constructor
    · intro hnone
      rw [← grid_formula hformula, h.formula_eq_empty hnone]
    · rintro rfl
      rw [htext]
      rfl
  simp only [listed?, hempty]
  rw [htext]

lemma parse_entry (h : s.FromText) {entry : Location × String} (hentry : entry ∈ s.entries) :
    Formula.parse entry.2 = .ok (s.grid.formula entry.1).collapse := by
  obtain ⟨-, htext, -⟩ := mem_entries.mp hentry
  rw [htext, formulaText_eq h.blank_eq]
  exact (h.entered entry.1).parse_render_eq_collapse

/-- **What a saved sheet asks for** in each cell is the formula without its operators on a single
operand. -/
theorem saved_formula (h : s.FromText) (hlinked : s.Linked) (cell : Location) :
    Saved.formula s.entries cell = (s.grid.formula cell).collapse := by
  by_cases hmem : cell ∈ s.entries.map Prod.fst
  · obtain ⟨entry, hentry, rfl⟩ := List.mem_map.mp hmem
    have hlists := lists_grid (h.size_saved hlinked) (h.cells_saved hlinked) s.rows s.columns ∅
    exact Saved.formula_of_mem hlists.1 hentry (h.parse_entry hentry)
  · have hempty : s.grid.formula cell = .empty := by
      by_cases hcell : s.contains cell = true
      · refine h.formula_eq_empty ?_
        by_contra htext
        exact hmem (mem_map_entries.mpr ⟨hcell, htext⟩)
      · rw [hlinked.grid_formula_of_not_contains hcell, h.blank_eq]
    rw [Saved.formula_of_notMem hmem, hempty, Expr.collapse]

end FromText

/-- **What a saved sheet tells.** From the text that a sheet is saved as, if it is reached with
formulas entered as texts, its size is read, and row by row the cells whose formulas are not
empty, each with the text of its formula. -/
theorem Typed.saved_exact (hblank : t.blank = .empty) (h : Typed t s) :
    Saved.size s.saved = .ok (s.rows, s.columns) ∧
      Saved.cells s.saved = .ok (s.cells.filterMap fun cell =>
        (s.formula? cell).bind fun formula =>
          if formula = .empty then none else some (cell, formula.render)) := by
  have hnames := names_blank (Or.inl hblank)
  have hlinked := h.reached.linked hnames
  have htext := h.fromText hblank
  refine ⟨htext.size_saved hlinked, ?_⟩
  rw [htext.cells_saved hlinked, entries]
  refine congrArg Except.ok (List.filterMap_congr fun cell hcell => ?_)
  have hformula := hlinked.formula?_eq (mem_cells.mp hcell)
  rw [htext.listed?_eq hformula, hformula, Option.bind_some]

/-- Of three rows of one column the last two are empty, and the text ends with them. -/
theorem Typed.saved_exact_column : ∃ s, Typed (Template.new .empty) s ∧
    s.saved = "3|1\n7 + 1\n\n\n" ∧ Saved.size s.saved = .ok (3, 1) ∧
    Saved.cells s.saved = .ok [(⟨0, 0⟩, "7 + 1")] := by
  have hmake : (Template.new .empty).make 3 1 = .ok _ := rfl
  obtain ⟨s, hs, htext, hrows, hcolumns, hlisted⟩ :
      ∃ s, Typed (Template.new .empty) s ∧ s.saved = "3|1\n7 + 1\n\n\n" ∧ s.rows = 3 ∧
        s.columns = 1 ∧ (s.cells.filterMap fun cell => (s.formula? cell).bind fun formula =>
          if formula = .empty then none else some (cell, formula.render)) =
            [(⟨0, 0⟩, "7 + 1")] := by
    refine ⟨_, .step (.make hmake) (.write ⟨0, 0⟩ "007+1"), ?_⟩
    decide +kernel
  obtain ⟨hsize, hcells⟩ := Typed.saved_exact rfl hs
  rw [hrows, hcolumns] at hsize
  rw [hlisted] at hcells
  exact ⟨s, hs, htext, hsize, hcells⟩

/-! ### Saving again -/

lemma saved_congr (hrows : s.rows = s'.rows) (hcolumns : s.columns = s'.columns)
    (htext : ∀ cell, s.formulaText cell = s'.formulaText cell) : s.saved = s'.saved := by
  rw [saved, saved, encode, encode, savedLines, savedLines, hrows, hcolumns]
  simp only [htext]

/-- What is loaded into an empty sheet that is not larger is saved as it was saved before. -/
theorem FromText.saved_of_load_eq_ok (h : s.FromText) (hlinked : s.Linked) (hfresh : fresh.Linked)
    (hblank : fresh.blank = .empty) (hrows : fresh.rows ≤ s.rows)
    (hcolumns : fresh.columns ≤ s.columns) (hload : fresh.load s.saved = .ok (last, count)) :
    last.saved = s.saved := by
  obtain ⟨-, -, -, hgrid⟩ :=
    hfresh.of_load_eq_ok hblank (h.size_saved hlinked) (h.cells_saved hlinked) hload
  rw [max_eq_left hrows, max_eq_left hcolumns] at hgrid
  have hlast : last.blank = .empty :=
    ((kept_template (t := ⟨fresh.builtins, .empty⟩)).byText.load ⟨hblank, rfl⟩ hload).1
  refine saved_congr (congrArg Grid.rows hgrid) (congrArg Grid.columns hgrid) fun cell => ?_
  have hformula : last.grid.formula cell = (s.grid.formula cell).collapse := by
    rw [hgrid]
    exact h.saved_formula hlinked cell
  rw [formulaText_eq hlast, formulaText_eq h.blank_eq, hformula, Expr.render, Expr.render,
    Expr.text_collapse]

/-- **Saving is stable.** A sheet that is reached with formulas entered as texts, saved and
loaded into a new one that is not larger, is saved as it was saved before, whatever the
built-ins are. -/
theorem Typed.saved_load (hblank : t.blank = .empty) (h : Typed t s)
    (hmake : t.make rows columns = .ok fresh) (hrows : rows ≤ s.rows)
    (hcolumns : columns ≤ s.columns) (hload : fresh.load s.saved = .ok (last, count)) :
    last.saved = s.saved := by
  have hnames := names_blank (Or.inl hblank)
  obtain ⟨hrows', hcolumns', hblank', -⟩ := make_eq_ok hmake
  exact (h.fromText hblank).saved_of_load_eq_ok (h.reached.linked hnames) (linked_make hnames hmake)
    (hblank'.trans hblank) (hrows'.trans_le hrows) (hcolumns'.trans_le hcolumns) hload

/-- A sheet of one cell with an operator on a single operand, and what is loaded of it. -/
lemma exists_single : ∃ s fresh last count, Typed (Template.new .empty) s ∧
    (Template.new .empty).make 1 1 = .ok fresh ∧ s.rows = 1 ∧ s.columns = 1 ∧
    fresh.load s.saved = .ok (last, count) ∧
    s.formula? ⟨0, 0⟩ = some (.op .less [.const 5]) ∧ s.value? ⟨0, 0⟩ = some (.const 1) ∧
    last.formula? ⟨0, 0⟩ = some (.const 5) ∧ last.value? ⟨0, 0⟩ = some (.const 5) := by
  have hmake : (Template.new .empty).make 1 1 = .ok _ := rfl
  obtain ⟨s, fresh, hs, hfresh, hrows, hcolumns, hformula, hvalue, hload⟩ :
      ∃ s fresh, Typed (Template.new .empty) s ∧ (Template.new .empty).make 1 1 = .ok fresh ∧
        s.rows = 1 ∧ s.columns = 1 ∧ s.formula? ⟨0, 0⟩ = some (.op .less [.const 5]) ∧
        s.value? ⟨0, 0⟩ = some (.const 1) ∧
        (fresh.load s.saved).toOption.map (fun result =>
          (result.1.formula? ⟨0, 0⟩, result.1.value? ⟨0, 0⟩)) =
            some (some (.const 5), some (.const 5)) := by
    refine ⟨_, _, .step (.make hmake) (.write ⟨0, 0⟩ "5 <"), hmake, ?_⟩
    decide +kernel
  obtain ⟨result, hresult, hlast⟩ := Option.map_eq_some_iff.mp hload
  obtain ⟨hformula', hvalue'⟩ := Prod.mk.inj hlast
  exact ⟨s, fresh, result.1, result.2, hs, hfresh, hrows, hcolumns,
    toOption_eq_some_iff.mp hresult, hformula, hvalue, hformula', hvalue'⟩

/-- The sheet above is saved as it was before, though its value is another one. -/
theorem Typed.saved_load_single : ∃ s fresh last count, Typed (Template.new .empty) s ∧
    (Template.new .empty).make 1 1 = .ok fresh ∧ fresh.load s.saved = .ok (last, count) ∧
    s.value? ⟨0, 0⟩ = some (.const 1) ∧ last.value? ⟨0, 0⟩ = some (.const 5) ∧
    last.saved = s.saved := by
  obtain ⟨s, fresh, last, count, hs, hmake, hrows, hcolumns, hload, -, hvalue, -, hvalue'⟩ :=
    exists_single
  exact ⟨s, fresh, last, count, hs, hmake, hload, hvalue, hvalue',
    Typed.saved_load rfl hs hmake hrows.ge hcolumns.ge hload⟩

/-! ### Loading again -/

/-- A new sheet of the same size can be made. -/
lemma Linked.exists_make (h : s.Linked) (t : Template) :
    ∃ fresh, t.make s.rows s.columns = .ok fresh :=
  make_of_validSize t h.rows_pos h.columns_pos h.validSize

/-- Without operators on a single operand, what is saved asks for the formulas of the sheet. -/
lemma FromText.saved_grid (h : s.FromText) (hlinked : s.Linked)
    (hjoins : ∀ cell, (s.grid.formula cell).Joins) :
    Saved.grid s.rows s.columns s.builtins s.entries = s.grid := by
  rw [Saved.grid]
  refine congrArg _ (funext fun cell => ?_)
  rw [h.saved_formula hlinked]
  exact (hjoins cell).collapse_eq

/-- Then it can be loaded into an empty sheet of the same size and with the same built-ins, and
leads to the grid that was saved. -/
lemma FromText.exists_load_saved (h : s.FromText) (hdate : s.UpToDate)
    (hjoins : ∀ cell, (s.grid.formula cell).Joins) (hfresh : fresh.UpToDate)
    (hblank : fresh.blank = .empty) (hrows : fresh.rows = s.rows)
    (hcolumns : fresh.columns = s.columns) (hbuiltins : fresh.builtins = s.builtins) :
    ∃ last count, fresh.load s.saved = .ok (last, count) ∧ last.UpToDate ∧ last.grid = s.grid := by
  have hsize := h.size_saved hdate.toLinked
  have hcells := h.cells_saved hdate.toLinked
  have hgrid : Saved.grid (max s.rows fresh.rows) (max s.columns fresh.columns) fresh.builtins
      s.entries = s.grid := by
    rw [hrows, hcolumns, hbuiltins, max_self, max_self]
    exact h.saved_grid hdate.toLinked hjoins
  obtain ⟨⟨last, count⟩, hload⟩ := hfresh.exists_load hblank hsize hcells
    (by rw [hcolumns, max_self]; exact hdate.columns_le)
    (fun entry hentry => ⟨_, h.parse_entry hentry⟩) (hgrid ▸ hdate.acyclic)
    (hgrid ▸ fun cell hcell => ⟨_, hdate.worth_eq cell hcell⟩)
  obtain ⟨-, -, -, hlast, hlastgrid⟩ := hfresh.of_load_eq_ok hblank hsize hcells hload
  exact ⟨last, count, hload, hlast, hlastgrid.trans hgrid⟩

/-- If the formulas are the same after loading, none of them has an operator on a single
operand. -/
lemma FromText.joins_of_load (h : s.FromText) (hlinked : s.Linked) (hfresh : fresh.Linked)
    (hblank : fresh.blank = .empty) (hload : fresh.load s.saved = .ok (last, count))
    {formula : Expr} (hformula : s.formula? cell = some formula)
    (hsame : last.formula? cell = s.formula? cell) : formula.Joins := by
  obtain ⟨-, -, -, hgrid⟩ :=
    hfresh.of_load_eq_ok hblank (h.size_saved hlinked) (h.cells_saved hlinked) hload
  have hlast : last.grid.formula cell = (s.grid.formula cell).collapse := by
    rw [hgrid]
    exact h.saved_formula hlinked cell
  rw [grid_formula hformula, grid_formula (hsame.trans hformula)] at hlast
  have hentered := h.entered cell
  rw [grid_formula hformula] at hentered
  exact hentered.collapse_eq_iff.mp hlast.symm

/-- **When loading restores what was saved.** A sheet that is reached with formulas entered as
texts is loaded into a new one of the same size and with the same built-ins, with all its
formulas and all its values, exactly if each operator in its formulas has two operands or
more. -/
theorem Typed.load_saved_iff (hfree : FreeOfCells t.builtins) (hblank : t.blank = .empty)
    (h : Typed t s) : ∃ fresh, t.make s.rows s.columns = .ok fresh ∧
      ((∃ last count, fresh.load s.saved = .ok (last, count) ∧
          ∀ cell, last.formula? cell = s.formula? cell ∧ last.value? cell = s.value? cell) ↔
        ∀ cell formula, s.formula? cell = some formula → formula.Joins) := by
  have htext := h.fromText hblank
  have hdate := h.reached.upToDate hfree (Or.inl hblank)
  obtain ⟨fresh, hmake⟩ := hdate.exists_make t
  have hfresh := upToDate_make hfree (Or.inl hblank) hmake
  obtain ⟨hrows, hcolumns, hblank', hbuiltins⟩ := make_eq_ok hmake
  have hempty : fresh.blank = .empty := hblank'.trans hblank
  refine ⟨fresh, hmake, ?_, fun hjoins => ?_⟩
  · rintro ⟨last, count, hload, hsame⟩ cell formula hformula
    exact htext.joins_of_load hdate.toLinked hfresh.toLinked hempty hload hformula (hsame cell).1
  -- cells beyond the sheet are empty, and nothing is said about their formulas
  · have hall : ∀ cell, (s.grid.formula cell).Joins := fun cell => by
      by_cases hcell : s.contains cell = true
      · exact hjoins cell _ (hdate.formula?_eq hcell)
      · rw [hdate.grid_formula_of_not_contains hcell, htext.blank_eq]
        exact Expr.everywhere_of_ne (by simp)
    obtain ⟨last, count, hload, hlast, hgrid⟩ := htext.exists_load_saved hdate hall hfresh hempty
      hrows hcolumns (hbuiltins.trans h.reached.template.2.symm)
    have hagrees := hdate.toLinked.agrees hlast.toLinked hgrid
    exact ⟨last, count, hload, fun cell =>
      ⟨hagrees.formula?_eq hdate.toLinked hlast.toLinked cell, hagrees.value?_eq hdate hlast cell⟩⟩

/-- A sheet whose first cell mentions the second by another spelling is restored. -/
theorem Typed.load_saved_spelled :
    ∃ s fresh last count, Typed ((Template.new .empty).bind "ten" (.const 10)) s ∧
      ((Template.new .empty).bind "ten" (.const 10)).make s.rows s.columns = .ok fresh ∧
      fresh.load s.saved = .ok (last, count) ∧
      s.value? ⟨0, 0⟩ = some (.const 11) ∧ last.value? ⟨0, 0⟩ = some (.const 11) := by
  have hmake : ((Template.new .empty).bind "ten" (.const 10)).make 1 2 = .ok _ := rfl
  obtain ⟨s, hs, hformulas, hvalue⟩ :
      ∃ s, Typed ((Template.new .empty).bind "ten" (.const 10)) s ∧
        (∀ cell ∈ s.cells, s.formula? cell = some (.op .plus [.ref "B00", .const 1]) ∨
          s.formula? cell = some (.ref "ten")) ∧ s.value? ⟨0, 0⟩ = some (.const 11) := by
    refine ⟨_, .step (.step (.make hmake) (.write ⟨0, 1⟩ "ten")) (.write ⟨0, 0⟩ "B00 + 1"), ?_⟩
    decide +kernel
  have hlinked := hs.reached.linked rfl
  have hjoins : ∀ cell formula, s.formula? cell = some formula → formula.Joins := by
    intro cell formula hformula
    have hcell := (hlinked.mem_formulas cell).mp (mem_of_getElem?_eq_some hformula)
    rcases hformulas cell (mem_cells.mpr hcell) with hcell | hcell
    · obtain rfl := Option.some.inj (hcell.symm.trans hformula)
      refine Expr.everywhere_op_iff.mpr ⟨by decide, fun e he => Expr.everywhere_of_ne ?_⟩
      rintro operator operands rfl
      simp at he
    · obtain rfl := Option.some.inj (hcell.symm.trans hformula)
      exact Expr.everywhere_of_ne (by simp)
  obtain ⟨fresh, hfresh, hrestored⟩ :=
    Typed.load_saved_iff (numeric_empty.insert "ten" 10).freeOfCells rfl hs
  obtain ⟨last, count, hload, hsame⟩ := hrestored.mpr hjoins
  exact ⟨s, fresh, last, count, hs, hfresh, hload, hvalue, (hsame ⟨0, 0⟩).2.trans hvalue⟩

/-- An operator on a single operand is not restored: `5 <` is worth one, and comes back as five.
And a sheet with a quotient by `0 <` cannot be loaded at all. -/
theorem Typed.load_saved_single :
    (∃ s fresh last count, Typed (Template.new .empty) s ∧
      (Template.new .empty).make s.rows s.columns = .ok fresh ∧
      fresh.load s.saved = .ok (last, count) ∧
      s.formula? ⟨0, 0⟩ = some (.op .less [.const 5]) ∧ last.formula? ⟨0, 0⟩ = some (.const 5) ∧
      s.value? ⟨0, 0⟩ = some (.const 1) ∧ last.value? ⟨0, 0⟩ = some (.const 5)) ∧
    ∃ s fresh, Typed (Template.new .empty) s ∧
      (Template.new .empty).make s.rows s.columns = .ok fresh ∧
      s.value? ⟨0, 1⟩ = some (.const 1) ∧ ∀ result, fresh.load s.saved ≠ .ok result := by
  constructor
  · obtain ⟨s, fresh, last, count, hs, hmake, hrows, hcolumns, hload, hrest⟩ := exists_single
    have hmake' : (Template.new .empty).make s.rows s.columns = .ok fresh := by
      rw [hrows, hcolumns, hmake]
    obtain ⟨hformula, hvalue, hformula', hvalue'⟩ := hrest
    exact ⟨s, fresh, last, count, hs, hmake', hload, hformula, hformula', hvalue, hvalue'⟩
  · have hmake : (Template.new .empty).make 1 2 = .ok _ := rfl
    obtain ⟨s, fresh, hs, hrows, hcolumns, hfresh, hvalue, hload⟩ :
        ∃ s fresh, Typed (Template.new .empty) s ∧ s.rows = 1 ∧ s.columns = 2 ∧
          (Template.new .empty).make 1 2 = .ok fresh ∧ s.value? ⟨0, 1⟩ = some (.const 1) ∧
          (fresh.load s.saved).isOk = false := by
      refine ⟨_, _, .step (.step (.make hmake) (.write ⟨0, 0⟩ "0 <")) (.write ⟨0, 1⟩ "1 / A0"),
        ?_, ?_, hmake, ?_⟩ <;> decide +kernel
    refine ⟨s, fresh, hs, by rw [hrows, hcolumns, hfresh], hvalue, fun result hresult => ?_⟩
    rw [hresult] at hload
    cases hload

end Spreadsheet.Sheet
