import Mathlib.Tactic
import Spreadsheet.Proofs.Life.Neighbours
import Spreadsheet.Proofs.Sheet.Runs
import Spreadsheet.Proofs.Sheet.Unused

/-!
One generation of life.

The cells that die and those that are born are walked through in an order that nothing fixes, so
`stepAlong` is given the two lists. Where no formula mentions any of these cells the writes do not
get in each other's way, and the result is that of a rule by which all cells change at once.

* `livesOn_iff`: the rule, for one cell;
* `advance_unused`: what the writes lead to;
* `generation`: the next generation on a sheet without links between cells.
-/

namespace Spreadsheet.Life

open Sheet

variable {t : Template} {s next : Sheet} {cell : Location} {dying born : List Location}

/-- The next generation, with its number of living cells, if the cells that die and those that are
born are given. -/
def stepAlong (s : Sheet) (dying born : List Location) : Sheet × Except SheetFault Nat :=
  match advance s dying born with
  | (next, .ok ()) => (next, .ok (population s))
  | (next, .error fault) => (next, .error fault)

/-- Steps walk through the cells row by row. -/
lemma step_eq (s : Sheet) : step s = stepAlong s (deaths s) (births s) := rfl

/-! ### The rule -/

lemma livesOn_iff (hcell : s.contains cell = true) : livesOn s cell = true ↔
    liveAround s cell = 3 ∨ (isLive s cell = true ∧ liveAround s cell = 2) := by
  rw [livesOn, liveNeighbours_eq hcell]
  simp

lemma mem_deaths : cell ∈ deaths s ↔
    s.contains cell = true ∧ isLive s cell = true ∧ livesOn s cell = false := by
  rw [deaths, List.mem_filter, mem_cells, Bool.and_eq_true, Bool.not_eq_true']

lemma mem_births : cell ∈ births s ↔
    s.contains cell = true ∧ isLive s cell = false ∧ livesOn s cell = true := by
  rw [births, List.mem_filter, mem_cells, Bool.and_eq_true, Bool.not_eq_true']

lemma isLive_congr (h : next.value? cell = s.value? cell) : isLive next cell = isLive s cell := by
  rw [isLive, isLive, valueText, valueText, h]

lemma isLive_of_value {value : Expr} (h : s.value? cell = some value) :
    isLive s cell = (value.render == "1") := by
  rw [isLive, valueText, h]
  rfl

/-! ### The writes -/

/-- What is written into the cells that die and into those that are born. -/
structure Advanced (s : Sheet) (dying born : List Location) (next : Sheet) : Prop where
  rows : next.rows = s.rows
  columns : next.columns = s.columns
  formula? : ∀ cell, next.formula? cell =
    if cell ∈ born then some (.const 1) else if cell ∈ dying then some .empty else s.formula? cell
  value? : ∀ cell, next.value? cell =
    if cell ∈ born then some (.const 1) else if cell ∈ dying then some .empty else s.value? cell

lemma parse_empty : Formula.parse "" = .ok .empty := by decide +kernel

lemma parse_one : Formula.parse "1" = .ok (.const 1) := by decide +kernel

/-- The writes succeed if no formula mentions the cells. -/
theorem advance_unused (h : s.Linked)
    (hcells : ∀ cell, cell ∈ dying ∨ cell ∈ born → s.contains cell = true ∧ s.Unused cell) :
    ∃ next, advance s dying born = (next, .ok ()) ∧ next.Linked ∧ Advanced s dying born next := by
  obtain ⟨mid, hmid, hlinked, hfirst, hkeep⟩ := h.writeInto_unused parse_empty (Or.inl rfl)
    fun cell hcell => hcells cell (Or.inl hcell)
  obtain ⟨next, hnext, hlinked', hsecond, -⟩ := hlinked.writeInto_unused parse_one (Or.inr ⟨1, rfl⟩)
    fun cell hcell => by
      obtain ⟨hin, hunused⟩ := hcells cell (Or.inr hcell)
      exact ⟨(hfirst.contains_eq cell).trans hin, hkeep cell hunused⟩
  refine ⟨next, ?_, hlinked', hsecond.rows.trans hfirst.rows,
    hsecond.columns.trans hfirst.columns, fun cell => ?_, fun cell => ?_⟩
  · rw [advance, hmid]
    exact hnext
  · rw [hsecond.formula?, hfirst.formula?]
  · rw [hsecond.value?, hfirst.value?]

section Advanced

variable (h : Advanced s dying born next) (hdying : dying.Perm (deaths s))
  (hborn : born.Perm (births s))

include h hdying hborn

/-- After the writes the cells live that are to live by the rule. -/
lemma Advanced.isLive_eq (hcell : s.contains cell = true) :
    isLive next cell = livesOn s cell := by
  have hdies := (hdying.mem_iff (a := cell)).trans mem_deaths
  have hcomes := (hborn.mem_iff (a := cell)).trans mem_births
  have hvalue := h.value? cell
  by_cases hmem : cell ∈ born
  · rw [if_pos hmem] at hvalue
    rw [isLive_of_value hvalue, (hcomes.mp hmem).2.2]
    decide +kernel
  · rw [if_neg hmem] at hvalue
    by_cases hmem' : cell ∈ dying
    · rw [if_pos hmem'] at hvalue
      rw [isLive_of_value hvalue, (hdies.mp hmem').2.2]
      decide +kernel
    · rw [if_neg hmem'] at hvalue
      rw [isLive_congr hvalue]
      rw [hdies] at hmem'
      rw [hcomes] at hmem
      cases hlive : isLive s cell <;> cases hlives : livesOn s cell <;> simp_all

/-- The number of cells that are to live is that of the cells that live after the writes. -/
lemma Advanced.population_eq :
    population s = (next.cells.filter (isLive next)).length := by
  have hcells : next.cells = s.cells := by rw [Sheet.cells, Sheet.cells, h.rows, h.columns]
  rw [population, hcells]
  congr 1
  refine List.filter_congr fun cell hcell => ?_
  exact (h.isLive_eq hdying hborn (mem_cells.mp hcell)).symm

end Advanced

/-- What a cell of the next generation is, by the rule and by what it was. -/
structure Succeeds (s next : Sheet) (cell : Location) : Prop where
  /-- It lives if three cells that touch it did, or if two did and it lived itself. -/
  lives : isLive next cell = true ↔
    liveAround s cell = 3 ∨ (isLive s cell = true ∧ liveAround s cell = 2)
  /-- If it has died it is empty. -/
  died : isLive s cell = true → isLive next cell = false → next.formula? cell = some .empty
  /-- If it was born it holds `1`. -/
  born : isLive s cell = false → isLive next cell = true → next.formula? cell = some (.const 1)
  /-- Otherwise it has the formula and the value that it had. -/
  kept : isLive next cell = isLive s cell →
    next.formula? cell = s.formula? cell ∧ next.value? cell = s.value? cell

/-- The writes make a generation. -/
lemma Advanced.succeeds (h : Advanced s dying born next) (hdying : dying.Perm (deaths s))
    (hborn : born.Perm (births s)) (hcell : s.contains cell = true) : Succeeds s next cell := by
  have hlives := h.isLive_eq hdying hborn hcell
  have hdies := (hdying.mem_iff (a := cell)).trans mem_deaths
  have hcomes := (hborn.mem_iff (a := cell)).trans mem_births
  refine ⟨by rw [hlives, livesOn_iff hcell], fun hlive hdead => ?_, fun hdead hlive => ?_,
    fun hsame => ?_⟩
  · have hmem : cell ∈ dying := hdies.mpr ⟨hcell, hlive, hlives ▸ hdead⟩
    have hmem' : cell ∉ born := fun hmem => by
      rw [(hcomes.mp hmem).2.1] at hlive
      cases hlive
    rw [h.formula?, if_neg hmem', if_pos hmem]
  · rw [h.formula?, if_pos (hcomes.mpr ⟨hcell, hdead, hlives ▸ hlive⟩)]
  · rw [hlives] at hsame
    have hmem : cell ∉ dying := fun hmem => by
      obtain ⟨-, hlive, hdead⟩ := hdies.mp hmem
      rw [hlive, hdead] at hsame
      cases hsame
    have hmem' : cell ∉ born := fun hmem => by
      obtain ⟨-, hdead, hlive⟩ := hcomes.mp hmem
      rw [hlive, hdead] at hsame
      cases hsame
    rw [h.formula?, h.value?, if_neg hmem', if_neg hmem', if_neg hmem, if_neg hmem]
    exact ⟨rfl, rfl⟩

/-! ### Sheets without links between cells -/

/-- The step succeeds if the cells that die and those that are born are unused. -/
lemma stepAlong_unused (h : s.Linked) (hdying : dying.Perm (deaths s))
    (hborn : born.Perm (births s))
    (hunused : ∀ cell, cell ∈ deaths s ∨ cell ∈ births s → s.Unused cell) :
    ∃ next, stepAlong s dying born = (next, .ok (population s)) ∧ Advanced s dying born next := by
  have hcells : ∀ cell, cell ∈ dying ∨ cell ∈ born →
      s.contains cell = true ∧ s.Unused cell := by
    intro cell hcell
    rw [hdying.mem_iff, hborn.mem_iff] at hcell
    exact ⟨hcell.elim (fun h => (mem_deaths.mp h).1) fun h => (mem_births.mp h).1,
      hunused cell hcell⟩
  obtain ⟨next, hnext, -, hadvanced⟩ := advance_unused h hcells
  exact ⟨next, by rw [stepAlong, hnext], hadvanced⟩

/-- **The next generation.** On every sheet that is reached, if blank cells mention nothing and no
formula mentions a cell of the sheet, the step succeeds in whatever order the cells that die and
those that are born are walked through. Then a cell lives exactly if three of the cells of the sheet
that touch it did, or if two did and it lived itself; no more than eight touch it. The step returns
the number of these cells. A cell that has died is empty, one that was born holds `1`, and the
others keep formula and value. The rows and columns around a cell are found without a sum that
outgrows a word and without a difference below zero. -/
theorem generation (hblank : t.blank.dependencies = []) (h : Reached t s)
    (hloose : ∀ cell formula, s.formula? cell = some formula → ∀ name ∈ formula.dependencies,
      ∀ target, Location.ofName? name = some target → s.contains target = false)
    (hdying : dying.Perm (deaths s)) (hborn : born.Perm (births s)) :
    (∃ next count, stepAlong s dying born = (next, .ok count) ∧
      next.rows = s.rows ∧ next.columns = s.columns ∧
      (∀ cell, s.contains cell = true → Succeeds s next cell) ∧
      count = (next.cells.filter (isLive next)).length) ∧
    ∀ cell, s.contains cell = true →
      (s.cells.filter fun other => Touching cell other).length ≤ 8 ∧
      (∃ first last, ends? s.rows cell.row = some (first, last) ∧
        ∀ row, row ∈ around s.rows cell.row ↔ first ≤ row ∧ row ≤ last) ∧
      ∃ first last, ends? s.columns cell.column = some (first, last) ∧
        ∀ column, column ∈ around s.columns cell.column ↔ first ≤ column ∧ column ≤ last := by
  have hlinked := h.linked (Expr.names_eq_nil hblank)
  have hunused : ∀ cell, s.contains cell = true → s.Unused cell := fun cell hcell =>
    hlinked.unused_of_formulas fun user formula hformula name hname hspelled => by
      rw [hloose user formula hformula name hname cell hspelled] at hcell
      cases hcell
  obtain ⟨next, hstep, hadvanced⟩ := stepAlong_unused hlinked hdying hborn fun cell hcell =>
    hunused cell (hcell.elim (fun h => (mem_deaths.mp h).1) fun h => (mem_births.mp h).1)
  refine ⟨⟨next, _, hstep, hadvanced.rows, hadvanced.columns,
    fun cell hcell => hadvanced.succeeds hdying hborn hcell,
    hadvanced.population_eq hdying hborn⟩, fun cell hcell => ⟨length_touching_le hcell, ?_, ?_⟩⟩
  · exact exists_ends (contains_iff.mp hcell).1 hlinked.rows_lt
  · have hcolumns : s.columns < Text.wordLimit :=
      lt_of_le_of_lt hlinked.columns_le (by decide)
    exact exists_ends (contains_iff.mp hcell).2 hcolumns

/-- A row of three living cells, one of them by a formula, and a cell that mentions one that is not
there. -/
lemma exists_row : ∃ s, Reached (Template.new .empty) s ∧
    (∀ cell ∈ s.cells, ∀ formula ∈ s.formula? cell, s.targets formula = []) ∧
    s.formula? ⟨1, 1⟩ = some (.op .minus [.const 2, .const 1]) ∧
    s.formula? ⟨2, 2⟩ = some (.ref "A3") ∧
    s.contains ⟨0, 1⟩ = true ∧ s.contains ⟨1, 1⟩ = true ∧
    isLive s ⟨0, 1⟩ = false ∧ liveAround s ⟨0, 1⟩ = 3 ∧
    isLive s ⟨1, 1⟩ = true ∧ liveAround s ⟨1, 1⟩ = 2 ∧ population s = 3 := by
  have hmake : (Template.new .empty).make 3 3 = .ok _ := rfl
  refine ⟨_, .step (.step (.step (.step (.make hmake) (.write ⟨1, 0⟩ "1"))
    (.write ⟨1, 1⟩ "2 - 1")) (.write ⟨1, 2⟩ "1")) (.write ⟨2, 2⟩ "A3"), ?_⟩
  decide +kernel

/-- The row above turns: the cell above its middle is born, three cells live, and the middle keeps
its formula. -/
theorem generation_row : ∃ s, Reached (Template.new .empty) s ∧
    s.formula? ⟨1, 1⟩ = some (.op .minus [.const 2, .const 1]) ∧
    s.formula? ⟨2, 2⟩ = some (.ref "A3") ∧ isLive s ⟨0, 1⟩ = false ∧
    ∃ next, stepAlong s (deaths s).reverse (births s).reverse = (next, .ok 3) ∧
      (next.cells.filter (isLive next)).length = 3 ∧
      Succeeds s next ⟨0, 1⟩ ∧ isLive next ⟨0, 1⟩ = true ∧ next.formula? ⟨0, 1⟩ = some (.const 1) ∧
      Succeeds s next ⟨1, 1⟩ ∧ isLive next ⟨1, 1⟩ = true ∧
      next.formula? ⟨1, 1⟩ = some (.op .minus [.const 2, .const 1]) := by
  obtain ⟨s, hs, htargets, hmiddle, hcorner, htop, hcentre, hdead, hthree, hlive, htwo,
    hpopulation⟩ := exists_row
  have hlinked := hs.linked (by decide)
  have hloose : ∀ cell formula, s.formula? cell = some formula → ∀ name ∈ formula.dependencies,
      ∀ target, Location.ofName? name = some target → s.contains target = false := by
    intro cell formula hformula name hname target htarget
    have hcell := (hlinked.mem_formulas cell).mp (mem_of_getElem?_eq_some hformula)
    have hnone := htargets cell (mem_cells.mpr hcell) formula hformula
    rw [targets, List.filter_eq_nil_iff] at hnone
    simpa using hnone target (List.mem_filterMap.mpr ⟨name, hname, htarget⟩)
  obtain ⟨⟨next, count, hstep, hrows, hcolumns, hnext, hcount⟩, -⟩ := generation (by decide) hs
    hloose (List.reverse_perm (deaths s)) (List.reverse_perm (births s))
  have hcells : next.cells = s.cells := by rw [Sheet.cells, Sheet.cells, hrows, hcolumns]
  have hliving : (next.cells.filter (isLive next)).length = 3 := by
    rw [hcells, ← hpopulation, population]
    refine congrArg List.length (List.filter_congr fun cell hcell => ?_)
    have hin := mem_cells.mp hcell
    rw [Bool.eq_iff_iff, (hnext cell hin).lives, livesOn_iff hin]
  have hborn : isLive next ⟨0, 1⟩ = true := (hnext _ htop).lives.mpr (Or.inl hthree)
  have hstays : isLive next ⟨1, 1⟩ = true := (hnext _ hcentre).lives.mpr (Or.inr ⟨hlive, htwo⟩)
  refine ⟨s, hs, hmiddle, hcorner, hdead, next, ?_, hliving, hnext _ htop, hborn,
    (hnext _ htop).born hdead hborn, hnext _ hcentre, hstays, ?_⟩
  · rw [hstep, hcount, hliving]
  · rw [((hnext _ hcentre).kept (hstays.trans hlive.symm)).1, hmiddle]

end Spreadsheet.Life
