import Mathlib.Tactic
import Spreadsheet.Proofs.Sheet.Determined

/-!
Growing against evaluation from scratch.

When a sheet grows, formulas that mention cells beyond its old edges are linked to these
cells, names that were those of built-ins before may become names of cells, and values
are found anew from many cells at once. These cells and their users are kept in sets,
and nothing fixes the order in which those are walked through.

* `UpToDate.grows_ok`: what is new on a sheet that has grown, and what is as before, in any
  of these orders (`Grows`);
* `Reached.resize_exact`: when growing succeeds, and what it returns, by the larger grid
  alone.
-/

namespace Spreadsheet.Sheet

open Relation

variable {t : Template} {s next : Sheet} {rows columns : Nat}

/-- What growing leaves if it succeeds: the old formulas, blanks in the new cells, every
value as from scratch, and the old values in the cells that do not depend on new ones. -/
lemma UpToDate.grows_ok (h : s.UpToDate) (hgrows : s.Grows rows columns (.ok next)) :
    next.rows = rows ∧ next.columns = columns ∧
    (∀ cell, s.contains cell = true → next.formula? cell = s.formula? cell) ∧
    (∀ cell, next.contains cell = true → ¬ s.contains cell = true →
      next.formula? cell = some s.blank) ∧
    (∀ cell, next.contains cell = true → ∃ value, next.value? cell = some value ∧
      (s.grid.resize rows columns).worth cell = .ok value) ∧
    ∀ cell, s.contains cell = true →
      (∀ source, next.contains source = true → ¬ s.contains source = true →
        ¬ TransGen (s.grid.resize rows columns).Feeds source cell) →
      next.value? cell = s.value? cell := by
  rcases h.grows_spec hgrows with
    ⟨-, hfault⟩ | ⟨-, _, hfault, -⟩ | ⟨⟨hrows, hcolumns, -⟩, -, last, hlast, hdate, hgrid⟩
  · cases hfault
  · cases hfault
  obtain rfl : next = last := Except.ok.inj hlast
  have hcontains : ∀ cell, next.contains cell = (s.grid.resize rows columns).contains cell :=
    fun cell => congrArg (Grid.contains · cell) hgrid
  have hold : ∀ cell, s.contains cell = true → next.contains cell = true := fun cell hcell =>
    (hcontains cell).trans (contains_resize hrows hcolumns hcell)
  have hformula : next.grid.formula = s.grid.formula := by
    rw [hgrid]
    rfl
  have hworth : ∀ cell, next.contains cell = true →
      (s.grid.resize rows columns).worth cell = .ok (next.current cell) := fun cell hcell => by
    rw [← hgrid, hdate.worth_eq cell hcell]
  refine ⟨congrArg Grid.rows hgrid, congrArg Grid.columns hgrid, fun cell hcell => ?_,
    fun cell hcell hnew => ?_, fun cell hcell => ⟨_, hdate.value?_eq hcell, hworth cell hcell⟩,
    fun cell hcell hfar => ?_⟩
  · rw [hdate.formula?_eq (hold cell hcell), h.formula?_eq hcell, hformula]
  · rw [hdate.formula?_eq hcell, hformula, h.grid_formula_of_not_contains hnew]
  -- a path from a new cell would start with a link from one that lies on the grown sheet
  · have hsame : (s.grid.resize rows columns).worth cell = s.grid.worth cell := by
      refine h.worth_resize hrows hcolumns hcell fun source hsource hpath => ?_
      obtain ⟨_, hfeeds, -⟩ := TransGen.head'_iff.mp hpath
      exact hfar source ((hcontains source).trans hfeeds.contains) hsource hpath
    rw [hworth cell (hold cell hcell), h.worth_eq cell hcell, Except.ok.injEq] at hsame
    rw [hdate.value?_eq (hold cell hcell), h.value?_eq hcell, hsame]

/-- **Growing agrees with evaluation from scratch.** Growing to any number of rows that a
machine word can hold takes one of the orders that nothing fixes, and in each of them the
following holds on every sheet that is reached. Growing is refused because of the size
exactly if a side would get shorter or there would be too many columns. Else it closes no
cycle, and succeeds exactly if every cell of the larger grid, on which a name that now
spells a cell means that cell and nothing else, is worth something from scratch; if not,
some formula has no worth. If it succeeds the sheet has the new size, the old formulas,
blanks in the new cells and the values from scratch, and the cells that do not depend on
new ones keep their values. If it fails the sheet is as before. -/
theorem Reached.resize_exact (hfree : FreeOfCells t.builtins)
    (hblank : t.blank = .empty ∨ ∃ n, t.blank = .const n) (h : Reached t s)
    (rows columns : Nat) (hword : rows < Text.wordLimit) :
    s.Grows rows columns (s.resize rows columns) ∧
    ∀ result, s.Grows rows columns result →
      (result = .error (.dimensions rows columns) ↔
        rows < s.rows ∨ columns < s.columns ∨ maxColumns < columns) ∧
      (s.rows ≤ rows → s.columns ≤ columns → columns ≤ maxColumns →
        (s.grid.resize rows columns).Acyclic ∧
        ((∃ next, result = .ok next) ↔ (s.grid.resize rows columns).Evaluates) ∧
        (¬ (s.grid.resize rows columns).Evaluates → ∃ fault,
          result = .error (.evaluation fault) ∧
          ∃ cell, (s.grid.resize rows columns).contains cell = true ∧
            (s.grid.resize rows columns).worth cell = .error fault)) ∧
      (∀ next, result = .ok next →
        next.rows = rows ∧ next.columns = columns ∧
        (∀ cell, s.contains cell = true → next.formula? cell = s.formula? cell) ∧
        (∀ cell, next.contains cell = true → ¬ s.contains cell = true →
          next.formula? cell = some s.blank) ∧
        (∀ cell, next.contains cell = true → ∃ value, next.value? cell = some value ∧
          (s.grid.resize rows columns).worth cell = .ok value) ∧
        ∀ cell, s.contains cell = true →
          (∀ source, next.contains source = true → ¬ s.contains source = true →
            ¬ TransGen (s.grid.resize rows columns).Feeds source cell) →
          next.value? cell = s.value? cell) ∧
      ∀ fault, result = .error fault → s.after result = s := by
  have hdate := h.upToDate hfree hblank
  have hsize : ¬ (s.rows ≤ rows ∧ s.columns ≤ columns ∧ validSize rows columns = true) ↔
      rows < s.rows ∨ columns < s.columns ∨ maxColumns < columns := by
    rw [validSize_iff, and_iff_right hword, not_and_or, not_and_or, not_le, not_le, not_le]
  refine ⟨grows_resize s rows columns, fun result hgrows => ?_⟩
  refine and_assoc.mp ⟨?_, fun next hnext => hdate.grows_ok (hnext ▸ hgrows),
    fun fault hfault => ?_⟩
  -- refused, a formula without worth, or success
  · rcases hdate.grows_spec hgrows with
      ⟨hout, hresult⟩ | ⟨hin, fault, hresult, cell, hcell, hworth⟩ |
        ⟨hin, hevaluates, next, hresult, -⟩
    · refine ⟨iff_of_true hresult (hsize.mp hout), fun hrows hcolumns hmax => ?_⟩
      exact absurd (hsize.mp hout) (by simp [hrows, hcolumns, hmax])
    · have hstuck : ¬ (s.grid.resize rows columns).Evaluates := fun hall => by
        obtain ⟨value, hvalue⟩ := hall cell hcell
        exact absurd (hworth.symm.trans hvalue) (by simp)
      rw [hresult]
      refine ⟨iff_of_false (by simp) (hsize.not.mp (not_not_intro hin)), fun hrows hcolumns _ => ?_⟩
      exact ⟨hdate.acyclic_resize hrows hcolumns, iff_of_false (by simp) hstuck,
        fun _ => ⟨fault, rfl, cell, hcell, hworth⟩⟩
    · rw [hresult]
      refine ⟨iff_of_false (by simp) (hsize.not.mp (not_not_intro hin)), fun hrows hcolumns _ => ?_⟩
      exact ⟨hdate.acyclic_resize hrows hcolumns, iff_of_true ⟨next, rfl⟩ hevaluates,
        fun hstuck => absurd hevaluates hstuck⟩
  · rw [hfault]
    rfl

/-- A sheet of one cell that mentions a built-in loses sight of it when a second cell gets
its name: the first cell then is worth as little as the second. If it needs a number there,
the sheet cannot be grown. -/
theorem resize_exact_hidden :
    (∃ s next, Reached ((Template.new .empty).bind "B0" (.const 10)) s ∧
      s.value? ⟨0, 0⟩ = some (.const 10) ∧ s.resize 1 2 = .ok next ∧ next.columns = 2 ∧
      next.value? ⟨0, 0⟩ = some .empty ∧ (s.grid.resize 1 2).worth ⟨0, 0⟩ = .ok .empty) ∧
    ∃ s, Reached ((Template.new .empty).bind "B0" (.const 10)) s ∧
      s.value? ⟨0, 0⟩ = some (.const 11) ∧
      s.resize 1 2 = .error (.evaluation (.notNumber .empty)) ∧
      ¬ (s.grid.resize 1 2).Evaluates ∧ s.after (s.resize 1 2) = s := by
  have hmake : ((Template.new .empty).bind "B0" (.const 10)).make 1 1 = .ok _ := rfl
  constructor
  -- a mention alone: the cell takes over what the second cell is worth, which is nothing
  · obtain ⟨s, hs, hvalue, hnext⟩ :
        ∃ s, Reached ((Template.new .empty).bind "B0" (.const 10)) s ∧
          s.value? ⟨0, 0⟩ = some (.const 10) ∧
          (s.resize 1 2).toOption.bind (·.value? ⟨0, 0⟩) = some .empty := by
      refine ⟨_, .step (.make hmake) (.write ⟨0, 0⟩ "B0"), ?_⟩
      decide +kernel
    obtain ⟨next, hresize, hnext⟩ := Option.bind_eq_some_iff.mp hnext
    rw [toOption_eq_some_iff] at hresize
    obtain ⟨hgrows, hexact⟩ := Reached.resize_exact (numeric_empty.insert "B0" 10).freeOfCells
      (Or.inl rfl) hs 1 2 (by decide)
    obtain ⟨-, -, hok, -⟩ := hexact _ hgrows
    obtain ⟨hrows, hcolumns, -, -, hworth, -⟩ := hok next hresize
    have hfirst : next.contains ⟨0, 0⟩ = true := contains_iff.mpr (by simp [hrows, hcolumns])
    obtain ⟨value, hvalue', hworth'⟩ := hworth ⟨0, 0⟩ hfirst
    obtain rfl : Expr.empty = value := Option.some.inj (hnext.symm.trans hvalue')
    exact ⟨s, next, hs, hvalue, hresize, hcolumns, hnext, hworth'⟩
  -- an operand: nothing is no number, so that the larger grid does not evaluate
  · obtain ⟨s, hs, hvalue, hrows, hcolumns, hstuck⟩ :
        ∃ s, Reached ((Template.new .empty).bind "B0" (.const 10)) s ∧
          s.value? ⟨0, 0⟩ = some (.const 11) ∧ s.rows ≤ 1 ∧ s.columns ≤ 2 ∧
          (s.resize 1 2).map (fun _ => ()) = .error (.evaluation (.notNumber .empty)) := by
      refine ⟨_, .step (.make hmake) (.write ⟨0, 0⟩ "B0 + 1"), ?_⟩
      decide +kernel
    obtain ⟨hgrows, hexact⟩ := Reached.resize_exact (numeric_empty.insert "B0" 10).freeOfCells
      (Or.inl rfl) hs 1 2 (by decide)
    obtain ⟨-, hin, -, herror⟩ := hexact _ hgrows
    obtain ⟨-, hevaluates, -⟩ := hin hrows hcolumns (by decide)
    cases hresize : s.resize 1 2 with
    | ok next =>
        rw [hresize] at hstuck
        cases hstuck
    | error fault =>
        rw [hresize] at hstuck hevaluates
        obtain rfl : fault = .evaluation (.notNumber .empty) := Except.error.inj hstuck
        refine ⟨s, hs, hvalue, hresize, fun hall => ?_, herror _ hresize⟩
        obtain ⟨next, hnext⟩ := hevaluates.mpr hall
        cases hnext

end Spreadsheet.Sheet
