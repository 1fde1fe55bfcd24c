import Mathlib.Tactic
import Spreadsheet.Proofs.Life.Writing

/-!
The order in which the cells of a generation are written.

Each write is a full update of the sheet as the writes before it have left it, so whether it is
refused may depend on the order. What the writes lead to, if none is refused, does not.

* `formula?_eq_of_stepAlong` and `value?_eq_of_stepAlong`: the formulas and the values are the same
  in two orders;
* `generation_agree`: two runs of a step over the same cells.
-/

namespace Spreadsheet.Life

open Sheet

variable {t : Template} {s next next' : Sheet} {dying born dying' born' : List Location}
  {count count' : Nat}

/-! ### Two orders -/

section Orders

variable (hdying : dying.Perm (deaths s)) (hborn : born.Perm (births s))

include hdying hborn in
/-- What a step that succeeds leads to is reached. -/
lemma reached_of_stepAlong (h : Reached t s) (hnext : stepAlong s dying born = (next, .ok count)) :
    Reached t next := by
  have hstep := h.step (.life hdying hborn)
  rwa [(stepAlong_eq_ok_iff.mp hnext).1] at hstep

variable (hdying' : dying'.Perm (deaths s)) (hborn' : born'.Perm (births s))

include hdying hborn hdying' hborn'

/-- Two steps that succeed lead to the same formulas. -/
lemma formula?_eq_of_stepAlong (hnext : stepAlong s dying born = (next, .ok count))
    (hnext' : stepAlong s dying' born' = (next', .ok count')) (cell : Location) :
    next.formula? cell = next'.formula? cell := by
  rw [(formula?_of_stepAlong hnext).2.2.2, (formula?_of_stepAlong hnext').2.2.2]
  simp only [(hdying.trans hdying'.symm).mem_iff, (hborn.trans hborn'.symm).mem_iff]

/-- Two steps that succeed lead to the same values: written cells have what was written, blank
cells what they had, and the values of the others are a matter of the formulas. -/
lemma value?_eq_of_stepAlong (h : Reached t s) (hfree : FreeOfCells t.builtins)
    (hblank : t.blank.names = []) (hnext : stepAlong s dying born = (next, .ok count))
    (hnext' : stepAlong s dying' born' = (next', .ok count')) (cell : Location) :
    next.value? cell = next'.value? cell := by
  obtain ⟨-, hrows, hcolumns, -⟩ := formula?_of_stepAlong hnext
  obtain ⟨-, hrows', hcolumns', hformula'⟩ := formula?_of_stepAlong hnext'
  have hreached := reached_of_stepAlong hdying hborn h hnext
  have hreached' := reached_of_stepAlong hdying' hborn' h hnext'
  have hconsistent := hreached.consistent hfree hblank
  have hconsistent' := hreached'.consistent hfree hblank
  have hsame := formula?_eq_of_stepAlong hdying hborn hdying' hborn' hnext hnext'
  -- the two sheets are consistent and have the same formulas, so that only blank cells are left
  have hagrees : next'.Agrees next :=
    ⟨hrows'.trans hrows.symm, hcolumns'.trans hcolumns.symm,
      hreached'.template.2.trans hreached.template.2.symm, fun other _ => (hsame other).symm⟩
  refine hagrees.value?_eq_of_consistent hconsistent' hconsistent
    (hreached.template.1.trans hreached'.template.1.symm) (fun cell hcell hbare => ?_) cell
  have hlinked := h.linked hblank
  have hwritten : (cell ∈ dying ∨ cell ∈ born) ↔ (cell ∈ dying' ∨ cell ∈ born') :=
    or_congr (hdying.trans hdying'.symm).mem_iff (hborn.trans hborn'.symm).mem_iff
  by_cases hmem : cell ∈ dying ∨ cell ∈ born
  · rw [value?_of_written hlinked hnext hmem,
      value?_of_written hlinked hnext' (hwritten.mp hmem), hsame]
  · have hmem' := hwritten.not.mp hmem
    rw [not_or] at hmem hmem'
    -- a cell that is blank now and has not been written was blank before
    have hkept : s.formula? cell = some (next'.grid.formula cell) := by
      rw [← hconsistent'.formula?_eq hcell, hformula', if_neg hmem'.2, if_neg hmem'.1]
    have hnames : (s.grid.formula cell).names = [] := by
      rw [grid_formula hkept, hbare, hconsistent'.blank_names]
    rw [value?_of_stepAlong hlinked hmem.1 hmem.2 hnames hnext,
      value?_of_stepAlong hlinked hmem'.1 hmem'.2 hnames hnext']

end Orders

/-- **Two orders of one step.** On every sheet that is reached, two runs of the step that walk
through the cells that die and those that are born in any two orders return the same number and
lead to the same formulas if both succeed, and to the same values as well if blank cells mention
nothing and no built-in mentions a cell. If blank cells mention nothing and no formula mentions a
cell that dies or is born, then both succeed, with the same formulas and values. -/
theorem generation_agree (h : Reached t s) (hdying : dying.Perm (deaths s))
    (hborn : born.Perm (births s)) (hdying' : dying'.Perm (deaths s))
    (hborn' : born'.Perm (births s)) :
    (∀ next count next' count', stepAlong s dying born = (next, .ok count) →
      stepAlong s dying' born' = (next', .ok count') →
      count = count' ∧ next.rows = next'.rows ∧ next.columns = next'.columns ∧
      (∀ cell, next.formula? cell = next'.formula? cell) ∧
      (FreeOfCells t.builtins → t.blank.dependencies = [] →
        ∀ cell, next.value? cell = next'.value? cell)) ∧
    (t.blank.dependencies = [] →
      (∀ cell formula, s.formula? cell = some formula → ∀ name ∈ formula.dependencies,
        ∀ target, Location.ofName? name = some target → target ∉ deaths s ∧ target ∉ births s) →
      ∃ next next' count, stepAlong s dying born = (next, .ok count) ∧
        stepAlong s dying' born' = (next', .ok count) ∧
        ∀ cell, next.formula? cell = next'.formula? cell ∧
          next.value? cell = next'.value? cell) := by
  constructor
  · intro next count next' count' hnext hnext'
    obtain ⟨hcount, hrows, hcolumns, -⟩ := formula?_of_stepAlong hnext
    obtain ⟨hcount', hrows', hcolumns', -⟩ := formula?_of_stepAlong hnext'
    exact ⟨hcount.trans hcount'.symm, hrows.trans hrows'.symm, hcolumns.trans hcolumns'.symm,
      formula?_eq_of_stepAlong hdying hborn hdying' hborn' hnext hnext', fun hfree hblank =>
        value?_eq_of_stepAlong hdying hborn hdying' hborn' h hfree (Expr.names_eq_nil hblank) hnext
          hnext'⟩
  · intro hblank hformulas
    have hlinked := h.linked (Expr.names_eq_nil hblank)
    have hunused : ∀ cell, cell ∈ deaths s ∨ cell ∈ births s → s.Unused cell := fun cell hcell =>
      hlinked.unused_of_formulas fun user formula hformula name hname hspelled => by
        obtain ⟨hdies, hcomes⟩ := hformulas user formula hformula name hname cell hspelled
        exact hcell.elim hdies hcomes
    obtain ⟨next, hnext, hadvanced⟩ := stepAlong_unused hlinked hdying hborn hunused
    obtain ⟨next', hnext', hadvanced'⟩ := stepAlong_unused hlinked hdying' hborn' hunused
    refine ⟨next, next', _, hnext, hnext', fun cell => ?_⟩
    rw [hadvanced.formula?, hadvanced'.formula?, hadvanced.value?, hadvanced'.value?]
    simp only [(hdying.trans hdying'.symm).mem_iff, (hborn.trans hborn'.symm).mem_iff]
    exact ⟨trivial, trivial⟩

/-- Two cells that die, the second of which mentions the first and is worth what it is worth, are
emptied in either order. -/
theorem generation_agree_mention : ∃ s next next', Reached (Template.new .empty) s ∧
    s.formula? ⟨0, 1⟩ = some (.ref "A0") ∧
    stepAlong s [⟨0, 0⟩, ⟨0, 1⟩] [] = (next, .ok 0) ∧
    stepAlong s [⟨0, 1⟩, ⟨0, 0⟩] [] = (next', .ok 0) ∧
    ∀ cell, next.formula? cell = next'.formula? cell ∧ next.value? cell = next'.value? cell := by
  have hmake : (Template.new .empty).make 1 2 = .ok _ := rfl
  obtain ⟨s, hs, hformula, hdeaths, hbirths, hresult, hresult'⟩ :
      ∃ s, Reached (Template.new .empty) s ∧ s.formula? ⟨0, 1⟩ = some (.ref "A0") ∧
        deaths s = [⟨0, 0⟩, ⟨0, 1⟩] ∧ births s = [] ∧
        (stepAlong s [⟨0, 0⟩, ⟨0, 1⟩] []).2 = .ok 0 ∧
        (stepAlong s [⟨0, 1⟩, ⟨0, 0⟩] []).2 = .ok 0 := by
    refine ⟨_, .step (.step (.make hmake) (.write ⟨0, 0⟩ "1")) (.write ⟨0, 1⟩ "A0"), ?_⟩
    decide +kernel
  have hnext : stepAlong s [⟨0, 0⟩, ⟨0, 1⟩] [] = (_, .ok 0) := Prod.ext rfl hresult
  have hnext' : stepAlong s [⟨0, 1⟩, ⟨0, 0⟩] [] = (_, .ok 0) := Prod.ext rfl hresult'
  have hswap : [(⟨0, 1⟩ : Location), ⟨0, 0⟩].Perm (deaths s) := by
    rw [hdeaths]
    exact .swap _ _ _
  obtain ⟨hsame, -⟩ := generation_agree hs (.of_eq hdeaths.symm) (.of_eq hbirths.symm) hswap
    (.of_eq hbirths.symm)
  obtain ⟨-, -, -, hformulas, hvalues⟩ := hsame _ _ _ _ hnext hnext'
  exact ⟨s, _, _, hs, hformula, hnext, hnext', fun cell =>
    ⟨hformulas cell, hvalues numeric_empty.freeOfCells rfl cell⟩⟩

/-- Texts are written into one cell after the other. -/
lemma reached_writes (h : Reached t s) (entries : List (Location × String)) :
    Reached t (entries.foldl (fun s entry => s.after (s.write entry.1 entry.2)) s) := by
  induction entries generalizing s with
  | nil => exact h
  | cons entry rest ih => exact ih (h.step (.write entry.1 entry.2))

/-- Two cells that die, the second of which adds nothing to the first, are emptied in one order only.
Where a built-in or the blank mentions a cell, two cells that are born in either order leave
different values. -/
theorem generation_disagree :
    (∃ s, Reached (Template.new .empty) s ∧ deaths s = [⟨0, 0⟩, ⟨0, 1⟩] ∧ births s = [] ∧
      (stepAlong s [⟨0, 0⟩, ⟨0, 1⟩] []).2 =
        .error (.update ⟨0, 0⟩ (.evaluation (.notNumber .empty))) ∧
      (stepAlong s [⟨0, 1⟩, ⟨0, 0⟩] []).2 = .ok 0) ∧
    ∀ t ∈ [(Template.new .empty).bind "x" (.ref "A0"), Template.new (.ref "A0")],
      ∃ s, Reached t s ∧ deaths s = [] ∧ births s = [⟨0, 0⟩, ⟨0, 2⟩] ∧
        (stepAlong s [] [⟨0, 0⟩, ⟨0, 2⟩]).2 = .ok 6 ∧
        (stepAlong s [] [⟨0, 2⟩, ⟨0, 0⟩]).2 = .ok 6 ∧
        (stepAlong s [] [⟨0, 0⟩, ⟨0, 2⟩]).1.value? ⟨0, 3⟩ = some (.const 2) ∧
        (stepAlong s [] [⟨0, 2⟩, ⟨0, 0⟩]).1.value? ⟨0, 3⟩ = some (.const 1) := by
  constructor
  · have hmake : (Template.new .empty).make 1 2 = .ok _ := rfl
    refine ⟨_, reached_writes (.make hmake) [(⟨0, 0⟩, "1"), (⟨0, 1⟩, "A0 + 0")], ?_⟩
    decide +kernel
  · intro t ht
    rw [List.mem_pair] at ht
    rcases ht with rfl | rfl
    · have hmake : ((Template.new .empty).bind "x" (.ref "A0")).make 2 4 = .ok _ := rfl
      refine ⟨_, reached_writes (.make hmake) [(⟨0, 1⟩, "1"), (⟨1, 0⟩, "1"), (⟨1, 1⟩, "1"),
        (⟨1, 2⟩, "1"), (⟨0, 0⟩, "0"), (⟨0, 2⟩, "0"), (⟨0, 3⟩, "x + C0")], ?_⟩
      decide +kernel
    · have hmake : (Template.new (.ref "A0")).make 2 4 = .ok _ := rfl
      refine ⟨_, reached_writes (.make hmake) [(⟨0, 1⟩, "1"), (⟨1, 0⟩, "1"), (⟨1, 1⟩, "1"),
        (⟨1, 2⟩, "1"), (⟨0, 0⟩, "0"), (⟨0, 2⟩, "0"), (⟨0, 3⟩, "D1 + C0")], ?_⟩
      decide +kernel

end Spreadsheet.Life
