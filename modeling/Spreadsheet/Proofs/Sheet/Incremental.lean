import Mathlib.Tactic
import Spreadsheet.Proofs.Sheet.Runs

/-!
Updates against evaluation from scratch.

An update looks for a cycle in advance, evaluates only the cells downstream of the one
that is written, and does so in an order that depends on how the users of cells are
listed. `Reached.update_exact` says what it returns by the grid with the new formula
alone, in which every cell is evaluated from its formulas, and for users in any order.
-/

namespace Spreadsheet.Sheet

open Relation

variable {t : Template} {s w next : Sheet} {cell : Location} {formula : Expr}

/-- What a successful update leaves: the new formula in the cell and the old ones in the
others, every value as from scratch, and the old values in the cells that do not depend
on the one that is written. -/
lemma UpToDate.update_ok (h : s.UpToDate) (hupdate : s.update cell formula = .ok next) :
    (s.grid.write cell formula).Acyclic ∧ (s.grid.write cell formula).Evaluates ∧
    next.rows = s.rows ∧ next.columns = s.columns ∧
    (∀ other, next.formula? other = if other = cell then some formula else s.formula? other) ∧
    (∀ other, s.contains other = true → ∃ value, next.value? other = some value ∧
      (s.grid.write cell formula).worth other = .ok value) ∧
    ∀ other, other ≠ cell → ¬ TransGen s.grid.Feeds cell other →
      next.value? other = s.value? other := by
  obtain ⟨hacyclic, hevaluates, hdate, hgrid⟩ := h.of_update_eq_ok hupdate
  obtain ⟨-, -, staging, -, hcommit⟩ := update_eq_ok hupdate
  have hrows : next.rows = s.rows := by rw [hcommit]; rfl
  have hcolumns : next.columns = s.columns := by rw [hcommit]; rfl
  have hcontains : ∀ other, next.contains other = s.contains other := fun other => by
    rw [contains, contains, hrows, hcolumns]
  have hworth : ∀ other, s.contains other = true →
      (s.grid.write cell formula).worth other = .ok (next.current other) := fun other hother => by
    rw [← hgrid, hdate.worth_eq other ((hcontains other).trans hother)]
  refine ⟨hacyclic, hevaluates, hrows, hcolumns, fun other => ?_, fun other hother => ?_,
    fun other hne hpath => ?_⟩
  · rw [hcommit, formula?_commit]
  · exact ⟨_, hdate.value?_eq ((hcontains other).trans hother), hworth other hother⟩
  · by_cases hother : s.contains other = true
    · have hfar : ¬ ReflTransGen s.grid.Feeds cell other := fun hup =>
        (reflTransGen_iff_eq_or_transGen.mp hup).elim hne hpath
      have hsame := h.worth_write hacyclic hother hfar
      rw [hworth other hother, h.worth_eq other hother, Except.ok.injEq] at hsame
      rw [hdate.value?_eq ((hcontains other).trans hother), h.value?_eq hother, hsame]
    · have hgone : other ∉ next.values := fun hmem =>
        hother ((hcontains other).symm.trans ((hdate.mem_values other).mp hmem))
      have hgone' : other ∉ s.values := fun hmem => hother ((h.mem_values other).mp hmem)
      rw [value?, value?, Std.TreeMap.getElem?_eq_none hgone, Std.TreeMap.getElem?_eq_none hgone']

/-- **Updates agree with evaluation from scratch.** On every sheet that is reached, and
in whatever order users are listed, writing a formula is refused because the cell is
outside exactly if it is; else because of a cycle exactly if the grid with the new
formula has one, and then on account of a cell that the formula mentions and that is the
cell itself or depends on it; else it succeeds exactly if every cell of that grid is
worth something from scratch; and else some formula has no worth, which is never for a
circular name if all built-ins are numbers. If it succeeds the values are those from
scratch, the other formulas are unchanged, and so are the values of the cells that do
not depend on the one that is written. -/
theorem Reached.update_exact (hfree : FreeOfCells t.builtins)
    (hblank : t.blank = .empty ∨ ∃ n, t.blank = .const n) (h : Reached t s)
    (hw : s.Reordered w) (cell : Location) (formula : Expr) :
    (w.update cell formula = .error (.outside cell) ↔ ¬ s.contains cell = true) ∧
    (s.contains cell = true →
      ((∃ via, w.update cell formula = .error (.circular cell via)) ↔
        ¬ (s.grid.write cell formula).Acyclic) ∧
      (∀ via, w.update cell formula = .error (.circular cell via) →
        (∃ name ∈ formula.dependencies, Location.ofName? name = some via) ∧
          (via = cell ∨ TransGen s.grid.Feeds cell via)) ∧
      ((s.grid.write cell formula).Acyclic →
        ((∃ next, w.update cell formula = .ok next) ↔ (s.grid.write cell formula).Evaluates) ∧
        (¬ (s.grid.write cell formula).Evaluates → ∃ fault,
          w.update cell formula = .error (.evaluation fault) ∧
            (Numeric t.builtins → ∀ name, fault ≠ .circular name)))) ∧
    ∀ next, w.update cell formula = .ok next →
      next.rows = s.rows ∧ next.columns = s.columns ∧
      (∀ other, next.formula? other = if other = cell then some formula else s.formula? other) ∧
      (∀ other, s.contains other = true → ∃ value, next.value? other = some value ∧
        (s.grid.write cell formula).worth other = .ok value) ∧
      ∀ other, other ≠ cell → ¬ TransGen s.grid.Feeds cell other →
        next.value? other = s.value? other := by
  have hbuiltins := h.template.2
  have hdate := hw.upToDate (h.upToDate hfree hblank)
  obtain ⟨users, rfl, -⟩ := hw
  refine and_assoc.mp ⟨?_, fun next hupdate => (hdate.update_ok hupdate).2.2⟩
  -- outside, a cycle, a formula without worth, or success
  rcases hdate.update_spec cell formula with
    ⟨hcell, hresult⟩ | ⟨hcell, hcycle, via, hvia, hpath, hresult⟩ |
      ⟨hcell, hacyclic, fault, hresult, other, hother, hworth⟩ |
      ⟨hcell, hacyclic, hevaluates, last, hresult, -⟩
  · exact ⟨iff_of_true hresult hcell, fun hcell' => absurd hcell' hcell⟩
  · rw [hresult]
    refine ⟨iff_of_false (by simp) (not_not_intro hcell), fun _ =>
      ⟨iff_of_true ⟨via, rfl⟩ hcycle, fun via' hvia' => ?_, fun hacyclic => absurd hacyclic hcycle⟩⟩
    obtain rfl : via = via' := by simpa using hvia'
    obtain ⟨name, hname, hname'⟩ := mem_targets.mp hvia
    exact ⟨⟨name, Expr.mem_dependencies.mpr hname, (Grid.cellOf?_eq_some_iff.mp hname').1⟩, hpath⟩
  · have hstuck : ¬ (s.grid.write cell formula).Evaluates := fun hall => by
      obtain ⟨value, hvalue⟩ := hall other hother
      exact absurd (hworth.symm.trans hvalue) (by simp)
    rw [hresult]
    refine ⟨iff_of_false (by simp) (not_not_intro hcell), fun _ =>
      ⟨iff_of_false (by simp) (not_not_intro hacyclic), by simp, fun _ =>
        ⟨iff_of_false (by simp) hstuck, fun _ => ⟨fault, rfl, fun hnumeric name hname => ?_⟩⟩⟩⟩
    rw [hname] at hworth
    rw [← hbuiltins] at hnumeric
    exact Grid.worth_ne_circular hacyclic hnumeric hother name hworth
  · rw [hresult]
    exact ⟨iff_of_false (by simp) (not_not_intro hcell), fun _ =>
      ⟨iff_of_false (by simp) (not_not_intro hacyclic), by simp, fun _ =>
        ⟨iff_of_true ⟨last, rfl⟩ hevaluates, fun hstuck => absurd hevaluates hstuck⟩⟩⟩

/-- In a sheet whose first cell mentions the second by another spelling, the second is
refused a mention of the first. -/
theorem update_exact_spelled :
    ∃ s, Reached ((Template.new .empty).bind "ten" (.const 10)) s ∧
      ∃ via, s.update ⟨0, 1⟩ (.ref "A0") = .error (.circular ⟨0, 1⟩ via) ∧
        (via = ⟨0, 1⟩ ∨ TransGen s.grid.Feeds ⟨0, 1⟩ via) := by
  obtain ⟨s, hs, hfirst, hsecond, hformula, -⟩ := Reached.exists_spelled
  obtain ⟨-, hinside, -⟩ := Reached.update_exact (numeric_empty.insert "ten" 10).freeOfCells
    (Or.inl rfl) hs (Reordered.refl s) ⟨0, 1⟩ (.ref "A0")
  obtain ⟨hcircular, hvia, -⟩ := hinside hsecond
  have hthere : (s.grid.write ⟨0, 1⟩ (.ref "A0")).Feeds ⟨0, 1⟩ ⟨0, 0⟩ := by
    rw [Grid.feeds_write_of_ne (by decide), Grid.Feeds, grid_formula hformula]
    exact ⟨hfirst, "B00", by decide, Grid.cellOf?_eq_some_iff.mpr ⟨by decide +kernel, hsecond⟩⟩
  have hback : (s.grid.write ⟨0, 1⟩ (.ref "A0")).Feeds ⟨0, 0⟩ ⟨0, 1⟩ := by
    rw [Grid.Feeds, Grid.formula_write_self]
    exact ⟨hsecond, "A0", by decide, Grid.cellOf?_eq_some_iff.mpr ⟨by decide +kernel, hfirst⟩⟩
  obtain ⟨via, hresult⟩ :=
    hcircular.mpr fun hacyclic => hacyclic ⟨0, 1⟩ ((TransGen.single hthere).tail hback)
  exact ⟨s, hs, via, hresult, (hvia via hresult).2⟩

end Spreadsheet.Sheet
