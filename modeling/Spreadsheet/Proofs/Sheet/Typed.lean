import Mathlib.Tactic
import Spreadsheet.Proofs.Formula.Rendering
import Spreadsheet.Proofs.Sheet.Encoding
import Spreadsheet.Proofs.Sheet.Runs

/-!
Formulas that have been entered as texts.

Not every expression can be entered as a text, and a text that is entered is evaluated
before it is kept. So the formulas on a sheet that is reached with texts only have been
read, and they had a worth at some point of the run.

* `Formula.Entered`: the expression fits the levels at which formulas are read, and no operator
  in it has an empty operand. `parse_render_eq_collapse` says what its text is read as;
* `Typed.readable`: every formula of such a sheet is of this kind, if blank cells are
  (`Typed.fromText` if they are empty);
* `FromText.legible`: so formulas are written with neither separators nor blanks at the ends.
-/

namespace Spreadsheet

/-! ### Formulas -/

namespace Formula

/-- The expression can be read from a text and evaluated. -/
structure Entered (e : Expr) : Prop where
  fits : Fits levels e
  filled : e.Filled

variable {e : Expr} {c : Char}

lemma entered_empty : Entered .empty :=
  ⟨.empty, Expr.everywhere_of_ne (by simp)⟩

namespace Entered

/-- Such formulas are written without separators of fields and lines. -/
lemma ne_separator (h : Entered e) (hc : c ∈ e.text) : c ≠ '\n' ∧ c ≠ '\r' ∧ c ≠ '|' := by
  rcases mem_text_of_fits h.fits hc with halpha | rfl | ⟨operator, -, rfl⟩
  · refine ⟨?_, ?_, ?_⟩ <;> rintro rfl <;> exact absurd halpha (by decide +kernel)
  · decide
  · cases operator <;> decide

/-- Only the empty formula is written as nothing. -/
lemma eq_empty (h : Entered e) (htext : e.text = []) : e = .empty := by
  by_contra hne
  exact text_ne_nil h.fits h.filled.ends hne htext

/-- What is written for such a formula is read as the formula without its operators on a single
operand. -/
theorem parse_render_eq_collapse (h : Entered e) : parse e.render = .ok e.collapse :=
  parse_render_eq_ok_iff.mpr (read_text h.fits h.filled.ends levels_nodup)

/-- So it is read back exactly if there are no such operators. -/
theorem collapse_eq_iff (h : Entered e) : e.collapse = e ↔ e.Joins := by
  refine ⟨fun heq => ?_, fun hjoins => hjoins.collapse_eq⟩
  refine (joins_of_read h.fits levels_nodup ?_).1
  rw [read_text h.fits h.filled.ends levels_nodup, heq]

end Entered

end Formula

namespace Sheet

variable {t : Template} {s next : Sheet} {cell : Location} {formula : Expr}

/-! ### Sheets of such formulas -/

/-- What is written into a cell as a text is a formula that can be entered. -/
lemma entered_of_write {text : String} (h : s.write cell text = .ok next) :
    ∃ formula, Formula.Entered formula ∧ next.grid = s.grid.write cell formula := by
  obtain ⟨formula, hparse, hupdate⟩ := write_eq_ok h
  obtain ⟨-, -, staging, hstaging, rfl⟩ := update_eq_ok hupdate
  rw [stageUpdate] at hstaging
  obtain ⟨first, hfirst, -⟩ := bind_eq_ok_iff.mp hstaging
  obtain ⟨value, hvalue, -⟩ := bind_eq_ok_iff.mp hfirst
  exact ⟨formula, ⟨Formula.fits_of_parse hparse, Expr.filled_of_reduce hvalue⟩, grid_commit⟩

/-- The blank of the sheet and all its formulas can be entered as texts. -/
structure Readable (s : Sheet) : Prop where
  blank : Formula.Entered s.blank
  entered : ∀ cell, Formula.Entered (s.grid.formula cell)

/-- Blanks that are filled into cells are such formulas. -/
lemma Readable.fill (h : s.Readable) (cells : List Location) : (s.fill cells).Readable := by
  refine ⟨h.blank, fun cell => ?_⟩
  change Formula.Entered (((s.fill cells).formula? cell).getD s.blank)
  rw [formula?_fill]
  split_ifs
  · exact h.blank
  · exact h.entered cell

/-- All operations with texts keep formulas such as can be entered. -/
lemma keptByText_readable : KeptByText Readable where
  clear := fun {s} hs => hs.fill s.cells
  resize := fun {s next rows columns} hs hgrows => by
    obtain ⟨-, _, sources, ⟨users, rfl, -⟩, -, hnext⟩ := hgrows.eq_ok
    obtain ⟨staging, -, rfl⟩ := refresh_eq_ok hnext
    have hfill := hs.fill (s.addedCells rows columns)
    exact ⟨hfill.blank, hfill.entered⟩
  write := fun {s next cell text} hs hwrite => by
    obtain ⟨formula, hformula, hgrid⟩ := entered_of_write hwrite
    have hsame := (kept_template (t := ⟨s.builtins, s.blank⟩)).byText.write ⟨rfl, rfl⟩ hwrite
    refine ⟨hsame.1 ▸ hs.blank, fun other => ?_⟩
    rw [hgrid]
    by_cases hother : other = cell
    · rwa [hother, Grid.formula_write_self]
    · rw [Grid.formula_write_of_ne hother]
      exact hs.entered other
  reorder := fun hs hnext => by
    obtain ⟨users, rfl, -⟩ := hnext
    exact ⟨hs.blank, hs.entered⟩

/-- A new sheet holds nothing but blanks. -/
lemma readable_make {rows columns : Nat} (hblank : Formula.Entered t.blank)
    (hmake : t.make rows columns = .ok s) : s.Readable := by
  obtain ⟨-, -, -, rfl⟩ := make_eq_clear hmake
  exact ⟨hblank, fun cell => (grid_formula_make hmake cell).symm ▸ hblank⟩

/-- **Formulas that are entered as texts** have been read and evaluated. -/
theorem Typed.readable (hblank : Formula.Entered t.blank) (h : Typed t s) : s.Readable :=
  keptByText_readable.typed (readable_make hblank) h

/-- Every formula of the sheet has been entered as a text, and other cells are empty. -/
structure FromText (s : Sheet) : Prop where
  blank_eq : s.blank = .empty
  entered : ∀ cell, Formula.Entered (s.grid.formula cell)

/-- So it is on a sheet that was empty at first. -/
theorem Typed.fromText (hblank : t.blank = .empty) (h : Typed t s) : s.FromText :=
  ⟨h.reached.template.1.trans hblank, (h.readable (hblank ▸ Formula.entered_empty)).entered⟩

/-! ### The texts of formulas -/

/-- The text of a cell is that of its formula; beyond the sheet it is empty. -/
lemma formulaText_eq (hblank : s.blank = .empty) (cell : Location) :
    s.formulaText cell = (s.grid.formula cell).render := by
  change ((s.formula? cell).map Expr.render).getD "" = ((s.formula? cell).getD s.blank).render
  rw [hblank]
  cases s.formula? cell with
  | none => rfl
  | some formula => rfl

lemma toList_formulaText (hblank : s.blank = .empty) (cell : Location) :
    (s.formulaText cell).toList = (s.grid.formula cell).text := by
  rw [formulaText_eq hblank, Expr.render, String.toList_ofList]

/-- **Formulas can be told from each other** in a saved sheet. -/
theorem FromText.legible (h : s.FromText) : s.Legible := by
  constructor <;> intro cell <;> rw [toList_formulaText h.blank_eq]
  · exact fun c hc => (h.entered cell).ne_separator hc
  · exact Formula.trimmed_text (h.entered cell).fits (h.entered cell).filled

lemma FromText.formula_eq_empty (h : s.FromText) (htext : s.formulaText cell = "") :
    s.grid.formula cell = .empty := by
  refine (h.entered cell).eq_empty ?_
  rw [← toList_formulaText h.blank_eq, htext]
  rfl

end Sheet

end Spreadsheet
