import Mathlib.Tactic
import Spreadsheet.Proofs.Sheet.Saved
import Spreadsheet.Proofs.Text.Characters
import Spreadsheet.Proofs.Text.Lines

/-!
Saved sheets are read back line by line and field by field.

A sheet is `Legible` if the texts of its formulas have neither separators in them nor blanks
at their ends. Then nothing is lost in the text that it is saved as:

* `Legible.lines_saved`: its lines;
* `Legible.size_saved`: the size of the sheet;
* `Legible.cells_saved`: the texts of the formulas, row by row, other than empty ones.
-/

namespace Spreadsheet.Sheet

open Text

variable {s : Sheet} {cell : Location} {row : Nat}

/-- The texts of formulas can be told from each other once they are set side by side. -/
structure Legible (s : Sheet) : Prop where
  plain : ∀ cell, ∀ c ∈ (s.formulaText cell).toList, c ≠ '\n' ∧ c ≠ '\r' ∧ c ≠ '|'
  trimmed : ∀ cell, Trimmed (s.formulaText cell).toList

/-- A cell with the text of its formula, if there is any text. -/
def listed? (s : Sheet) (cell : Location) : Option (Location × String) :=
  if s.formulaText cell = "" then none else some (cell, s.formulaText cell)

/-- The cells with texts, row by row. -/
def entries (s : Sheet) : List (Location × String) :=
  s.cells.filterMap s.listed?

lemma listed?_eq_some_iff {entry : Location × String} :
    s.listed? cell = some entry ↔ entry = (cell, s.formulaText cell) ∧ s.formulaText cell ≠ "" := by
  rw [listed?]
  split_ifs with hempty
  · simp [hempty]
  · simp [hempty, eq_comm]

lemma mem_entries {entry : Location × String} : entry ∈ s.entries ↔
    s.contains entry.1 = true ∧ entry.2 = s.formulaText entry.1 ∧ entry.2 ≠ "" := by
  simp only [entries, List.mem_filterMap, listed?_eq_some_iff, mem_cells]
  constructor
  · rintro ⟨cell, hcell, rfl, htext⟩
    exact ⟨hcell, rfl, htext⟩
  · rintro ⟨hcell, heq, htext⟩
    exact ⟨entry.1, hcell, Prod.ext rfl heq, heq ▸ htext⟩

/-- The cells with texts, as cells of the sheet. -/
lemma mem_map_entries : cell ∈ s.entries.map Prod.fst ↔
    s.contains cell = true ∧ s.formulaText cell ≠ "" := by
  simp only [List.mem_map, mem_entries, Prod.exists]
  constructor
  · rintro ⟨_, text, ⟨hcell, rfl, htext⟩, rfl⟩
    exact ⟨hcell, htext⟩
  · rintro ⟨hcell, htext⟩
    exact ⟨cell, _, ⟨hcell, rfl, htext⟩, rfl⟩

/-! ### Lines -/

/-- The line of a row. -/
def rowLine (s : Sheet) (row : Nat) : List Char :=
  ['|'].intercalate ((List.range s.columns).map fun column => (s.formulaText ⟨row, column⟩).toList)

/-- The line of the numbers of rows and columns. -/
def headerLine (s : Sheet) : List Char :=
  naturalText s.rows ++ '|' :: naturalText s.columns

lemma savedLines_eq : s.savedLines = s.headerLine :: (List.range s.rows).map s.rowLine := rfl

lemma mem_headerLine {c : Char} (h : c ∈ s.headerLine) : c.isDigit = true ∨ c = '|' := by
  rw [headerLine, List.mem_append, List.mem_cons] at h
  rcases h with h | rfl | h
  · exact Or.inl (isDigit_of_mem_naturalText h)
  · exact Or.inr rfl
  · exact Or.inl (isDigit_of_mem_naturalText h)

lemma toList_saved : s.saved.toList = ['\n'].intercalate s.savedLines ++ ['\n'] := by
  rw [saved, encode, String.toList_append, String.toList_ofList]
  rfl

/-- The lines of the text are those that have been written. -/
theorem Legible.lines_saved (h : s.Legible) : lines s.saved.toList = s.savedLines := by
  rw [toList_saved]
  refine lines_intercalate (by simp [savedLines_eq]) fun line hline => ?_
  have hchars : ∀ c ∈ line, c ≠ '\n' ∧ c ≠ '\r' := by
    intro c hc
    rw [savedLines_eq, List.mem_cons, List.mem_map] at hline
    rcases hline with rfl | ⟨row, -, rfl⟩
    · rcases mem_headerLine hc with hdigit | rfl
      · constructor <;> rintro rfl <;> exact absurd hdigit (by decide)
      · decide
    · rcases mem_intercalate hc with hbar | ⟨text, htext, hc⟩
      · rw [List.mem_singleton.mp hbar]
        decide
      · obtain ⟨column, -, rfl⟩ := List.mem_map.mp htext
        exact ⟨(h.plain _ c hc).1, (h.plain _ c hc).2.1⟩
  exact ⟨fun hmem => (hchars _ hmem).1 rfl,
    fun hlast => (hchars _ (List.mem_of_getLast? hlast)).2 rfl⟩

/-- **The size is read back.** -/
theorem Legible.size_saved (h : s.Legible) (hrows : s.rows < wordLimit)
    (hcolumns : s.columns < wordLimit) : Saved.size s.saved = .ok (s.rows, s.columns) := by
  have hblank : ∀ c : Char, c.isDigit = true ∨ c = '|' → isBlank c = false := by
    rintro c (hdigit | rfl)
    · exact isBlank_of_isAlphanumeric (isAlphanumeric_of_isDigit hdigit)
    · decide
  have hnumber : ∀ n, trim (naturalText n) = naturalText n := fun n =>
    (trimmed_of_forall fun c hc => hblank c (Or.inl (isDigit_of_mem_naturalText hc))).trim_eq
  have hheader : Saved.header s.saved.toList = s.headerLine := by
    rw [Saved.header, h.lines_saved, savedLines_eq]
    exact (trimmed_of_forall fun c hc => hblank c (mem_headerLine hc)).trim_eq
  have hcut : '|' ∉ naturalText s.rows := fun hmem =>
    absurd (isDigit_of_mem_naturalText hmem) (by decide)
  have hread : Saved.readHeader? s.headerLine = some (s.rows, s.columns) := by
    rw [Saved.readHeader?, headerLine, cutAt_append hcut]
    dsimp only
    rw [hnumber, hnumber, readUnsigned_naturalText hrows, readUnsigned_naturalText hcolumns]
  rw [Saved.size, hheader, hread]

/-! ### Fields -/

lemma zipIdx_map_range {α : Type} (f : Nat → α) (n : Nat) :
    ((List.range n).map f).zipIdx = (List.range n).map fun i => (f i, i) := by
  refine List.ext_getElem (by simp) fun i _ _ => ?_
  simp

lemma Legible.splitOn_rowLine (h : s.Legible) (hcolumns : 0 < s.columns) (row : Nat) :
    (s.rowLine row).splitOn '|' =
      (List.range s.columns).map fun column => (s.formulaText ⟨row, column⟩).toList := by
  refine List.splitOn_intercalate _ (fun text htext hmem => ?_) ?_
  · obtain ⟨column, -, rfl⟩ := List.mem_map.mp htext
    exact (h.plain _ _ hmem).2.2 rfl
  · simpa using hcolumns.ne'

/-- The line of a row lists the texts of the row. -/
lemma Legible.rowEntries_rowLine (h : s.Legible) (hcolumns : 0 < s.columns) (row : Nat) :
    Saved.rowEntries (s.rowLine row) row =
      (List.range s.columns).filterMap fun column => s.listed? ⟨row, column⟩ := by
  rw [Saved.rowEntries, h.splitOn_rowLine hcolumns, zipIdx_map_range, List.filterMap_map]
  refine List.filterMap_congr fun column _ => ?_
  simp [Function.comp_apply, (h.trimmed _).trim_eq, listed?]

lemma Legible.rowLine?_saved (h : s.Legible) (row : Nat) :
    Saved.rowLine? s.saved row = if row < s.rows then some (s.rowLine row) else none := by
  rw [Saved.rowLine?, h.lines_saved, savedLines_eq, List.getElem?_cons_succ, List.getElem?_map]
  split_ifs with hrow
  · rw [List.getElem?_range hrow]
    rfl
  · rw [List.getElem?_eq_none (by simpa using hrow)]
    rfl

lemma Legible.fits_rowLine (h : s.Legible) (hcolumns : 0 < s.columns) (hrow : row < s.rows) :
    Saved.Fits s.rows s.columns row (s.rowLine row) := by
  refine ⟨fun _ => ?_, fun hle => by omega⟩
  rw [h.splitOn_rowLine hcolumns, List.length_map, List.length_range]

/-- The fields of the text are the texts of the sheet. -/
lemma Legible.textEntries_saved (h : s.Legible) (hcolumns : 0 < s.columns) :
    Saved.textEntries s.saved = s.entries := by
  rw [Saved.textEntries, h.lines_saved, savedLines_eq, List.tail_cons, zipIdx_map_range,
    List.map_map, entries, cells, gridCells, List.filterMap_flatMap, List.flatMap_def]
  refine congrArg List.flatten (List.map_congr_left fun row _ => ?_)
  rw [List.filterMap_map]
  exact h.rowEntries_rowLine hcolumns row

/-- **The cells are read back**, with the texts of their formulas. -/
theorem Legible.cells_saved (h : s.Legible) (hrows : s.rows < wordLimit)
    (hcolumns : s.columns < wordLimit) (hpos : 0 < s.columns) :
    Saved.cells s.saved = .ok s.entries := by
  rw [← h.textEntries_saved hpos]
  refine Saved.cells_of_fits (h.size_saved hrows hcolumns) fun row line hline => ?_
  rw [h.rowLine?_saved, Option.ite_none_right_eq_some] at hline
  obtain ⟨hrow, hline⟩ := hline
  exact Option.some.inj hline ▸ h.fits_rowLine hpos hrow

end Spreadsheet.Sheet
