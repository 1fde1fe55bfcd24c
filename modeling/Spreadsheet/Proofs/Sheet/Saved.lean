import Mathlib.Tactic
import Spreadsheet.Proofs.Expr.Lookup
import Spreadsheet.Proofs.Text.Trimming
import Spreadsheet.Sheet.Saved

/-!
Which texts are saved sheets, what they list, and what is wrong with the others.

The first line of a text is that of the size. Whether a further line can stand in the text is a
matter of that line and of its row alone: it `Fits` if it has no more fields than there are
columns, or if it is blank and follows the last row.

* `Saved.rows_lt_of_size`: the declared number of rows is one that words can number;
* `Saved.rowCells_of_fits` and `Saved.rowCells_of_not_fits`: what is read of a line that fits, and
  what is wrong with one that does not;
* `Saved.cells_of_fits`: if all lines fit, what is read of the text is what is read of its lines;
* `Saved.cells_of_misfit`: otherwise the first line that does not fit is blamed;
* `Saved.pairwise_cells`: the cells come row by row, each at most once, and lie within
  the declared size;
* `Saved.cells_exact`: the texts that are read, the cells that are read of them, and the line that
  is blamed for any other text.
-/

namespace Spreadsheet

/-! ### Numbers -/

namespace Text

lemma readDigits_lt {text : List Char} {n : Nat} (h : readDigits text = .ok n) :
    n < wordLimit := by
  rw [readDigits, valueBelow?_eq (by decide)] at h
  split_ifs at h with hlimit
  rwa [← Except.ok.inj h]

/-- What is read is below the limit of a word. -/
lemma readUnsigned_lt {text : List Char} {n : Nat} (h : readUnsigned text = .ok n) :
    n < wordLimit := by
  rw [readUnsigned.eq_def] at h
  split at h
  · cases h
  · cases h
  · exact readDigits_lt h
  · exact readDigits_lt h

end Text

/-! ### Cells -/

namespace Location

/-- The first cell comes before the second, row by row. -/
def Before (a b : Location) : Prop :=
  a.row < b.row ∨ (a.row = b.row ∧ a.column < b.column)

lemma Before.ne {a b : Location} (h : a.Before b) : a ≠ b := by
  rintro rfl
  rcases h with h | ⟨-, h⟩ <;> omega

end Location

namespace Saved

open Text

variable {rows columns row : Nat} {line : List Char} {text : String} {entry : Location × String}

/-! ### Sizes -/

/-- A saved sheet has at most as many rows as words can number. -/
lemma rows_lt_of_size (h : size text = .ok (rows, columns)) :
    rows < wordLimit := by
  rw [size] at h
  cases hheader : readHeader? (header text.toList) with
  | none =>
      rw [hheader] at h
      cases h
  | some found =>
      rw [hheader] at h
      obtain rfl := Except.ok.inj h
      rw [readHeader?] at hheader
      split at hheader
      · cases hheader
      · split at hheader
        · next hrows _ =>
            simp only [Option.some.injEq, Prod.mk.injEq] at hheader
            exact hheader.1 ▸ readUnsigned_lt hrows
        · cases hheader

/-- A first line that gives no size is blamed, as the first line. -/
lemma size_eq_error {fault : SheetFault} (h : size text = .error fault) :
    ∃ found, fault = .format 1 (.header found) := by
  rw [size] at h
  split at h
  · cases h
  · exact ⟨_, (Except.error.inj h).symm⟩

/-! ### Lines -/

/-- The line of a row. The first line of the text is that of the size, and lines count from one, so
the line of row `row` is number `row + 2`. -/
def rowLine? (text : String) (row : Nat) : Option (List Char) :=
  (lines text.toList)[row + 1]?

/-- The field of a cell, in the line of its row. -/
def field? (text : String) (cell : Location) : Option (List Char) :=
  (rowLine? text cell.row).bind fun line => (line.splitOn '|')[cell.column]?

/-- The line can be that of the row in a saved sheet of the size. -/
structure Fits (rows columns row : Nat) (line : List Char) : Prop where
  /-- There are at most as many fields as columns. -/
  narrow : row < rows → (line.splitOn '|').length ≤ columns
  /-- Nothing follows the last row but blanks. -/
  blank : rows ≤ row → Blanks line

/-- What is wrong with a line that does not fit. -/
def misfit (rows columns row : Nat) (line : List Char) : SheetFault :=
  .format (row + 2)
    (if row < rows then .wideRow (line.splitOn '|').length columns else .extraRow rows)

/-- Members come with increasing indices. -/
lemma pairwise_zipIdx {α : Type} (l : List α) : l.zipIdx.Pairwise fun a b => a.2 < b.2 := by
  rw [← List.pairwise_map (f := Prod.snd), List.zipIdx_map_snd]
  exact List.pairwise_lt_range'

/-- The fields of a line that are not blank, without the blanks around them. -/
def rowEntries (line : List Char) (row : Nat) : List (Location × String) :=
  (line.splitOn '|').zipIdx.filterMap fun (field, column) =>
    if (trim field).isEmpty then none else some (⟨row, column⟩, String.ofList (trim field))

lemma mem_rowEntries : entry ∈ rowEntries line row ↔ entry.1.row = row ∧
    ∃ field, (line.splitOn '|')[entry.1.column]? = some field ∧
      entry.2 = String.ofList (trim field) ∧ entry.2 ≠ "" := by
  obtain ⟨⟨row', column⟩, content⟩ := entry
  simp only [rowEntries, List.mem_filterMap, Prod.exists, List.mk_mem_zipIdx_iff_getElem?]
  constructor
  · rintro ⟨field, column', hfield, hsome⟩
    split_ifs at hsome with hempty
    obtain ⟨hcell, hcontent⟩ := Prod.mk.inj (Option.some.inj hsome)
    obtain ⟨rfl, rfl⟩ := Location.mk.inj hcell
    refine ⟨rfl, field, hfield, hcontent.symm, ?_⟩
    rw [← hcontent]
    simpa using hempty
  · rintro ⟨rfl, field, hfield, rfl, hne⟩
    refine ⟨field, column, hfield, if_neg ?_⟩
    simpa using hne

/-- The fields of a line are listed from left to right. -/
lemma pairwise_rowEntries (line : List Char) (row : Nat) :
    (rowEntries line row).Pairwise fun a b => a.1.Before b.1 := by
  rw [rowEntries, List.pairwise_filterMap]
  refine (pairwise_zipIdx _).imp fun {a b} hlt x hx y hy => ?_
  dsimp only at hx hy
  split_ifs at hx hy
  rw [← Option.some.inj hx, ← Option.some.inj hy]
  exact Or.inr ⟨rfl, hlt⟩

/-- A blank line has no field that is not blank. -/
lemma rowEntries_of_blanks (h : Blanks line) : rowEntries line row = [] := by
  have hsingle : line.splitOn '|' = [line] :=
    List.splitOn_eq_singleton (h.notMem (by decide))
  rw [rowEntries, hsingle]
  simp [trim_eq_nil_iff.mpr h]

lemma rowCells_of_fits (h : Fits rows columns row line) :
    rowCells rows columns line row = .ok (rowEntries line row) := by
  rw [rowCells]
  by_cases hrow : row < rows
  · rw [if_neg (by omega), if_neg (by have := h.narrow hrow; omega)]
    rfl
  · have hblank := h.blank (by omega)
    rw [if_pos (by omega), if_pos (by simp [trim_eq_nil_iff.mpr hblank]),
      rowEntries_of_blanks hblank]

lemma rowCells_of_not_fits (h : ¬ Fits rows columns row line) :
    rowCells rows columns line row = .error (misfit rows columns row line) := by
  rw [rowCells, misfit]
  by_cases hrow : row < rows
  · have hwide : columns < (line.splitOn '|').length := by
      by_contra hnarrow
      exact h ⟨fun _ => by omega, fun hle => by omega⟩
    rw [if_neg (by omega), if_pos hwide, if_pos hrow]
  · have hblank : (trim line).isEmpty = false := by
      rw [List.isEmpty_eq_false_iff]
      exact fun hnil => h ⟨fun hlt => absurd hlt hrow, fun _ => trim_eq_nil_iff.mp hnil⟩
    rw [if_pos (by omega), if_neg (by simp [hblank]), if_neg hrow]

/-- What a line that fits lists is within the size. -/
lemma Fits.bounds (h : Fits rows columns row line) (hentry : entry ∈ rowEntries line row) :
    entry.1.row < rows ∧ entry.1.column < columns := by
  have hrow : row < rows := by
    by_contra hge
    rw [rowEntries_of_blanks (h.blank (by omega))] at hentry
    exact absurd hentry List.not_mem_nil
  obtain ⟨rfl, field, hfield, -⟩ := mem_rowEntries.mp hentry
  obtain ⟨hcolumn, -⟩ := List.getElem?_eq_some_iff.mp hfield
  exact ⟨hrow, hcolumn.trans_le (h.narrow hrow)⟩

/-! ### Texts -/

/-- The lines after the first one, with their rows. -/
lemma getElem?_zipIdx_tail (text : String) (row : Nat) :
    (lines text.toList).tail.zipIdx[row]? = (rowLine? text row).map fun line => (line, row) := by
  rw [List.getElem?_zipIdx, List.getElem?_tail, rowLine?, Nat.zero_add]

lemma mem_zipIdx_tail : (line, row) ∈ (lines text.toList).tail.zipIdx ↔
    rowLine? text row = some line := by
  rw [List.mk_mem_zipIdx_iff_getElem?, List.getElem?_tail, rowLine?]

/-- The fields of a text that are not blank, row by row. -/
def textEntries (text : String) : List (Location × String) :=
  ((lines text.toList).tail.zipIdx.map fun (line, row) => rowEntries line row).flatten

lemma mem_textEntries {cell : Location} {content : String} : (cell, content) ∈ textEntries text ↔
    ∃ field, field? text cell = some field ∧ content = String.ofList (trim field) ∧
      content ≠ "" := by
  simp only [textEntries, List.mem_flatten, List.mem_map, Prod.exists, field?,
    Option.bind_eq_some_iff]
  constructor
  · rintro ⟨_, ⟨line, row, hline, rfl⟩, hentry⟩
    obtain ⟨rfl, field, hfield, hcontent⟩ := mem_rowEntries.mp hentry
    exact ⟨field, ⟨line, mem_zipIdx_tail.mp hline, hfield⟩, hcontent⟩
  · rintro ⟨field, ⟨line, hline, hfield⟩, hcontent⟩
    exact ⟨_, ⟨line, cell.row, mem_zipIdx_tail.mpr hline, rfl⟩,
      mem_rowEntries.mpr ⟨rfl, field, hfield, hcontent⟩⟩

/-- They are listed from left to right and row by row. -/
lemma pairwise_textEntries (text : String) :
    (textEntries text).Pairwise fun a b => a.1.Before b.1 := by
  refine List.pairwise_flatten.mpr ⟨fun found hfound => ?_, ?_⟩
  · obtain ⟨⟨line, row⟩, -, rfl⟩ := List.mem_map.mp hfound
    exact pairwise_rowEntries line row
  · refine List.pairwise_map.mpr ((pairwise_zipIdx _).imp fun hlt a ha b hb => Or.inl ?_)
    rwa [(mem_rowEntries.mp ha).1, (mem_rowEntries.mp hb).1]

/-- All that can be read of a text is read if all its lines fit. -/
theorem cells_of_fits (hsize : size text = .ok (rows, columns))
    (h : ∀ row line, rowLine? text row = some line → Fits rows columns row line) :
    cells text = .ok (textEntries text) := by
  rw [cells, hsize, bind_eq_ok_iff]
  refine ⟨_, rfl, bind_eq_ok_iff.mpr ⟨_, mapM_eq_ok_map_iff.mpr ?_, rfl⟩⟩
  rintro ⟨line, row⟩ hmem
  exact rowCells_of_fits (h row line (mem_zipIdx_tail.mp hmem))

/-- The first line that does not fit is blamed. -/
theorem cells_of_misfit (hsize : size text = .ok (rows, columns))
    (hline : rowLine? text row = some line) (hmisfit : ¬ Fits rows columns row line)
    (hbefore : ∀ earlier < row, ∀ other, rowLine? text earlier = some other →
      Fits rows columns earlier other) :
    cells text = .error (misfit rows columns row line) := by
  rw [cells, hsize, bind_eq_error_iff]
  refine Or.inr ⟨_, rfl, bind_eq_error_iff.mpr (Or.inl ?_)⟩
  refine mapM_eq_error_of_getElem? (i := row) (x := (line, row)) ?_ ?_
    (rowCells_of_not_fits hmisfit)
  · rw [getElem?_zipIdx_tail, hline]
    rfl
  · rintro earlier hlt ⟨other, index⟩ hother
    rw [getElem?_zipIdx_tail, Option.map_eq_some_iff] at hother
    obtain ⟨_, hother, heq⟩ := hother
    obtain ⟨rfl, rfl⟩ := Prod.mk.inj heq
    exact ⟨_, rowCells_of_fits (hbefore _ hlt _ hother)⟩

/-- Either all lines fit, or there is a first one that does not. -/
lemma fits_or_exists_first (text : String) (rows columns : Nat) :
    (∀ row line, rowLine? text row = some line → Fits rows columns row line) ∨
      ∃ row line, rowLine? text row = some line ∧ ¬ Fits rows columns row line ∧
        ∀ earlier < row, ∀ other, rowLine? text earlier = some other →
          Fits rows columns earlier other := by
  by_cases hall : ∀ row line, rowLine? text row = some line → Fits rows columns row line
  · exact Or.inl hall
  · push Not at hall
    classical
    obtain ⟨line, hline, hmisfit⟩ := Nat.find_spec hall
    refine Or.inr ⟨_, line, hline, hmisfit, fun earlier hlt other hother => ?_⟩
    by_contra hnot
    exact Nat.find_min hall hlt ⟨other, hother, hnot⟩

/-- A text that is read lists its fields, and all its lines fit. -/
lemma fits_of_cells_eq_ok {found : List (Location × String)}
    (hsize : size text = .ok (rows, columns)) (h : cells text = .ok found) :
    found = textEntries text ∧
      ∀ row line, rowLine? text row = some line → Fits rows columns row line := by
  rcases fits_or_exists_first text rows columns with hfits | ⟨row, line, hline, hmisfit, hbefore⟩
  · exact ⟨Except.ok.inj (h.symm.trans (cells_of_fits hsize hfits)), hfits⟩
  · cases h.symm.trans (cells_of_misfit hsize hline hmisfit hbefore)

/-- **The cells of a saved sheet** come row by row, each at most once, and lie within the
declared size. -/
theorem pairwise_cells {cells : List (Location × String)}
    (hsize : size text = .ok (rows, columns)) (h : Saved.cells text = .ok cells) :
    cells.Pairwise (fun a b => a.1.Before b.1) ∧
      ∀ entry ∈ cells, entry.1.row < rows ∧ entry.1.column < columns := by
  obtain ⟨rfl, hfits⟩ := fits_of_cells_eq_ok hsize h
  refine ⟨pairwise_textEntries text, fun entry hentry => ?_⟩
  obtain ⟨_, hfound, hentry⟩ := List.mem_flatten.mp hentry
  obtain ⟨⟨line, row⟩, hmem, rfl⟩ := List.mem_map.mp hfound
  exact (hfits row line (mem_zipIdx_tail.mp hmem)).bounds hentry

/-- **What is read of a text.** If the first line gives a size, the text is read exactly if every
line of a row has at most as many fields as there are columns and only blank lines follow. Then
the cells that are read come row by row, each at most once, and lie within the size, and they are
those whose fields are not blank, with the fields without the blanks around them. Otherwise the
first line that does not fit is blamed, by its number; and so is the first line if it gives no
size. -/
theorem cells_exact (text : String) :
    (∀ rows columns, size text = .ok (rows, columns) →
      ((∃ found, cells text = .ok found) ↔
        ∀ row line, rowLine? text row = some line → Fits rows columns row line) ∧
      (∀ found, cells text = .ok found →
        found.Pairwise (fun a b => a.1.Before b.1) ∧
        (∀ entry ∈ found, entry.1.row < rows ∧ entry.1.column < columns) ∧
        ∀ cell content, (cell, content) ∈ found ↔
          ∃ field, field? text cell = some field ∧ content = String.ofList (trim field) ∧
            content ≠ "") ∧
      ∀ fault, cells text = .error fault →
        ∃ row line, rowLine? text row = some line ∧ ¬ Fits rows columns row line ∧
          (∀ earlier < row, ∀ other, rowLine? text earlier = some other →
            Fits rows columns earlier other) ∧
          fault = misfit rows columns row line) ∧
    ∀ fault, size text = .error fault →
      cells text = .error fault ∧ ∃ found, fault = .format 1 (.header found) := by
  constructor
  · intro rows columns hsize
    refine ⟨⟨?_, fun hfits => ⟨_, cells_of_fits hsize hfits⟩⟩, fun found hfound => ?_,
      fun fault hfault => ?_⟩
    · rintro ⟨found, hfound⟩
      exact (fits_of_cells_eq_ok hsize hfound).2
    · obtain ⟨hpairwise, hbounds⟩ := pairwise_cells hsize hfound
      obtain ⟨rfl, -⟩ := fits_of_cells_eq_ok hsize hfound
      exact ⟨hpairwise, hbounds, fun cell content => mem_textEntries⟩
    · rcases fits_or_exists_first text rows columns with hfits | ⟨row, line, hline, hfirst⟩
      · cases hfault.symm.trans (cells_of_fits hsize hfits)
      · have hcells := cells_of_misfit hsize hline hfirst.1 hfirst.2
        exact ⟨row, line, hline, hfirst.1, hfirst.2,
          Except.error.inj (hfault.symm.trans hcells)⟩
  · intro fault hfault
    refine ⟨?_, size_eq_error hfault⟩
    rw [cells, hfault, bind_eq_error_iff]
    exact Or.inl rfl

/-- A blank line may follow the last row. Of two lines that do not fit the first is blamed, and a
first line without a bar before any other. -/
theorem cells_exact_lines :
    (∃ found, cells "2|3\n1||A0 + 1\n| B0 |\n \n" = .ok found ∧ (⟨1, 1⟩, "B0") ∈ found ∧
      found.Pairwise fun a b => a.1.Before b.1) ∧
    (∃ line, rowLine? "2|2\n1|2\n1|2|3\n4\n" 1 = some line ∧ ¬ Fits 2 2 1 line ∧
      cells "2|2\n1|2\n1|2|3\n4\n" = .error (.format 3 (.wideRow 3 2))) ∧
    ∃ found, cells "3\n1|2|3|4" = .error (.format 1 (.header found)) := by
  refine ⟨?_, ?_, ?_⟩
  · have hcells : cells "2|3\n1||A0 + 1\n| B0 |\n \n" = .ok _ := rfl
    obtain ⟨hpairwise, -, hmem⟩ := ((cells_exact _).1 2 3 rfl).2.1 _ hcells
    exact ⟨_, hcells, (hmem _ _).mpr ⟨" B0 ".toList, rfl, rfl, by decide⟩, hpairwise⟩
  · have hcells : cells "2|2\n1|2\n1|2|3\n4\n" = .error (.format 3 (.wideRow 3 2)) := rfl
    obtain ⟨row, line, hline, hmisfit, -, hfault⟩ := ((cells_exact _).1 2 2 rfl).2.2 _ hcells
    obtain ⟨hrow, -⟩ := SheetFault.format.inj hfault
    obtain rfl : row = 1 := by omega
    exact ⟨line, hline, hmisfit, hcells⟩
  · obtain ⟨hcells, found, hfound⟩ := (cells_exact "3\n1|2|3|4").2 _ rfl
    exact ⟨found, hfound ▸ hcells⟩

end Saved

end Spreadsheet
