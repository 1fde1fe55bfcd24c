import Mathlib.Data.List.Perm.Basic
import Mathlib.Tactic
import Spreadsheet.Proofs.Sheet.Linked
import Spreadsheet.Life

/-!
The cells around a cell.

`Touching` says which cells are around a cell, without regard to how they are listed, and
`liveAround` counts those of them that live.

* `exists_ends`: the rows, or columns, around one on the sheet are a range whose ends can be found
  with words of 64 bits, on a sheet of a single row or column as on others;
* `neighbours_perm`: the neighbours are the cells of the sheet that touch the cell, each once;
* `liveNeighbours_eq`: so it is these that are counted.
-/

namespace Spreadsheet.Life

variable {s : Sheet} {rows columns limit n m : Nat} {cell other : Location}

/-- The cells are different, and neither their rows nor their columns are more than one apart. -/
def Touching (a b : Location) : Prop :=
  a ≠ b ∧ (a.row ≤ b.row + 1 ∧ b.row ≤ a.row + 1) ∧
    (a.column ≤ b.column + 1 ∧ b.column ≤ a.column + 1)

instance (a b : Location) : Decidable (Touching a b) :=
  inferInstanceAs (Decidable (_ ∧ _))

/-- The number of living cells of the sheet that touch the cell. -/
def liveAround (s : Sheet) (cell : Location) : Nat :=
  (s.cells.filter fun other => Touching cell other ∧ isLive s other).length

/-! ### Ranges -/

/-- The first and the last of the numbers around `n`, found with words of 64 bits. There is no
result if a sum outgrows a word or a difference falls below zero; only before the first number the
difference is cut off at zero. -/
def ends? (limit n : Nat) : Option (Nat × Nat) := do
  let next ← if n + 1 < Text.wordLimit then some (n + 1) else none
  let last ← if 1 ≤ limit then some (limit - 1) else none
  return (n - 1, min next last)

lemma mem_around (hn : n < limit) : m ∈ around limit n ↔ m < limit ∧ m ≤ n + 1 ∧ n ≤ m + 1 := by
  rw [around, List.mem_range'_1]
  omega

lemma ends?_eq (hn : n < limit) (hlimit : limit < Text.wordLimit) :
    ends? limit n = some (n - 1, min (n + 1) (limit - 1)) := by
  have hnext : n + 1 < Text.wordLimit := by omega
  have hlast : 1 ≤ limit := by omega
  simp [ends?, hnext, hlast]

/-- The numbers around one below the limit are a range, and its ends are found. -/
lemma exists_ends (hn : n < limit) (hlimit : limit < Text.wordLimit) :
    ∃ first last, ends? limit n = some (first, last) ∧
      ∀ m, m ∈ around limit n ↔ first ≤ m ∧ m ≤ last := by
  refine ⟨_, _, ends?_eq hn hlimit, fun m => ?_⟩
  rw [mem_around hn]
  omega

lemma length_around_le (limit n : Nat) : (around limit n).length ≤ 3 := by
  rw [around, List.length_range']
  omega

/-! ### Cells in rows and columns -/

lemma nodup_rectangle {rows columns : List Nat} (hrows : rows.Nodup) (hcolumns : columns.Nodup) :
    (rows.flatMap fun row => columns.map fun column => (⟨row, column⟩ : Location)).Nodup := by
  refine List.nodup_flatMap.mpr ⟨fun row _ => ?_, ?_⟩
  · exact hcolumns.map fun a b h => (Location.mk.inj h).2
  · refine hrows.imp fun {a b} hne => List.disjoint_left.mpr fun cell ha hb => ?_
    obtain ⟨_, -, rfl⟩ := List.mem_map.mp ha
    obtain ⟨_, -, heq⟩ := List.mem_map.mp hb
    exact hne (Location.mk.inj heq).1.symm

lemma nodup_gridCells (rows columns : Nat) : (gridCells rows columns).Nodup :=
  nodup_rectangle List.nodup_range List.nodup_range

lemma nodup_neighbours (rows columns : Nat) (cell : Location) :
    (neighbours rows columns cell).Nodup :=
  (nodup_rectangle List.nodup_range' List.nodup_range').filter _

section Grid

variable (hrow : cell.row < rows) (hcolumn : cell.column < columns)

include hrow hcolumn

lemma mem_neighbours : other ∈ neighbours rows columns cell ↔
    (other.row < rows ∧ other.column < columns) ∧ Touching cell other := by
  rw [neighbours, List.mem_filter, List.mem_flatMap]
  obtain ⟨row, column⟩ := other
  simp only [List.mem_map, mem_around hrow, mem_around hcolumn, Touching, Location.mk.injEq,
    decide_eq_true_eq]
  constructor
  · rintro ⟨⟨r, hr, c, hc, rfl, rfl⟩, hne⟩
    exact ⟨⟨hr.1, hc.1⟩, Ne.symm hne, ⟨hr.2.2, hr.2.1⟩, hc.2.2, hc.2.1⟩
  · rintro ⟨⟨hr, hc⟩, hne, ⟨hr', hr''⟩, hc', hc''⟩
    exact ⟨⟨row, ⟨hr, hr'', hr'⟩, column, ⟨hc, hc'', hc'⟩, rfl, rfl⟩, Ne.symm hne⟩

/-- The neighbours of a cell are the cells of the grid that touch it, each once. -/
lemma neighbours_perm : (neighbours rows columns cell).Perm
    ((gridCells rows columns).filter fun other => Touching cell other) := by
  refine (List.perm_ext_iff_of_nodup (nodup_neighbours rows columns cell)
    ((nodup_gridCells rows columns).filter _)).mpr fun other => ?_
  rw [mem_neighbours hrow hcolumn, List.mem_filter, mem_gridCells, decide_eq_true_eq]

lemma length_neighbours_le : (neighbours rows columns cell).length ≤ 8 := by
  set block := (around rows cell.row).flatMap fun row =>
    (around columns cell.column).map fun column => (⟨row, column⟩ : Location) with hblock
  have hmem : cell ∈ block := by
    refine List.mem_flatMap.mpr ⟨cell.row, (mem_around hrow).mpr ⟨hrow, by omega⟩, ?_⟩
    exact List.mem_map.mpr ⟨cell.column, (mem_around hcolumn).mpr ⟨hcolumn, by omega⟩, rfl⟩
  have hlength : block.length ≤ 9 := by
    have hrows := length_around_le rows cell.row
    have hcolumns := length_around_le columns cell.column
    rw [hblock, List.length_flatMap]
    simp only [List.length_map, List.map_const', List.sum_replicate, smul_eq_mul]
    exact Nat.mul_le_mul hrows hcolumns
  have hless : (neighbours rows columns cell).length < block.length :=
    List.length_filter_lt_length_iff_exists.mpr ⟨cell, hmem, by simp⟩
  omega

end Grid

/-- **Living neighbours** are the living cells of the sheet that touch the cell. -/
theorem liveNeighbours_eq (hcell : s.contains cell = true) :
    liveNeighbours s cell = liveAround s cell := by
  obtain ⟨hrow, hcolumn⟩ := Sheet.contains_iff.mp hcell
  rw [liveNeighbours, liveAround, ((neighbours_perm hrow hcolumn).filter _).length_eq,
    List.filter_filter, Sheet.cells]
  simp [Bool.and_comm]

/-- No more than eight cells of the sheet touch a cell. -/
lemma length_touching_le (hcell : s.contains cell = true) :
    (s.cells.filter fun other => Touching cell other).length ≤ 8 := by
  obtain ⟨hrow, hcolumn⟩ := Sheet.contains_iff.mp hcell
  rw [Sheet.cells, ← (neighbours_perm hrow hcolumn).length_eq]
  exact length_neighbours_le hrow hcolumn

end Spreadsheet.Life
