import Mathlib.Tactic
import Spreadsheet.Proofs.Sheet.Linked

/-!
Changes to a sheet keep its links.

Each change is described by what it does to the grid of formulas, and shown to keep
the sheet linked, that is, to bring the users of cells in line with that grid.

* `grid_commit` and `Linked.commit`: writing a formula that closes no cycle;
* `grid_formula_clear` and `linked_clear`: emptying, which also makes new sheets;
* `Linked.grid_grown` and `Linked.grown`: growing, where cells that come to lie on
  the sheet get as users the old cells whose formulas already mention them. New
  cells mention nothing, so that no cycle runs through them.
-/

namespace Spreadsheet.Sheet

open Relation

variable {s : Sheet} {cell user : Location} {formula : Expr} {staging : Staging}

/-! ### Values -/

/-- Values that are stored for cells of the sheet leave it linked. -/
lemma Linked.store (h : s.Linked) {entries : List (Location × Expr)}
    (hentries : ∀ entry ∈ entries, s.contains entry.1 = true) :
    Linked { s with values := s.values.store entries } where
  rows_pos := h.rows_pos
  columns_pos := h.columns_pos
  validSize := h.validSize
  blank_names := h.blank_names
  mem_formulas := h.mem_formulas
  mem_values := fun cell => by
    rw [CellMap.mem_store, h.mem_values]
    refine or_iff_right_of_imp fun hmem => ?_
    obtain ⟨entry, hentry, rfl⟩ := List.mem_map.mp hmem
    exact hentries entry hentry
  mem_users := h.mem_users
  mem_usersOf := h.mem_usersOf
  acyclic := h.acyclic

/-! ### Writing -/

lemma formula?_commit {other : Location} :
    (s.commit cell formula staging).formula? other
      = if other = cell then some formula else s.formula? other := by
  change (s.formulas.insert cell formula)[other]? = _
  rw [Std.TreeMap.getElem?_insert]
  simp only [Std.LawfulEqCmp.compare_eq_iff_eq, eq_comm (a := cell)]
  rfl

/-- Writing a formula changes the grid in that cell only. -/
lemma grid_commit : (s.commit cell formula staging).grid = s.grid.write cell formula := by
  rw [grid, Grid.write]
  congr 1
  funext other
  rw [formula?_commit]
  by_cases hother : other = cell
  · rw [if_pos hother, hother, Function.update_self, Option.getD_some]
  · rw [if_neg hother, Function.update_of_ne hother]
    rfl

/-- The edges that the formula of a cell has are those that lead to the cell. -/
lemma mem_edges_formula (hcell : s.contains cell = true) {target : Location} :
    (target, user) ∈ s.edges cell (s.grid.formula cell) ↔
      s.grid.Feeds target user ∧ user = cell := by
  rw [mem_edges, mem_targets]
  constructor
  · rintro ⟨hnames, rfl⟩
    exact ⟨⟨hcell, hnames⟩, rfl⟩
  · rintro ⟨hfeeds, rfl⟩
    exact ⟨hfeeds.2, rfl⟩

/-- After writing a formula the users of cells are in line with the new grid. -/
lemma Linked.mem_usersOf_commit (h : s.Linked) (hcell : s.contains cell = true)
    {target : Location} :
    user ∈ (s.commit cell formula staging).usersOf target ↔
      (s.grid.write cell formula).Feeds target user := by
  change user ∈ ((s.relink cell formula)[target]?).getD [] ↔ _
  rw [relink, h.formula?_eq hcell, mem_getD_foldl_addUser, mem_getD_foldl_removeUser,
    mem_foldl_removeUser, mem_edges_formula hcell, mem_edges]
  change (user ∈ s.usersOf target ∧ _) ∨ _ ↔ _
  rw [h.mem_usersOf]
  by_cases huser : user = cell
  · subst huser
    rw [Linked.feeds_write_self hcell, mem_targets, h.mem_users]
    constructor
    · rintro (⟨hfeeds, hno⟩ | ⟨-, hnames, -⟩)
      · exact absurd ⟨hfeeds, rfl⟩ hno
      · exact hnames
    · rintro ⟨name, hname, htarget⟩
      exact Or.inr ⟨Grid.contains_of_cellOf? htarget, ⟨name, hname, htarget⟩, rfl⟩
  · rw [Grid.feeds_write_of_ne huser]
    simp [huser]

/-- Writing a formula that closes no cycle leaves the sheet linked. -/
theorem Linked.commit (h : s.Linked) (hcell : s.contains cell = true)
    (hacyclic : (s.grid.write cell formula).Acyclic)
    (hstaging : ∀ entry ∈ staging.values, s.contains entry.1 = true) :
    (s.commit cell formula staging).Linked where
  rows_pos := h.rows_pos
  columns_pos := h.columns_pos
  validSize := h.validSize
  blank_names := h.blank_names
  mem_formulas := fun other => by
    change other ∈ s.formulas.insert cell formula ↔ s.contains other = true
    rw [Std.TreeMap.mem_insert, h.mem_formulas, Std.LawfulEqCmp.compare_eq_iff_eq]
    refine or_iff_right_of_imp ?_
    rintro rfl
    exact hcell
  mem_values := (h.store hstaging).mem_values
  mem_users := fun other => by
    change other ∈ s.relink cell formula ↔ s.contains other = true
    rw [relink, mem_foldl_addUser, mem_foldl_removeUser, h.mem_users]
  mem_usersOf := fun target user => by
    rw [h.mem_usersOf_commit hcell, grid_commit]
  acyclic := by
    rw [grid_commit]
    exact hacyclic

/-! ### Emptying -/

section Clear

variable (hkeys : ∀ cell, cell ∈ s.formulas ∨ cell ∈ s.values ∨ cell ∈ s.users →
  s.contains cell = true)

lemma formula?_fill {cells : List Location} :
    (s.fill cells).formula? cell = if cell ∈ cells then some s.blank else s.formula? cell :=
  CellMap.getElem?_fill ..

lemma value?_fill {cells : List Location} :
    (s.fill cells).value? cell = if cell ∈ cells then some s.blank else s.value? cell :=
  CellMap.getElem?_fill ..

lemma usersOf_fill {cells : List Location} :
    (s.fill cells).usersOf cell = if cell ∈ cells then [] else s.usersOf cell := by
  change ((s.users.fill cells [])[cell]?).getD [] = _
  rw [CellMap.getElem?_fill]
  by_cases hcell : cell ∈ cells
  · rw [if_pos hcell, if_pos hcell, Option.getD_some]
  · rw [if_neg hcell, if_neg hcell]
    rfl

lemma value?_clear (hcell : s.contains cell = true) : s.clear.value? cell = some s.blank := by
  rw [clear, value?_fill, if_pos (mem_cells.mpr hcell)]

include hkeys

/-- An emptied sheet is blank everywhere. -/
lemma grid_formula_clear : s.clear.grid.formula cell = s.blank := by
  change (s.clear.formula? cell).getD s.blank = s.blank
  rw [clear, formula?_fill]
  by_cases hcell : s.contains cell = true
  · rw [if_pos (mem_cells.mpr hcell), Option.getD_some]
  · have hnone : s.formula? cell = none :=
      Std.TreeMap.getElem?_eq_none fun hmem => hcell (hkeys cell (Or.inl hmem))
    rw [if_neg (fun hmem => hcell (mem_cells.mp hmem)), hnone, Option.getD_none]

/-- An emptied sheet is linked, whatever its links were. -/
theorem linked_clear (hrows : 0 < s.rows) (hcolumns : 0 < s.columns)
    (hvalid : validSize s.rows s.columns = true) (hblank : s.blank.names = []) :
    s.clear.Linked := by
  have hfeeds : ∀ target user, ¬ s.clear.grid.Feeds target user := fun target user =>
    Grid.not_feeds_of_names (by rw [grid_formula_clear hkeys, hblank])
  have hmem : ∀ cell, cell ∈ s.cells ∨ cell ∈ s.formulas ∨ cell ∈ s.values ∨ cell ∈ s.users →
      s.contains cell = true := by
    rintro cell (hcell | hcell)
    · exact mem_cells.mp hcell
    · exact hkeys cell hcell
  refine ⟨hrows, hcolumns, hvalid, hblank, fun cell => ?_, fun cell => ?_, fun cell => ?_,
    fun target user => ?_, fun cell hcycle => ?_⟩
  · change cell ∈ s.formulas.fill s.cells s.blank ↔ s.contains cell = true
    rw [CellMap.mem_fill]
    exact ⟨fun h => hmem cell (h.imp_right Or.inl), fun h => Or.inl (mem_cells.mpr h)⟩
  · change cell ∈ s.values.fill s.cells s.blank ↔ s.contains cell = true
    rw [CellMap.mem_fill]
    exact ⟨fun h => hmem cell (h.imp_right fun h => Or.inr (Or.inl h)),
      fun h => Or.inl (mem_cells.mpr h)⟩
  · change cell ∈ s.users.fill s.cells [] ↔ s.contains cell = true
    rw [CellMap.mem_fill]
    exact ⟨fun h => hmem cell (h.imp_right fun h => Or.inr (Or.inr h)),
      fun h => Or.inl (mem_cells.mpr h)⟩
  · refine iff_of_false ?_ (hfeeds target user)
    rw [clear, usersOf_fill]
    by_cases hcell : target ∈ s.cells
    · rw [if_pos hcell]
      exact List.not_mem_nil
    · have hnone : s.users[target]? = none :=
        Std.TreeMap.getElem?_eq_none fun h =>
          hcell (mem_cells.mpr (hkeys target (Or.inr (Or.inr h))))
      rw [if_neg hcell, usersOf, hnone]
      exact List.not_mem_nil
  · obtain ⟨_, -, hlast⟩ := TransGen.tail'_iff.mp hcycle
    exact hfeeds _ _ hlast

end Clear

lemma Linked.keys (h : s.Linked) (cell : Location)
    (hcell : cell ∈ s.formulas ∨ cell ∈ s.values ∨ cell ∈ s.users) : s.contains cell = true := by
  rcases hcell with hcell | hcell | hcell
  · exact (h.mem_formulas cell).mp hcell
  · exact (h.mem_values cell).mp hcell
  · exact (h.mem_users cell).mp hcell

/-- Emptying leaves a sheet linked. -/
theorem Linked.clear (h : s.Linked) : s.clear.Linked :=
  linked_clear h.keys h.rows_pos h.columns_pos h.validSize h.blank_names

/-- A new sheet can be made with every size that a sheet can have. -/
lemma make_of_validSize (t : Template) {rows columns : Nat} (hrows : 0 < rows)
    (hcolumns : 0 < columns) (hvalid : Sheet.validSize rows columns = true) :
    ∃ s, t.make rows columns = .ok s := by
  refine ⟨_, if_neg ?_⟩
  simp [hrows.ne', hcolumns.ne', hvalid]

section Make

variable {t : Template} {rows columns : Nat} (hmake : t.make rows columns = .ok s)

include hmake

/-- A new sheet is one without anything on it that is emptied. -/
lemma make_eq_clear : 0 < rows ∧ 0 < columns ∧ Sheet.validSize rows columns = true ∧
    s = clear ⟨rows, columns, t.blank, t.builtins, ∅, ∅, ∅⟩ := by
  rw [Template.make] at hmake
  split_ifs at hmake with hsize
  simp only [Bool.or_eq_true, decide_eq_true_eq, Bool.not_eq_true', not_or,
    Bool.not_eq_false] at hsize
  exact ⟨Nat.pos_of_ne_zero hsize.1.1, Nat.pos_of_ne_zero hsize.1.2, hsize.2,
    (Except.ok.inj hmake).symm⟩

/-- All cells of a new sheet are blank. -/
lemma grid_formula_make (cell : Location) : s.grid.formula cell = t.blank := by
  obtain ⟨-, -, -, rfl⟩ := make_eq_clear hmake
  exact grid_formula_clear fun cell hcell => by simp [Std.TreeMap.not_mem_emptyc] at hcell

/-- No cell of a new sheet has another value than its blank. -/
lemma value?_make {value : Expr} (hvalue : s.value? cell = some value) : value = t.blank := by
  obtain ⟨-, -, -, rfl⟩ := make_eq_clear hmake
  rw [clear, value?_fill] at hvalue
  split_ifs at hvalue
  · exact (Option.some.inj hvalue).symm
  · simp [value?] at hvalue

end Make

/-- A new sheet is linked. -/
theorem linked_make {t : Template} {rows columns : Nat} (hblank : t.blank.names = [])
    (hmake : t.make rows columns = .ok s) : s.Linked := by
  obtain ⟨hrows, hcolumns, hvalid, rfl⟩ := make_eq_clear hmake
  exact linked_clear (fun cell hcell => by simp [Std.TreeMap.not_mem_emptyc] at hcell)
    hrows hcolumns hvalid hblank

/-! ### Growing -/

/-- The sheet with the given size and the links that it then has. Values are not
found anew. -/
def grown (s : Sheet) (rows columns : Nat) : Sheet :=
  { s.extend rows columns with
    users := (s.newEdges (s.extend rows columns)).foldl addUser (s.extend rows columns).users }

/-- The sheet with the values downstream of the sources found anew. -/
def refresh (s : Sheet) (sources : List Location) : Except SheetFault Sheet :=
  match s.stageDependents sources ⟨s.symbols, []⟩ with
  | .ok staging => .ok { s with values := s.values.store staging.values }
  | .error fault => .error (.evaluation fault)

section Grow

variable {rows columns : Nat}

/-- Growing is refused unless no side gets shorter and the size is one for a sheet. -/
lemma refused_iff :
    (rows < s.rows || columns < s.columns || !validSize rows columns) = true ↔
      ¬ (s.rows ≤ rows ∧ s.columns ≤ columns ∧ validSize rows columns = true) := by
  rw [Bool.or_eq_true, Bool.or_eq_true, decide_eq_true_eq, decide_eq_true_eq, Bool.not_eq_true',
    not_and_or, not_and_or, not_le, not_le, Bool.not_eq_true, or_assoc]

/-- Growing adds cells and links, and then finds the values downstream of the cells
that have got links. -/
lemma resize_eq : s.resize rows columns =
    if rows < s.rows || columns < s.columns || !validSize rows columns then
      .error (.dimensions rows columns)
    else
      (s.grown rows columns).refresh ((s.newEdges (s.extend rows columns)).map Prod.fst) := by
  rw [resize]
  split_ifs with hsize
  · rfl
  · dsimp only
    split_ifs with hedges
    · rw [List.isEmpty_iff] at hedges
      rw [grown, hedges, List.map_nil]
      rfl
    · rfl

lemma mem_addedCells : cell ∈ s.addedCells rows columns ↔
    (s.grid.resize rows columns).contains cell = true ∧ ¬ s.contains cell = true := by
  rw [addedCells, List.mem_filter, ← Grid.mem_gridCells_iff]
  exact and_congr Iff.rfl (by simp)

/-- The new edges lead from new cells to the cells whose formulas mention them. -/
lemma mem_newEdges {g : Sheet} {target : Location} : (target, user) ∈ s.newEdges g ↔
    ∃ formula, s.formula? user = some formula ∧ target ∈ g.targets formula ∧
      ¬ s.contains target = true := by
  simp only [newEdges, List.mem_flatMap, List.mem_filter, Prod.exists,
    Std.TreeMap.mem_toList_iff_getElem?_eq_some, mem_edges]
  constructor
  · rintro ⟨cell, formula, hformula, ⟨htarget, rfl⟩, hnew⟩
    exact ⟨formula, hformula, htarget, by simpa using hnew⟩
  · rintro ⟨formula, hformula, htarget, hnew⟩
    exact ⟨user, formula, hformula, ⟨htarget, rfl⟩, by simpa using hnew⟩

/-- A grown sheet has the old formulas, and blanks in the new cells. -/
lemma Linked.grid_grown (h : s.Linked) :
    (s.grown rows columns).grid = s.grid.resize rows columns := by
  rw [grid, Grid.resize]
  congr 1
  funext cell
  change (((s.fill (s.addedCells rows columns)).formula? cell)).getD s.blank = s.grid.formula cell
  rw [formula?_fill]
  split_ifs with hcell
  · rw [Option.getD_some, h.grid_formula_of_not_contains (mem_addedCells.mp hcell).2]
  · rfl

/-- Cells that come to lie on the sheet are blank and mention nothing. -/
lemma Linked.contains_of_feeds_resize (h : s.Linked) {target : Location}
    (hfeeds : (s.grid.resize rows columns).Feeds target user) : s.contains user = true := by
  by_contra hnot
  refine Grid.not_feeds_of_names ?_ hfeeds
  change (s.grid.formula user).names = []
  rw [h.grid_formula_of_not_contains hnot, h.blank_names]

variable (hrows : s.rows ≤ rows) (hcolumns : s.columns ≤ columns)

include hrows hcolumns in
lemma contains_resize (hcell : s.contains cell = true) :
    (s.grid.resize rows columns).contains cell = true := by
  obtain ⟨hrow, hcolumn⟩ := contains_iff.mp hcell
  exact Grid.contains_iff.mpr ⟨lt_of_lt_of_le hrow hrows, lt_of_lt_of_le hcolumn hcolumns⟩

include hrows hcolumns in
/-- A name spells an old cell on the grown sheet as it did before. -/
lemma cellOf?_resize {name : String} (hcell : s.contains cell = true) :
    (s.grid.resize rows columns).cellOf? name = some cell ↔ s.grid.cellOf? name = some cell := by
  rw [Grid.cellOf?_eq_some_iff, Grid.cellOf?_eq_some_iff,
    and_iff_left (contains_resize hrows hcolumns hcell), contains_grid, and_iff_left hcell]

include hrows hcolumns in
/-- Between old cells the links are the old ones. -/
lemma Linked.feeds_resize_iff (h : s.Linked) (hcell : s.contains cell = true) :
    (s.grid.resize rows columns).Feeds cell user ↔ s.grid.Feeds cell user := by
  constructor
  · intro hfeeds
    have huser := h.contains_of_feeds_resize hfeeds
    obtain ⟨-, name, hname, hname'⟩ := hfeeds
    exact ⟨huser, name, hname,
      (cellOf?_resize hrows hcolumns hcell).mp hname'⟩
  · rintro ⟨huser, name, hname, hname'⟩
    exact ⟨contains_resize hrows hcolumns huser, name, hname,
      (cellOf?_resize hrows hcolumns hcell).mpr hname'⟩

include hrows hcolumns in
/-- Growing closes no cycle. -/
lemma Linked.acyclic_resize (h : s.Linked) : (s.grid.resize rows columns).Acyclic := by
  -- a path that starts at an old cell stays on old cells, and is one of the old sheet
  have hold : ∀ {a b}, TransGen (s.grid.resize rows columns).Feeds a b → s.contains a = true →
      TransGen s.grid.Feeds a b ∧ s.contains b = true := by
    intro a b hpath ha
    induction hpath with
    | single hfeeds =>
        exact ⟨TransGen.single ((h.feeds_resize_iff hrows hcolumns ha).mp hfeeds),
          h.contains_of_feeds_resize hfeeds⟩
    | tail _ hfeeds ih =>
        exact ⟨ih.1.tail ((h.feeds_resize_iff hrows hcolumns ih.2).mp hfeeds),
          h.contains_of_feeds_resize hfeeds⟩
  intro cell hcycle
  obtain ⟨_, -, hlast⟩ := TransGen.tail'_iff.mp hcycle
  exact h.acyclic cell (hold hcycle (h.contains_of_feeds_resize hlast)).1

include hrows hcolumns in
/-- The new edges are the links of the grown sheet that start in new cells. -/
lemma Linked.mem_newEdges_iff (h : s.Linked) :
    (cell, user) ∈ s.newEdges (s.extend rows columns) ↔
      (s.grid.resize rows columns).Feeds cell user ∧ ¬ s.contains cell = true := by
  have htargets : ∀ e : Expr, cell ∈ (s.extend rows columns).targets e ↔
      ∃ name ∈ e.names, (s.grid.resize rows columns).cellOf? name = some cell := fun e =>
    mem_targets
  rw [mem_newEdges]
  constructor
  · rintro ⟨formula, hformula, htarget, hnew⟩
    have huser : s.contains user = true :=
      (h.mem_formulas user).mp (mem_of_getElem?_eq_some hformula)
    rw [← grid_formula hformula, htargets] at htarget
    exact ⟨⟨contains_resize hrows hcolumns huser, htarget⟩, hnew⟩
  · rintro ⟨hfeeds, hnew⟩
    have huser := h.contains_of_feeds_resize hfeeds
    exact ⟨s.grid.formula user, h.formula?_eq huser, (htargets _).mpr hfeeds.2, hnew⟩

include hrows hcolumns in
/-- After growing the users of cells are in line with the grown grid. -/
lemma Linked.mem_usersOf_grown (h : s.Linked) :
    user ∈ (s.grown rows columns).usersOf cell ↔ (s.grid.resize rows columns).Feeds cell user := by
  change user ∈ (((s.newEdges (s.extend rows columns)).foldl addUser
    (s.extend rows columns).users)[cell]?).getD [] ↔ _
  rw [mem_getD_foldl_addUser, h.mem_newEdges_iff hrows hcolumns]
  change user ∈ (s.fill (s.addedCells rows columns)).usersOf cell ∨
    (cell ∈ s.users.fill (s.addedCells rows columns) [] ∧ _) ↔ _
  rw [usersOf_fill, CellMap.mem_fill]
  by_cases hcell : s.contains cell = true
  · rw [if_neg (fun hmem => (mem_addedCells.mp hmem).2 hcell), h.mem_usersOf,
      h.feeds_resize_iff hrows hcolumns hcell]
    simp [hcell]
  · have hnone : user ∉ if cell ∈ s.addedCells rows columns then [] else s.usersOf cell := by
      split_ifs with hadded
      · exact List.not_mem_nil
      · rw [h.mem_usersOf]
        exact fun hfeeds => hcell hfeeds.contains
    rw [or_iff_right hnone]
    exact ⟨fun hnew => hnew.2.1, fun hfeeds =>
      ⟨Or.inl (mem_addedCells.mpr ⟨hfeeds.contains, hcell⟩), hfeeds, hcell⟩⟩

include hrows hcolumns in
/-- Growing leaves a sheet linked. -/
theorem Linked.grown (h : s.Linked) (hvalid : Sheet.validSize rows columns = true) :
    (s.grown rows columns).Linked := by
  have hmem : ∀ cell, (cell ∈ s.addedCells rows columns ∨ s.contains cell = true) ↔
      (s.grid.resize rows columns).contains cell = true := by
    intro cell
    rw [mem_addedCells]
    by_cases hold : s.contains cell = true
    · exact iff_of_true (Or.inr hold) (contains_resize hrows hcolumns hold)
    · simp [hold]
  refine ⟨lt_of_lt_of_le h.rows_pos hrows, lt_of_lt_of_le h.columns_pos hcolumns, hvalid,
    h.blank_names, fun cell => ?_, fun cell => ?_, fun cell => ?_, fun target user => ?_, ?_⟩
  · change cell ∈ s.formulas.fill (s.addedCells rows columns) s.blank ↔ _
    rw [CellMap.mem_fill, h.mem_formulas]
    exact hmem cell
  · change cell ∈ s.values.fill (s.addedCells rows columns) s.blank ↔ _
    rw [CellMap.mem_fill, h.mem_values]
    exact hmem cell
  · change cell ∈ (s.newEdges (s.extend rows columns)).foldl addUser
      (s.users.fill (s.addedCells rows columns) []) ↔ _
    rw [mem_foldl_addUser, CellMap.mem_fill, h.mem_users]
    exact hmem cell
  · rw [h.mem_usersOf_grown hrows hcolumns, h.grid_grown]
  · rw [h.grid_grown]
    exact h.acyclic_resize hrows hcolumns

end Grow

end Spreadsheet.Sheet
