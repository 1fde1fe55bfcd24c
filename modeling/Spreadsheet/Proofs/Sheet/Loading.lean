import Mathlib.Tactic
import Spreadsheet.Proofs.Grid.Pending
import Spreadsheet.Proofs.Sheet.Runs
import Spreadsheet.Proofs.Sheet.Saved

/-!
Loading saved sheets.

A saved sheet lists formulas row by row, whatever their order of dependence, and loading
tries those that cannot be written yet again. `Saved.grid` is what the text asks for.

* `writeRound_spec`: after a round the sheet has that grid without the formulas that are
  left, whichever these are;
* `UpToDate.exists_write`: as long as formulas are left, one of them can be written, if
  the sheet is up to date and the grid has no cycle and evaluates;
* `of_writeAll_eq_ok` and `UpToDate.exists_writeAll`: so all formulas can be written
  exactly if the grid is such;
* `Linked.of_load_eq_ok`: what is loaded, whatever the built-ins are;
* `Reached.load_exact`: loading succeeds exactly if it can.
-/

namespace Spreadsheet

open Relation

/-! ### What a saved sheet asks for -/

namespace Saved

/-- The formula that is listed for a cell, empty if there is none. -/
def formula (cells : List (Location × String)) (cell : Location) : Expr :=
  match cells.lookup cell with
  | some text =>
      match Formula.parse text with
      | .ok e => e
      | .error _ => .empty
  | none => .empty

/-- The listed formulas in an otherwise empty grid. -/
def grid (rows columns : Nat) (builtins : SymbolTable) (cells : List (Location × String)) : Grid :=
  ⟨rows, columns, builtins, formula cells⟩

variable {cells : List (Location × String)} {cell : Location} {entry : Location × String}

/-- The formula of a listed cell is the one that is listed for it. -/
lemma formula_of_mem (hnodup : (cells.map Prod.fst).Nodup) (hentry : entry ∈ cells) {e : Expr}
    (hparse : Formula.parse entry.2 = .ok e) : formula cells entry.1 = e := by
  rw [formula, lookup_eq_some_of_mem hnodup hentry]
  dsimp only
  rw [hparse]

/-- Cells that are not listed are empty. -/
lemma formula_of_notMem (hcell : cell ∉ cells.map Prod.fst) : formula cells cell = .empty := by
  have hnone : cells.lookup cell = none := by
    rw [List.lookup_eq_none_iff]
    intro entry hentry
    rw [bne_iff_ne]
    rintro rfl
    exact hcell (List.mem_map_of_mem hentry)
  rw [formula, hnone]

/-- Without its formulas the grid is empty. -/
lemma grid_without (rows columns : Nat) (builtins : SymbolTable) :
    (grid rows columns builtins cells).without (cells.map Prod.fst)
      = ⟨rows, columns, builtins, fun _ => .empty⟩ := by
  rw [grid, Grid.without]
  congr 1
  funext cell
  split_ifs with hcell
  · rfl
  · exact formula_of_notMem hcell

end Saved

namespace Sheet

variable {s last next : Sheet} {g : Grid} {entries : List (Location × String)}

/-! ### Rounds of writing -/

/-- The cells that cannot be written are among the given ones, in their order. -/
lemma writeRound_sublist {failed : List ((Location × String) × SheetFault)}
    (hround : s.writeRound entries = (last, failed)) : (failed.map Prod.fst).Sublist entries := by
  induction entries generalizing s failed with
  | nil =>
      obtain ⟨-, rfl⟩ := Prod.mk.inj hround
      exact List.Sublist.refl []
  | cons entry rest ih =>
      rw [writeRound] at hround
      cases hwrite : s.write entry.1 entry.2 with
      | ok next =>
          rw [hwrite] at hround
          exact (ih hround).cons entry
      | error fault =>
          rw [hwrite] at hround
          obtain ⟨rfl, rfl⟩ := Prod.mk.inj hround
          exact (ih rfl).cons_cons entry

/-- A round that writes nothing has tried every cell in vain. -/
lemma write_of_stuck {failed : List ((Location × String) × SheetFault)}
    (hround : s.writeRound entries = (last, failed)) (hlength : entries.length ≤ failed.length) :
    ∀ entry ∈ entries, ∃ fault, s.write entry.1 entry.2 = .error fault := by
  induction entries generalizing failed with
  | nil => simp
  | cons entry rest ih =>
      rw [writeRound] at hround
      cases hwrite : s.write entry.1 entry.2 with
      | ok next =>
          rw [hwrite] at hround
          -- a cell that is written is missing among the failed ones, which would be too few
          have hshort := (writeRound_sublist hround).length_le
          rw [List.length_map] at hshort
          rw [List.length_cons] at hlength
          omega
      | error fault =>
          rw [hwrite] at hround
          obtain ⟨rfl, rfl⟩ := Prod.mk.inj hround
          intro other hother
          rcases List.mem_cons.mp hother with rfl | hother
          · exact ⟨fault, hwrite⟩
          · exact ih rfl (by simpa using hlength) other hother

/-- The formulas in a list of entries are those of the grid. -/
def Lists (g : Grid) (entries : List (Location × String)) : Prop :=
  (entries.map Prod.fst).Nodup ∧ ∀ entry ∈ entries, ∀ e, Formula.parse entry.2 = .ok e →
    g.formula entry.1 = e

lemma Lists.sublist {rest : List (Location × String)} (h : Lists g entries)
    (hrest : rest.Sublist entries) : Lists g rest :=
  ⟨h.1.sublist (hrest.map Prod.fst), fun entry hentry => h.2 entry (hrest.subset hentry)⟩

/-- Writing one of the missing formulas fills it in. -/
lemma write_missing {entry : Location × String} {pending rest : List Location}
    (hgrid : s.grid = g.without pending)
    (hpending : ∀ cell, cell ∈ pending ↔ cell ∈ entry.1 :: rest) (hrest : entry.1 ∉ rest)
    (hformula : ∀ e, Formula.parse entry.2 = .ok e → g.formula entry.1 = e)
    (hwrite : s.write entry.1 entry.2 = .ok next) :
    next.grid = g.without rest ∧ ∃ e, Formula.parse entry.2 = .ok e := by
  obtain ⟨e, hparse, hupdate⟩ := write_eq_ok hwrite
  obtain ⟨-, -, staging, -, rfl⟩ := update_eq_ok hupdate
  refine ⟨?_, e, hparse⟩
  rw [grid_commit, hgrid, Grid.without_congr hpending, ← hformula e hparse,
    Grid.write_without hrest]

/-- **What a round of writing leaves.** The formulas that could not be written are
missing, together with those that were not tried. -/
theorem writeRound_spec (behind : List Location)
    {failed : List ((Location × String) × SheetFault)}
    (hgrid : s.grid = g.without (behind ++ entries.map Prod.fst))
    (hbehind : ∀ cell ∈ behind, cell ∉ entries.map Prod.fst) (hlists : Lists g entries)
    (hround : s.writeRound entries = (last, failed)) :
    last.grid = g.without (behind ++ (failed.map Prod.fst).map Prod.fst) ∧
      ∀ entry ∈ entries, entry ∈ failed.map Prod.fst ∨ ∃ e, Formula.parse entry.2 = .ok e := by
  -- behind are the cells of the round that were tried in vain, and the grid lacks them and
  -- the cells that are yet to be tried
  induction entries generalizing s behind failed with
  | nil =>
      obtain ⟨rfl, rfl⟩ := Prod.mk.inj hround
      exact ⟨hgrid, by simp⟩
  | cons entry rest ih =>
      have hrest := hlists.sublist (List.sublist_cons_self entry rest)
      have hfresh : entry.1 ∉ rest.map Prod.fst := (List.nodup_cons.mp hlists.1).1
      have hbehind' : entry.1 ∉ behind := fun hmem => hbehind entry.1 hmem (by simp)
      rw [writeRound] at hround
      cases hwrite : s.write entry.1 entry.2 with
      | ok next =>
          rw [hwrite] at hround
          -- the formula fills the gap of its cell, and the gaps of the others remain
          have hpending : ∀ cell, cell ∈ behind ++ (entry :: rest).map Prod.fst ↔
              cell ∈ entry.1 :: (behind ++ rest.map Prod.fst) := by
            simp [or_left_comm]
          have hothers : entry.1 ∉ behind ++ rest.map Prod.fst := by
            rw [List.mem_append, not_or]
            exact ⟨hbehind', hfresh⟩
          obtain ⟨hgrid', hparse⟩ := write_missing hgrid hpending hothers
            (hlists.2 entry List.mem_cons_self) hwrite
          obtain ⟨hgrid'', hall⟩ := ih behind hgrid'
            (fun cell hcell hmem => hbehind cell hcell (List.mem_cons_of_mem _ hmem)) hrest hround
          refine ⟨hgrid'', fun other hother => ?_⟩
          rcases List.mem_cons.mp hother with rfl | hother
          · exact Or.inr hparse
          · exact hall other hother
      | error fault =>
          rw [hwrite] at hround
          obtain ⟨rfl, rfl⟩ := Prod.mk.inj hround
          -- for the rest of the round the cell is one of those that are left behind
          have hgrid' : s.grid = g.without ((behind ++ [entry.1]) ++ rest.map Prod.fst) := by
            rw [hgrid, List.append_assoc]
            rfl
          have hbehind'' : ∀ cell ∈ behind ++ [entry.1], cell ∉ rest.map Prod.fst := by
            intro cell hcell hmem
            rcases List.mem_append.mp hcell with hcell | hcell
            · exact hbehind cell hcell (List.mem_cons_of_mem _ hmem)
            · exact hfresh (List.mem_singleton.mp hcell ▸ hmem)
          obtain ⟨hgrid'', hall⟩ := ih (behind ++ [entry.1]) hgrid' hbehind'' hrest rfl
          refine ⟨?_, fun other hother => ?_⟩
          · rw [hgrid'', List.append_assoc]
            rfl
          · rw [List.map_cons, List.mem_cons]
            rcases List.mem_cons.mp hother with rfl | hother
            · exact Or.inl (Or.inl rfl)
            · exact (hall other hother).imp_left Or.inr

/-- A missing formula can be written if nothing upstream of its cell is missing. -/
lemma UpToDate.exists_update (h : s.UpToDate) (hg : g.Acyclic) (hevaluates : g.Evaluates)
    {cell : Location} {rest : List Location} (hgrid : s.grid = g.without (cell :: rest))
    (hrest : cell ∉ rest) (hcell : g.contains cell = true)
    (hup : ∀ source, ReflTransGen g.Feeds source cell → source ∉ rest) :
    ∃ next, s.update cell (g.formula cell) = .ok next := by
  -- a sheet that is up to date evaluates, as far as it has got
  have hpart : (g.without (cell :: rest)).Evaluates := by
    rw [← hgrid]
    exact fun other hother => ⟨_, h.worth_eq other hother⟩
  have hwrite : s.grid.write cell (g.formula cell) = g.without rest := by
    rw [hgrid, Grid.write_without hrest]
  have hinside : s.contains cell = true := by
    rw [← contains_grid, hgrid]
    exact hcell
  obtain ⟨next, hnext, -⟩ := h.update_of_evaluates hinside (hwrite ▸ hg.without rest)
    (hwrite ▸ Grid.evaluates_without hg hevaluates hpart hup)
  exact ⟨next, hnext⟩

/-- **Some formula can be written.** As long as formulas are missing there is one whose
cell has nothing missing upstream, and with it the grid still evaluates. -/
theorem UpToDate.exists_write (h : s.UpToDate) (hg : g.Acyclic) (hevaluates : g.Evaluates)
    (hgrid : s.grid = g.without (entries.map Prod.fst)) (hlists : Lists g entries)
    (hcontains : ∀ entry ∈ entries, g.contains entry.1 = true)
    (hparse : ∀ entry ∈ entries, ∃ e, Formula.parse entry.2 = .ok e) (hne : entries ≠ []) :
    ∃ entry ∈ entries, ∃ next, s.write entry.1 entry.2 = .ok next := by
  have hcells : entries.map Prod.fst ≠ [] := by simpa using hne
  -- the links of the whole grid have no cycle, so some missing cell has none upstream
  obtain ⟨cell, hcell, hfirst⟩ := Grid.exists_next hg hcells
  obtain ⟨entry, hentry, rfl⟩ := List.mem_map.mp hcell
  obtain ⟨e, he⟩ := hparse entry hentry
  set rest := (entries.map Prod.fst).filter (· ≠ entry.1) with hrest
  have hfresh : entry.1 ∉ rest := by simp [hrest]
  have hpending : ∀ cell, cell ∈ entries.map Prod.fst ↔ cell ∈ entry.1 :: rest := by
    intro cell
    rw [List.mem_cons, hrest, List.mem_filter, decide_eq_true_eq]
    by_cases heq : cell = entry.1
    · exact iff_of_true (heq ▸ hcell) (Or.inl heq)
    · simp [heq]
  have hup : ∀ source, ReflTransGen g.Feeds source entry.1 → source ∉ rest := by
    intro source hpath hsource
    rw [hrest, List.mem_filter, decide_eq_true_eq] at hsource
    exact hsource.2 (hfirst source hpath hsource.1)
  rw [Grid.without_congr hpending] at hgrid
  obtain ⟨next, hnext⟩ :=
    h.exists_update hg hevaluates hgrid hfresh (hcontains entry hentry) hup
  rw [hlists.2 entry hentry e he] at hnext
  refine ⟨entry, hentry, next, ?_⟩
  rw [write, he]
  exact hnext

/-! ### Writing all cells -/

/-- If all formulas have been written, they were formulas, and the sheet has the whole grid. -/
theorem of_writeAll_eq_ok (hgrid : s.grid = g.without (entries.map Prod.fst))
    (hlists : Lists g entries) (hwrite : s.writeAll entries = .ok last) :
    last.grid = g ∧ ∀ entry ∈ entries, ∃ e, Formula.parse entry.2 = .ok e := by
  fun_induction writeAll s entries with
  | case1 s entries final hround =>
      obtain rfl := Except.ok.inj hwrite
      obtain ⟨hgrid', hall⟩ := writeRound_spec [] hgrid (by simp) hlists hround
      exact ⟨by simpa using hgrid', by simpa using hall⟩
  | case2 s entries final entry fault rest hround hlength ih =>
      obtain ⟨hgrid', hall⟩ := writeRound_spec [] hgrid (by simp) hlists hround
      obtain ⟨hgrid'', hothers⟩ :=
        ih hgrid' (hlists.sublist (writeRound_sublist hround)) hwrite
      exact ⟨hgrid'', fun other hother => (hall other hother).elim (hothers other) id⟩
  | case3 s entries final entry fault rest hround hlength => cases hwrite

/-- All formulas can be written, in as many rounds as it takes, if the grid has no cycle
and evaluates. -/
theorem UpToDate.exists_writeAll (h : s.UpToDate) (hg : g.Acyclic) (hevaluates : g.Evaluates)
    (hgrid : s.grid = g.without (entries.map Prod.fst)) (hlists : Lists g entries)
    (hcontains : ∀ entry ∈ entries, g.contains entry.1 = true)
    (hparse : ∀ entry ∈ entries, ∃ e, Formula.parse entry.2 = .ok e) :
    ∃ last, s.writeAll entries = .ok last := by
  fun_induction writeAll s entries with
  | case1 s entries final hround => exact ⟨final, rfl⟩
  | case2 s entries final entry fault rest hround hlength ih =>
      have hsub := writeRound_sublist hround
      obtain ⟨hgrid', -⟩ := writeRound_spec [] hgrid (by simp) hlists hround
      have hfinal := kept_upToDate.byText.writeRound entries h
      rw [hround] at hfinal
      exact ih hfinal hgrid' (hlists.sublist hsub)
        (fun other hother => hcontains other (hsub.subset hother))
        fun other hother => hparse other (hsub.subset hother)
  -- a round that writes nothing: there is a formula that it could have written
  | case3 s entries final entry fault rest hround hlength =>
      have hne : entries ≠ [] := by
        rintro rfl
        exact absurd (writeRound_sublist hround).length_le (by simp)
      obtain ⟨written, hwritten, next, hnext⟩ :=
        h.exists_write hg hevaluates hgrid hlists hcontains hparse hne
      obtain ⟨fault', hfault⟩ :=
        write_of_stuck hround (by rw [List.length_cons]; omega) written hwritten
      rw [hfault] at hnext
      cases hnext

/-! ### Loading -/

/-- Emptied and grown, a sheet is blank everywhere. -/
lemma Linked.grid_resize_clear (h : s.Linked) (rows columns : Nat) :
    s.clear.grid.resize rows columns = ⟨rows, columns, s.builtins, fun _ => s.blank⟩ := by
  rw [Grid.resize]
  congr 1
  funext cell
  exact grid_formula_clear h.keys

/-- An emptied sheet can be grown to every size that is not too large. -/
lemma UpToDate.exists_resize_clear (h : s.UpToDate) {rows columns : Nat} (hrows : s.rows ≤ rows)
    (hcolumns : s.columns ≤ columns) (hvalid : Sheet.validSize rows columns = true) :
    ∃ grown, s.clear.resize rows columns = .ok grown ∧ grown.UpToDate ∧
      grown.grid = ⟨rows, columns, s.builtins, fun _ => s.blank⟩ := by
  have hgrid := h.grid_resize_clear rows columns
  have hacyclic : (s.clear.grid.resize rows columns).Acyclic :=
    h.clear.toLinked.acyclic_resize (s := s.clear) hrows hcolumns
  rcases h.clear.grows_spec (grows_resize s.clear rows columns) with
    ⟨hsize, -⟩ | ⟨-, fault, -, cell, hcell, hworth⟩ | ⟨-, -, grown, hgrown, hdate, hgrid'⟩
  · exact absurd ⟨hrows, hcolumns, hvalid⟩ hsize
  · rw [Grid.worth_eq hacyclic hcell, hgrid, reduce_blank h.blank_eq] at hworth
    cases hworth
  · exact ⟨grown, hgrown, hdate, hgrid'.trans hgrid⟩

/-- What a successful load has done. -/
lemma load_eq_ok_iff {text : String} {count : Nat} :
    s.load text = .ok (last, count) ↔ ∃ rows columns cells grown,
      Saved.size text = .ok (rows, columns) ∧ Saved.cells text = .ok cells ∧
      s.clear.resize (max rows s.rows) (max columns s.columns) = .ok grown ∧
      grown.writeAll cells = .ok last ∧ cells.length = count := by
  simp only [load, bind_eq_ok_iff, Prod.exists]
  constructor
  · rintro ⟨rows, columns, hsize, cells, hcells, grown, hgrown, final, hfinal, hresult⟩
    obtain ⟨rfl, rfl⟩ := Prod.mk.inj (Except.ok.inj hresult)
    exact ⟨rows, columns, cells, grown, hsize, hcells, hgrown, hfinal, rfl⟩
  · rintro ⟨rows, columns, cells, grown, hsize, hcells, hgrown, hlast, rfl⟩
    exact ⟨rows, columns, hsize, cells, hcells, grown, hgrown, last, hlast, rfl⟩

/-- A saved sheet lists the formulas of its grid. -/
lemma lists_grid {text : String} {cells : List (Location × String)} {rows columns : Nat}
    (hsize : Saved.size text = .ok (rows, columns)) (hcells : Saved.cells text = .ok cells)
    (rows' columns' : Nat) (builtins : SymbolTable) :
    Lists (Saved.grid rows' columns' builtins cells) cells := by
  have hnodup : (cells.map Prod.fst).Nodup := by
    rw [List.nodup_iff_pairwise_ne, List.pairwise_map]
    exact (Saved.pairwise_cells hsize hcells).1.imp fun hbefore => hbefore.ne
  exact ⟨hnodup, fun entry hentry e hparse => Saved.formula_of_mem hnodup hentry hparse⟩

/-- What loading leads to is a matter of the sizes and of the text: the sheet has the grid
that the text asks for, all formulas of which can be read. -/
theorem Linked.of_load_eq_ok (h : s.Linked) (hblank : s.blank = .empty) {text : String}
    {count rows columns : Nat} {cells : List (Location × String)}
    (hsize : Saved.size text = .ok (rows, columns)) (hcells : Saved.cells text = .ok cells)
    (hload : s.load text = .ok (last, count)) :
    count = cells.length ∧ max columns s.columns ≤ maxColumns ∧
      (∀ entry ∈ cells, ∃ e, Formula.parse entry.2 = .ok e) ∧
      last.grid = Saved.grid (max rows s.rows) (max columns s.columns) s.builtins cells := by
  obtain ⟨rows', columns', cells', grown, hsize', hcells', hgrown, hlast, rfl⟩ :=
    load_eq_ok_iff.mp hload
  obtain ⟨rfl, rfl⟩ : rows = rows' ∧ columns = columns' := by simpa [hsize] using hsize'
  obtain rfl : cells = cells' := by simpa [hcells] using hcells'
  have hgrows : s.clear.Grows _ _ (.ok grown) := hgrown ▸ grows_resize _ _ _
  obtain ⟨⟨-, -, hvalid⟩, -⟩ := hgrows.eq_ok
  have hgrid := h.clear.grid_of_grows hgrows
  rw [h.grid_resize_clear, hblank, ← Saved.grid_without] at hgrid
  obtain ⟨hfinal, hparse⟩ := of_writeAll_eq_ok hgrid (lists_grid hsize hcells _ _ _) hlast
  exact ⟨rfl, (validSize_iff.mp hvalid).2, hparse, hfinal⟩

/-- With values that are up to date, the loaded sheet has such values as well. -/
lemma UpToDate.of_load_eq_ok (h : s.UpToDate) (hblank : s.blank = .empty) {text : String}
    {count rows columns : Nat} {cells : List (Location × String)}
    (hsize : Saved.size text = .ok (rows, columns)) (hcells : Saved.cells text = .ok cells)
    (hload : s.load text = .ok (last, count)) :
    count = cells.length ∧ max columns s.columns ≤ maxColumns ∧
      (∀ entry ∈ cells, ∃ e, Formula.parse entry.2 = .ok e) ∧ last.UpToDate ∧
      last.grid = Saved.grid (max rows s.rows) (max columns s.columns) s.builtins cells := by
  obtain ⟨hcount, hcolumns, hparse, hgrid⟩ := h.toLinked.of_load_eq_ok hblank hsize hcells hload
  exact ⟨hcount, hcolumns, hparse, kept_upToDate.byText.load h hload, hgrid⟩

/-- Whatever can be loaded is. -/
lemma UpToDate.exists_load (h : s.UpToDate) (hblank : s.blank = .empty) {text : String}
    {rows columns : Nat} {cells : List (Location × String)}
    (hsize : Saved.size text = .ok (rows, columns)) (hcells : Saved.cells text = .ok cells)
    (hcolumns : max columns s.columns ≤ maxColumns)
    (hparse : ∀ entry ∈ cells, ∃ e, Formula.parse entry.2 = .ok e)
    (hacyclic : (Saved.grid (max rows s.rows) (max columns s.columns) s.builtins cells).Acyclic)
    (hevaluates :
      (Saved.grid (max rows s.rows) (max columns s.columns) s.builtins cells).Evaluates) :
    ∃ result, s.load text = .ok result := by
  have hvalid : Sheet.validSize (max rows s.rows) (max columns s.columns) = true :=
    validSize_iff.mpr ⟨max_lt (Saved.rows_lt_of_size hsize) h.rows_lt, hcolumns⟩
  obtain ⟨grown, hgrown, hdate, hgrid⟩ :=
    h.exists_resize_clear (le_max_right rows s.rows) (le_max_right columns s.columns) hvalid
  rw [hblank, ← Saved.grid_without] at hgrid
  have hcontains : ∀ entry ∈ cells,
      (Saved.grid (max rows s.rows) (max columns s.columns) s.builtins cells).contains entry.1
        = true := by
    intro entry hentry
    obtain ⟨hrow, hcolumn⟩ := (Saved.pairwise_cells hsize hcells).2 entry hentry
    exact Grid.contains_iff.mpr ⟨lt_max_of_lt_left hrow, lt_max_of_lt_left hcolumn⟩
  obtain ⟨last, hlast⟩ := hdate.exists_writeAll hacyclic hevaluates hgrid
    (lists_grid hsize hcells _ _ _) hcontains hparse
  exact ⟨(last, cells.length), load_eq_ok_iff.mpr
    ⟨rows, columns, cells, grown, hsize, hcells, hgrown, hlast, rfl⟩⟩

/-- **Loading is complete and does not depend on the order of cells.** On every sheet that
is reached, a text is loaded exactly if its header and its cells can be read, the
sheet is not to become too wide, all formulas can be read, and the grid of these
formulas has no cycle and evaluates. The order in which the text lists the cells and
the former contents of the sheet do not matter. The sheet then has the larger of both
sizes, the formulas of that grid, and their values from scratch. -/
theorem Reached.load_exact {t : Template} (hfree : FreeOfCells t.builtins)
    (hblank : t.blank = .empty) (h : Reached t s) (text : String) :
    ((∃ result, s.load text = .ok result) ↔
      ∃ rows columns cells, Saved.size text = .ok (rows, columns) ∧
        Saved.cells text = .ok cells ∧ max columns s.columns ≤ 26 ∧
        (∀ entry ∈ cells, ∃ e, Formula.parse entry.2 = .ok e) ∧
        (Saved.grid (max rows s.rows) (max columns s.columns) t.builtins cells).Acyclic ∧
        (Saved.grid (max rows s.rows) (max columns s.columns) t.builtins cells).Evaluates) ∧
    ∀ last count, s.load text = .ok (last, count) →
      ∃ rows columns cells, Saved.size text = .ok (rows, columns) ∧
        Saved.cells text = .ok cells ∧ count = cells.length ∧
        last.rows = max rows s.rows ∧ last.columns = max columns s.columns ∧
        (∀ entry ∈ cells, ∃ e, Formula.parse entry.2 = .ok e ∧ last.formula? entry.1 = some e) ∧
        (∀ cell, last.contains cell = true → cell ∉ cells.map Prod.fst →
          last.formula? cell = some .empty) ∧
        ∀ cell, last.contains cell = true → ∃ value, last.value? cell = some value ∧
          (Saved.grid (max rows s.rows) (max columns s.columns) t.builtins cells).worth cell
            = .ok value := by
  obtain ⟨hblank', hbuiltins⟩ := h.template
  have hdate := h.upToDate hfree (Or.inl hblank)
  rw [hblank] at hblank'
  rw [← hbuiltins]
  refine ⟨⟨?_, ?_⟩, fun last count hload => ?_⟩
  · rintro ⟨⟨last, count⟩, hload⟩
    obtain ⟨rows, columns, cells, -, hsize, hcells, -⟩ := load_eq_ok_iff.mp hload
    obtain ⟨-, hcolumns, hparse, hlast, hgrid⟩ := hdate.of_load_eq_ok hblank' hsize hcells hload
    refine ⟨rows, columns, cells, hsize, hcells, hcolumns, hparse, hgrid ▸ hlast.acyclic, ?_⟩
    rw [← hgrid]
    exact fun cell hcell => ⟨_, hlast.worth_eq cell hcell⟩
  · rintro ⟨rows, columns, cells, hsize, hcells, hcolumns, hparse, hacyclic, hevaluates⟩
    exact hdate.exists_load hblank' hsize hcells hcolumns hparse hacyclic hevaluates
  · obtain ⟨rows, columns, cells, -, hsize, hcells, -⟩ := load_eq_ok_iff.mp hload
    obtain ⟨hcount, -, hparse, hlast, hgrid⟩ := hdate.of_load_eq_ok hblank' hsize hcells hload
    have hlists := lists_grid hsize hcells (max rows s.rows) (max columns s.columns) s.builtins
    have hrows : last.grid.rows = max rows s.rows := by rw [hgrid]; rfl
    have hcolumns : last.grid.columns = max columns s.columns := by rw [hgrid]; rfl
    refine ⟨rows, columns, cells, hsize, hcells, hcount, hrows, hcolumns, fun entry hentry => ?_,
      fun cell hcell hmem => ?_, fun cell hcell => ?_⟩
    · obtain ⟨e, he⟩ := hparse entry hentry
      obtain ⟨hrow, hcolumn⟩ := (Saved.pairwise_cells hsize hcells).2 entry hentry
      have hcell : last.grid.contains entry.1 = true := by
        rw [Grid.contains_iff, hrows, hcolumns]
        exact ⟨lt_max_of_lt_left hrow, lt_max_of_lt_left hcolumn⟩
      refine ⟨e, he, ?_⟩
      rw [hlast.formula?_eq hcell, hgrid, hlists.2 entry hentry e he]
    · rw [hlast.formula?_eq hcell, hgrid]
      exact congrArg some (Saved.formula_of_notMem hmem)
    · rw [← hgrid]
      exact ⟨_, hlast.value?_eq hcell, hlast.worth_eq cell hcell⟩

/-- A text whose first cell mentions the second is loaded in two rounds. -/
theorem load_exact_forward :
    ∃ s last count, Reached (Template.new .empty) s ∧
      s.load "1|2\nB0 + 1|10" = .ok (last, count) ∧ count = 2 ∧
      last.formula? ⟨0, 0⟩ = some (.op .plus [.ref "B0", .const 1]) := by
  have hmake : (Template.new .empty).make 1 1 = .ok _ := rfl
  obtain ⟨s, hs, hok⟩ : ∃ s, Reached (Template.new .empty) s ∧
      (s.load "1|2\nB0 + 1|10").toOption.isSome = true := by
    refine ⟨_, .make hmake, ?_⟩
    decide +kernel
  obtain ⟨⟨last, count⟩, hload⟩ := Option.isSome_iff_exists.mp hok
  rw [toOption_eq_some_iff] at hload
  obtain ⟨-, hloaded⟩ := Reached.load_exact numeric_empty.freeOfCells rfl hs "1|2\nB0 + 1|10"
  obtain ⟨rows, columns, cells, -, hcells, hcount, -, -, hformulas, -⟩ := hloaded last count hload
  have hcells' : Saved.cells "1|2\nB0 + 1|10" = .ok [(⟨0, 0⟩, "B0 + 1"), (⟨0, 1⟩, "10")] := rfl
  obtain rfl : _ = cells := Except.ok.inj (hcells'.symm.trans hcells)
  obtain ⟨e, he, hformula⟩ := hformulas (⟨0, 0⟩, "B0 + 1") List.mem_cons_self
  have he' : Formula.parse "B0 + 1" = .ok (.op .plus [.ref "B0", .const 1]) := rfl
  obtain rfl : _ = e := Except.ok.inj (he'.symm.trans he)
  exact ⟨s, last, count, hs, hload, hcount, hformula⟩

end Sheet

end Spreadsheet
