import Mathlib.Tactic
import Spreadsheet.Proofs.Sheet.Determined

/-!
Sheets whose blanks have not been evaluated.

The blank that a sheet is made with is not evaluated before it is written. It may be any
expression that mentions nothing, and then a cell that is still blank holds this expression
instead of what it is worth. So there is more than the formulas to what the values are, but not
much more: this holds of the blank cells alone.

* `Suits` says which values a cell may have;
* `Consistent` sheets have such values, and `kept_consistent` says that they keep them;
* `Linked.value?_of_not_leads`: an update leaves the values of other cells than its dependents, and
  `Linked.value?_of_update`: if it writes nothing or a number, the value is what is written;
* `Agrees.value?_eq_of_consistent`: two sheets that agree in their formulas and in the values of
  blank cells agree in all values.
-/

namespace Spreadsheet.Sheet

open Relation

variable {t : Template} {s s' next : Sheet} {cell other : Location} {formula blank v : Expr}
  {g : Grid}

/-! ### Values of cells -/

/-- The value is what the cell is worth from scratch, or it is the blank that the cell was made
with. -/
def Suits (g : Grid) (blank : Expr) (cell : Location) (v : Expr) : Prop :=
  g.worth cell = .ok v ∨ (g.formula cell = blank ∧ v = blank)

/-- In both cases it tells what the cell is worth. -/
lemma Suits.tells (h : Suits g blank cell v) (hg : g.Acyclic) (hfree : FreeOfCells g.builtins)
    (hblank : blank.names = []) (hcell : g.contains cell = true) : Tells g cell v := by
  rcases h with hworth | ⟨hformula, rfl⟩
  · exact tells_of_worth hg hfree hcell hworth
  · refine ⟨by simp [hblank], ?_⟩
    rw [Grid.worth_eq hg hcell, hformula, Expr.selfWorth]
    exact Expr.reduce_congr (by simp [hblank])

/-- Stored entries suit their cells if they are what these are worth, and if the values of the
other cells did already. -/
lemma suits_store {worth : Location → Expr} {order : List Location}
    {entries : List (Location × Expr)} (hentries : entries = order.map fun c => (c, worth c))
    (hnodup : order.Nodup) (hworth : ∀ cell ∈ order, g.worth cell = .ok (worth cell))
    (hrest : cell ∉ order → Suits g blank cell (s.current cell)) :
    Suits g blank cell (({ s with values := s.values.store entries } : Sheet).current cell) := by
  rw [current_store_eq hentries hnodup]
  split_ifs with hmem
  · exact Or.inl (hworth cell hmem)
  · exact hrest hmem

/-- Staging leaves values that suit all cells, if those of the cells that are not evaluated did
already. -/
lemma suits_of_stageAll {formulas : Location → Expr} {order : List Location} {staging : Staging}
    (h : s.Linked) (hfree : FreeOfCells s.builtins)
    (hacyclic : { s.grid with formula := formulas }.Acyclic)
    (hcontains : ∀ cell ∈ order, s.contains cell = true) (hnodup : order.Nodup)
    (horder : order.Pairwise fun a b => ¬ { s.grid with formula := formulas }.Feeds b a)
    (hrest : ∀ cell, s.contains cell = true → cell ∉ order →
      Suits { s.grid with formula := formulas } s.blank cell (s.current cell))
    (hstaging : s.stageAll formulas order ⟨s.symbols, []⟩ = .ok staging) :
    ∀ cell, s.contains cell = true → Suits { s.grid with formula := formulas } s.blank cell
      (({ s with values := s.values.store staging.values } : Sheet).current cell) := by
  rcases stageAll_spec h hfree ⟨s.symbols, []⟩ hacyclic hcontains hnodup horder
    (fun cell hcell hmem => (hrest cell hcell hmem).tells hacyclic hfree h.blank_names hcell)
    h.holds_symbols with ⟨last, worth, hlast, hall, hvalues⟩ | ⟨fault, hlast, -⟩
  · obtain rfl := Except.ok.inj (hlast.symm.trans hstaging)
    exact fun cell hcell => suits_store hvalues hnodup hall (hrest cell hcell)
  · cases hlast.symm.trans hstaging

/-! ### Consistent sheets -/

/-- The values of a sheet suit its cells. Built-ins mention no cells. -/
structure Consistent (s : Sheet) : Prop extends Linked s where
  free : FreeOfCells s.builtins
  suits : ∀ cell, s.contains cell = true → Suits s.grid s.blank cell (s.current cell)

/-- It does not matter for this how users are listed. -/
lemma Reordered.consistent (hnext : s.Reordered next) (h : s.Consistent) : next.Consistent := by
  have hlinked := hnext.linked h.toLinked
  obtain ⟨users, rfl, -⟩ := hnext
  exact ⟨hlinked, h.free, h.suits⟩

/-- An update leaves a sheet consistent. -/
lemma Consistent.update (h : s.Consistent) (hupdate : s.update cell formula = .ok next) :
    next.Consistent := by
  have hlinked := h.toLinked.update hupdate
  obtain ⟨hcell, hvia, staging, hstaging, rfl⟩ := update_eq_ok hupdate
  have hacyclic := (h.cycleThrough?_eq_none_iff hcell).mp hvia
  have hrest : ∀ other, s.contains other = true → other ∉ cell :: s.evaluationOrder [cell] →
      Suits (s.grid.write cell formula) s.blank other (s.current other) := by
    intro other hother hmem
    have hne : other ≠ cell := fun heq => hmem (heq ▸ List.mem_cons_self)
    rw [h.mem_order] at hmem
    rw [Suits, h.worth_write hacyclic hother hmem, Grid.formula_write_of_ne hne]
    exact h.suits other hother
  rw [h.stageUpdate_eq hcell] at hstaging
  refine ⟨hlinked, h.free, ?_⟩
  rw [grid_commit]
  exact suits_of_stageAll h.toLinked h.free hacyclic (fun _ => h.contains_of_mem_order hcell)
    h.nodup_order (h.pairwise_order hacyclic) hrest hstaging

/-- An emptied sheet is consistent: all its cells are blank. -/
lemma consistent_clear (hlinked : s.clear.Linked) (hfree : FreeOfCells s.builtins)
    (hformula : ∀ cell, s.clear.grid.formula cell = s.blank) : s.clear.Consistent := by
  refine ⟨hlinked, hfree, fun cell hcell => Or.inr ⟨hformula cell, ?_⟩⟩
  exact current_eq (value?_clear (s := s) hcell)

/-- A new sheet is consistent. -/
lemma consistent_make {rows columns : Nat} (hfree : FreeOfCells t.builtins)
    (hblank : t.blank.names = []) (hmake : t.make rows columns = .ok s) : s.Consistent := by
  have hlinked := linked_make hblank hmake
  obtain ⟨-, -, -, rfl⟩ := make_eq_clear hmake
  exact consistent_clear hlinked hfree (grid_formula_make hmake)

section Grow

variable {rows columns : Nat} (hrows : s.rows ≤ rows) (hcolumns : s.columns ≤ columns)

include hrows hcolumns

/-- The values that are not found again after growing suit their cells. -/
lemma Consistent.suits_grown (h : s.Consistent) (hvalid : Sheet.validSize rows columns = true)
    (hcell : (s.grid.resize rows columns).contains cell = true)
    (hmem : cell ∉ s.outdated rows columns) :
    Suits (s.grid.resize rows columns) s.blank cell ((s.grown rows columns).current cell) := by
  rw [current_grown]
  by_cases hold : s.contains cell = true
  · have hworth := h.worth_resize hrows hcolumns hold fun source hsource hpath =>
      hmem (h.mem_outdated hrows hcolumns hvalid hsource hpath)
    rw [if_neg (fun hadded => (mem_addedCells.mp hadded).2 hold), Suits, hworth]
    exact h.suits cell hold
  · rw [if_pos (mem_addedCells.mpr ⟨hcell, hold⟩)]
    exact Or.inr ⟨h.grid_formula_of_not_contains hold, rfl⟩

end Grow

/-- Growing leaves a sheet consistent. -/
lemma Consistent.of_grows {rows columns : Nat} (h : s.Consistent)
    (hgrows : s.Grows rows columns (.ok next)) : next.Consistent := by
  have hnext := h.toLinked.of_grows hgrows
  obtain ⟨⟨hrows, hcolumns, hvalid⟩, linked, sources, hlinked, hsources, hrefresh⟩ := hgrows.eq_ok
  have hgrown := h.grown hrows hcolumns hvalid
  have hlinks := hlinked.linked hgrown
  have hgrid := hlinked.grid_eq.trans h.grid_grown
  have horder : (linked.evaluationOrder sources).Pairwise fun a b => ¬ linked.grid.Feeds b a :=
    (hlinks.pairwise_evaluationOrder _).imp fun hpath hfeeds => hpath (TransGen.single hfeeds)
  have hrest : ∀ cell, (s.grid.resize rows columns).contains cell = true →
      cell ∉ linked.evaluationOrder sources →
      Suits (s.grid.resize rows columns) s.blank cell ((s.grown rows columns).current cell) :=
    fun cell hcell hmem => h.suits_grown hrows hcolumns hvalid hcell fun hout =>
      hmem (hgrown.mem_evaluationOrder_of_outdated hlinked hsources hout)
  rw [← hgrid] at hrest
  obtain ⟨users, rfl, -⟩ := hlinked
  obtain ⟨staging, hstaging, rfl⟩ := refresh_eq_ok hrefresh
  rw [hlinks.stageDependents_eq_stageAll] at hstaging
  exact ⟨hnext, h.free, suits_of_stageAll hlinks h.free hlinks.acyclic
    (fun _ => hlinks.contains_of_mem_evaluationOrder) (nodup_evaluationOrder _) horder hrest
    hstaging⟩

lemma kept_consistent : Kept Consistent where
  clear := fun hs => consistent_clear hs.toLinked.clear hs.free fun _ => grid_formula_clear hs.keys
  resize := fun hs hgrows => hs.of_grows hgrows
  update := fun hs hupdate => hs.update hupdate
  reorder := fun hs hnext => hnext.consistent hs

/-- **Every sheet that is reached is consistent**, if blank cells mention nothing and no built-in
mentions a cell. -/
theorem Reached.consistent (hfree : FreeOfCells t.builtins) (hblank : t.blank.names = [])
    (h : Reached t s) : s.Consistent :=
  kept_consistent.reached (consistent_make hfree hblank) h

/-! ### What values depend on -/

/-- Sheets that agree in their formulas, and in the values of the cells that are blank, agree in
the values of all cells. -/
theorem Agrees.value?_eq_of_consistent (h : s.Agrees s') (hs : s.Consistent) (hs' : s'.Consistent)
    (hblank : s'.blank = s.blank) (hsame : ∀ cell, s.contains cell = true →
      s.grid.formula cell = s.blank → s'.value? cell = s.value? cell) (cell : Location) :
    s'.value? cell = s.value? cell := by
  by_cases hcell : s.contains cell = true
  · have hcell' := (h.contains_eq cell).trans hcell
    by_cases hformula : s.grid.formula cell = s.blank
    · exact hsame cell hcell hformula
    · have hformula' := h.formula_eq hs.toLinked hs'.toLinked hcell
      have hworth := (hs.suits cell hcell).resolve_right fun hblank => hformula hblank.1
      have hworth' := (hs'.suits cell hcell').resolve_right fun hbare =>
        hformula (hformula'.symm.trans (hbare.1.trans hblank))
      rw [h.worth_eq hs.toLinked hs'.toLinked hcell, hworth', Except.ok.injEq] at hworth
      rw [hs.value?_eq hcell, hs'.value?_eq hcell', hworth]
  · exact h.value?_eq_of_not_contains hs.toLinked hs'.toLinked hcell

/-- An update leaves the value of every cell that does not depend on the one that is written. -/
lemma Linked.value?_of_not_leads (h : s.Linked) (hupdate : s.update cell formula = .ok next)
    (hpath : ¬ ReflTransGen s.grid.Feeds cell other) : next.value? other = s.value? other := by
  obtain ⟨hcell, -, staging, hstaging, rfl⟩ := update_eq_ok hupdate
  rw [h.stageUpdate_eq hcell] at hstaging
  refine CellMap.getElem?_store_of_notMem ?_
  rw [stageAll_values hstaging, List.map_nil, List.nil_append, h.mem_order]
  exact hpath

/-- The value of a cell in which nothing or a number is written is what is written. -/
lemma Linked.value?_of_update (h : s.Linked) (hv : v = .empty ∨ ∃ n, v = .const n)
    (hupdate : s.update cell v = .ok next) : next.value? cell = some v := by
  obtain ⟨hcell, -, staging, hstaging, rfl⟩ := update_eq_ok hupdate
  rw [h.stageUpdate_eq hcell] at hstaging
  have hkeys := stageAll_values hstaging
  rw [stageAll_cons, bind_eq_ok_iff, Grid.formula_write_self] at hstaging
  obtain ⟨first, hfirst, hrest⟩ := hstaging
  rw [stage] at hfirst
  obtain ⟨value, hvalue, hfirst⟩ := bind_eq_ok_iff.mp hfirst
  rw [Expr.evaluate, reduce_blank hv] at hvalue
  obtain rfl := Except.ok.inj hvalue
  -- the cell itself is staged first, and what is staged stays
  have hentry : (cell, v) ∈ staging.values := by
    refine (prefix_of_stageAll hrest).subset ?_
    rw [← Except.ok.inj hfirst]
    exact List.mem_cons_self
  have hnodup : (staging.values.map Prod.fst).Nodup := by
    rw [hkeys, List.map_nil, List.nil_append]
    exact h.nodup_order
  exact CellMap.getElem?_store_of_mem hnodup hentry

end Spreadsheet.Sheet
