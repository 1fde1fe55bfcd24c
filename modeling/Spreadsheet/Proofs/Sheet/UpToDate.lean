import Mathlib.Tactic
import Spreadsheet.Proofs.Sheet.Changes
import Spreadsheet.Proofs.Sheet.Staging

/-!
Sheets whose values are up to date, and what updates make of them.

A sheet is `UpToDate` if it is linked and the value of each of its cells is what the
cell is worth from scratch. For each operation there is one statement on what it
returns, in terms of the grid of formulas that it is to lead to:

* `UpToDate.update_spec`: writing a formula succeeds exactly if the new grid has no
  cycle and evaluates, and then the values are those from scratch;
* `UpToDate.grows_spec`: the same for growing, in whatever order the new cells and the
  users of cells are walked through (`Grows`);
* `UpToDate.clear` and `upToDate_make`: emptied sheets and new ones are up to date.

Only part of the cells is evaluated again. That this is enough is `worth_write` and
`worth_resize`: the cells that are not downstream of the change keep their worth.
-/

namespace Spreadsheet.Sheet

open Relation

variable {s next : Sheet} {cell user : Location} {formula : Expr}

lemma Linked.value?_eq (h : s.Linked) (hcell : s.contains cell = true) :
    s.value? cell = some (s.current cell) := by
  obtain ⟨v, hv⟩ := h.exists_value hcell
  rw [current_eq hv, hv]

/-- The values of a sheet are up to date: each cell has the value that it is worth
from scratch. Built-ins mention no cells, and a blank cell is worth what it holds. -/
structure UpToDate (s : Sheet) : Prop extends Linked s where
  free : FreeOfCells s.builtins
  blank_eq : s.blank = .empty ∨ ∃ n, s.blank = .const n
  worth_eq : ∀ cell, s.contains cell = true → s.grid.worth cell = .ok (s.current cell)

/-- It does not matter for this how users are listed. -/
lemma Reordered.upToDate (hnext : s.Reordered next) (h : s.UpToDate) : next.UpToDate := by
  have hlinked := hnext.linked h.toLinked
  obtain ⟨users, rfl, -⟩ := hnext
  exact ⟨hlinked, h.free, h.blank_eq, h.worth_eq⟩

/-- A blank that is empty or a number is worth itself. -/
lemma reduce_blank {blank : Expr} (hblank : blank = .empty ∨ ∃ n, blank = .const n)
    (worth : String → Except EvalFault Expr) : blank.reduce worth = .ok blank := by
  rcases hblank with rfl | ⟨n, rfl⟩ <;> rw [Expr.reduce]

lemma names_blank {blank : Expr} (hblank : blank = .empty ∨ ∃ n, blank = .const n) :
    blank.names = [] := by
  rcases hblank with rfl | ⟨n, rfl⟩ <;> rw [Expr.names]

/-! ### Writing -/

/-- An update evaluates the new formula first, and then those of the dependents. -/
lemma Linked.stageUpdate_eq (h : s.Linked) (hcell : s.contains cell = true) :
    s.stageUpdate cell formula =
      s.stageAll (s.grid.write cell formula).formula (cell :: s.evaluationOrder [cell])
        ⟨s.symbols, []⟩ := by
  have hformulas : ∀ other ∈ s.evaluationOrder [cell],
      s.formula? other = some ((s.grid.write cell formula).formula other) := by
    intro other hother
    obtain ⟨source, hsource, hpath⟩ := h.mem_evaluationOrder.mp hother
    rw [List.mem_singleton] at hsource
    subst hsource
    have hne : other ≠ source := fun heq => h.acyclic source (heq ▸ hpath)
    rw [Grid.formula_write_of_ne hne, h.formula?_eq (h.contains_of_mem_evaluationOrder hother)]
  rw [stageUpdate, stageAll_cons, Grid.formula_write_self]
  refine congrArg _ (funext fun staging => ?_)
  exact stageDependents_eq hformulas

/-- What is evaluated again after writing a formula: the cell and those downstream
of it. -/
lemma Linked.mem_order (h : s.Linked) {other : Location} :
    other ∈ cell :: s.evaluationOrder [cell] ↔ ReflTransGen s.grid.Feeds cell other := by
  rw [List.mem_cons, h.mem_evaluationOrder, reflTransGen_iff_eq_or_transGen]
  simp

lemma Linked.nodup_order (h : s.Linked) : (cell :: s.evaluationOrder [cell]).Nodup := by
  refine List.nodup_cons.mpr ⟨fun hmem => ?_, nodup_evaluationOrder [cell]⟩
  obtain ⟨source, hsource, hpath⟩ := h.mem_evaluationOrder.mp hmem
  rw [List.mem_singleton] at hsource
  exact h.acyclic cell (hsource ▸ hpath)

lemma Linked.contains_of_mem_order (h : s.Linked) (hcell : s.contains cell = true)
    {other : Location} (hother : other ∈ cell :: s.evaluationOrder [cell]) :
    s.contains other = true := by
  rcases List.mem_cons.mp hother with rfl | hother
  · exact hcell
  · exact h.contains_of_mem_evaluationOrder hother

/-- What a successful update has done. -/
lemma update_eq_ok (h : s.update cell formula = .ok next) :
    s.contains cell = true ∧ s.cycleThrough? cell formula = none ∧
      ∃ staging, s.stageUpdate cell formula = .ok staging ∧
        next = s.commit cell formula staging := by
  rw [update] at h
  split_ifs at h with hcell
  cases hvia : s.cycleThrough? cell formula with
  | some via =>
      rw [hvia] at h
      cases h
  | none =>
      rw [hvia] at h
      cases hstage : s.stageUpdate cell formula with
      | error fault =>
          rw [hstage] at h
          cases h
      | ok staging =>
          rw [hstage] at h
          exact ⟨by simpa using hcell, rfl, staging, rfl, (Except.ok.inj h).symm⟩

/-- Writing a formula leaves a sheet linked, whatever its values are. -/
theorem Linked.update (h : s.Linked) (hupdate : s.update cell formula = .ok next) :
    next.Linked := by
  obtain ⟨hcell, hvia, staging, hstaging, rfl⟩ := update_eq_ok hupdate
  refine h.commit hcell ((h.cycleThrough?_eq_none_iff hcell).mp hvia) fun entry hentry => ?_
  rw [h.stageUpdate_eq hcell] at hstaging
  have hmem : entry.1 ∈ staging.values.map Prod.fst := List.mem_map_of_mem hentry
  rw [stageAll_values hstaging] at hmem
  exact h.contains_of_mem_order hcell hmem

/-- Writing a formula leaves the worth of cells that are not downstream as it is. -/
lemma Linked.worth_write (h : s.Linked) (hacyclic : (s.grid.write cell formula).Acyclic)
    {other : Location} (hother : s.contains other = true)
    (hpath : ¬ ReflTransGen s.grid.Feeds cell other) :
    (s.grid.write cell formula).worth other = s.grid.worth other := by
  refine (Grid.worth_congr h.acyclic hacyclic rfl hother fun source hsource hup => ?_).symm
  refine ⟨hsource, (Grid.formula_write_of_ne ?_).symm, fun _ _ => rfl⟩
  rintro rfl
  exact hpath hup

/-- The cell and its dependents come in an order of dependence, also by the new formula: it
mentions none of the dependents, or else it would close a cycle. -/
lemma Linked.pairwise_order (h : s.Linked) (hacyclic : (s.grid.write cell formula).Acyclic) :
    (cell :: s.evaluationOrder [cell]).Pairwise
      fun a b => ¬ (s.grid.write cell formula).Feeds b a := by
  have hfirst : ∀ other ∈ s.evaluationOrder [cell], TransGen s.grid.Feeds cell other := by
    intro other hother
    obtain ⟨source, hsource, hpath⟩ := h.mem_evaluationOrder.mp hother
    rwa [List.mem_singleton.mp hsource] at hpath
  -- a dependent that the new formula mentions would close a cycle through the cell
  refine List.pairwise_cons.mpr ⟨fun other hother hfeeds => ?_, ?_⟩
  · exact hacyclic cell ((Grid.leads_write h.acyclic (hfirst other hother)).tail hfeeds)
  · refine (h.pairwise_evaluationOrder [cell]).imp_of_mem fun {a b} ha _ hpath hfeeds => ?_
    have hne : a ≠ cell := fun heq => h.acyclic cell (heq ▸ hfirst a ha)
    exact hpath (TransGen.single ((Grid.feeds_write_of_ne hne).mp hfeeds))

/-- What the evaluation for an update finds. -/
lemma UpToDate.stageUpdate_spec (h : s.UpToDate) (hcell : s.contains cell = true)
    (hacyclic : (s.grid.write cell formula).Acyclic) :
    (∃ (last : Staging) (worth : Location → Expr), s.stageUpdate cell formula = .ok last ∧
      (∀ other, s.contains other = true →
        (s.grid.write cell formula).worth other = .ok (worth other)) ∧
      last.values = (cell :: s.evaluationOrder [cell]).map fun other => (other, worth other)) ∨
    ∃ fault, s.stageUpdate cell formula = .error fault ∧
      ∃ other, s.contains other = true ∧
        (s.grid.write cell formula).worth other = .error fault := by
  -- only cells downstream of the one that is written may change their worth
  have hrest : ∀ other, s.contains other = true → other ∉ cell :: s.evaluationOrder [cell] →
      (s.grid.write cell formula).worth other = .ok (s.current other) := by
    intro other hother hmem
    rw [h.mem_order] at hmem
    rw [h.worth_write hacyclic hother hmem, h.worth_eq other hother]
  rw [h.stageUpdate_eq hcell]
  rcases stageAll_spec_of_worth h.toLinked h.free ⟨s.symbols, []⟩ hacyclic
    (fun _ => h.contains_of_mem_order hcell) h.nodup_order (h.pairwise_order hacyclic) hrest
    h.holds_symbols with
    ⟨last, worth, hlast, hall, hvalues⟩ | ⟨fault, hlast, other, hother, hfault⟩
  · exact Or.inl ⟨last, worth, hlast, hall, hvalues⟩
  · exact Or.inr ⟨fault, hlast, other, h.contains_of_mem_order hcell hother, hfault⟩

section Store

variable {worth : Location → Expr} {order : List Location} {entries : List (Location × Expr)}
  (hentries : entries = order.map fun c => (c, worth c)) (hnodup : order.Nodup)

include hentries hnodup

/-- The values after entries have been stored. -/
lemma current_store_eq : ({ s with values := s.values.store entries } : Sheet).current cell =
    if cell ∈ order then worth cell else s.current cell := by
  have hfst : entries.map Prod.fst = order := by
    rw [hentries, List.map_map]
    exact List.map_id order
  split_ifs with hmem
  · have hentry : (cell, worth cell) ∈ entries := by
      rw [hentries]
      exact List.mem_map_of_mem hmem
    exact current_eq (CellMap.getElem?_store_of_mem (hfst ▸ hnodup) hentry)
  · have hvalue : (s.values.store entries)[cell]? = s.values[cell]? :=
      CellMap.getElem?_store_of_notMem (hfst ▸ hmem)
    rw [current, current, value?, value?, hvalue]

/-- Entries with the right values, for all cells whose worth has changed, bring the
values of a sheet up to date. -/
lemma current_store {grid : Grid} (hworth : grid.worth cell = .ok (worth cell))
    (hrest : cell ∉ order → grid.worth cell = .ok (s.current cell)) :
    grid.worth cell = .ok (({ s with values := s.values.store entries } : Sheet).current cell) := by
  rw [current_store_eq hentries hnodup]
  split_ifs with hmem
  · exact hworth
  · exact hrest hmem

end Store

/-- **What writing a formula returns.** It succeeds exactly if the cell is on the
sheet and the grid with the new formula has no cycle and evaluates. The sheet is then
up to date with that grid. -/
theorem UpToDate.update_spec (h : s.UpToDate) (cell : Location) (formula : Expr) :
    (¬ s.contains cell = true ∧ s.update cell formula = .error (.outside cell)) ∨
    (s.contains cell = true ∧ ¬ (s.grid.write cell formula).Acyclic ∧
      ∃ via ∈ s.targets formula, (via = cell ∨ TransGen s.grid.Feeds cell via) ∧
        s.update cell formula = .error (.circular cell via)) ∨
    (s.contains cell = true ∧ (s.grid.write cell formula).Acyclic ∧
      ∃ fault, s.update cell formula = .error (.evaluation fault) ∧
        ∃ other, s.contains other = true ∧
          (s.grid.write cell formula).worth other = .error fault) ∨
    (s.contains cell = true ∧ (s.grid.write cell formula).Acyclic ∧
      (s.grid.write cell formula).Evaluates ∧
      ∃ next, s.update cell formula = .ok next ∧ next.UpToDate ∧
        next.grid = s.grid.write cell formula) := by
  rw [update]
  by_cases hcell : s.contains cell = true
  · rw [if_neg (by simp [hcell])]
    cases hvia : s.cycleThrough? cell formula with
    | some via =>
        have hcycle : ¬ (s.grid.write cell formula).Acyclic := by
          rw [← h.cycleThrough?_eq_none_iff hcell, hvia]
          exact Option.some_ne_none via
        obtain ⟨hmem, hpath⟩ := h.cycleThrough?_eq_some hvia
        exact Or.inr (Or.inl ⟨hcell, hcycle, via, hmem, hpath, rfl⟩)
    | none =>
        have hacyclic := (h.cycleThrough?_eq_none_iff hcell).mp hvia
        rcases h.stageUpdate_spec hcell hacyclic with
          ⟨last, worth, hlast, hall, hvalues⟩ | ⟨fault, hlast, hfault⟩
        · rw [hlast]
          have hstaging : ∀ entry ∈ last.values, s.contains entry.1 = true := by
            rw [hvalues]
            intro entry hentry
            obtain ⟨other, hother, rfl⟩ := List.mem_map.mp hentry
            exact h.contains_of_mem_order hcell hother
          -- the staged values are the worths of what is downstream, and the others were right
          refine Or.inr (Or.inr (Or.inr ⟨hcell, hacyclic,
            fun other hother => ⟨_, hall other hother⟩, _, rfl,
            ⟨h.toLinked.commit hcell hacyclic hstaging, h.free, h.blank_eq, ?_⟩, grid_commit⟩))
          intro other hother
          rw [grid_commit]
          refine current_store hvalues h.nodup_order (hall other hother) fun hmem => ?_
          rw [h.mem_order] at hmem
          rw [h.worth_write hacyclic hother hmem, h.worth_eq other hother]
        · rw [hlast]
          exact Or.inr (Or.inr (Or.inl ⟨hcell, hacyclic, fault, rfl, hfault⟩))
  · rw [if_pos (by simp [hcell])]
    exact Or.inl ⟨hcell, rfl⟩

/-- Where the grid with the new formula has no cycle and evaluates, an update succeeds. -/
theorem UpToDate.update_of_evaluates (h : s.UpToDate) (hcell : s.contains cell = true)
    (hacyclic : (s.grid.write cell formula).Acyclic)
    (hevaluates : (s.grid.write cell formula).Evaluates) :
    ∃ next, s.update cell formula = .ok next ∧ next.UpToDate ∧
      next.grid = s.grid.write cell formula := by
  rcases h.update_spec cell formula with
    ⟨hout, -⟩ | ⟨-, hcycle, -⟩ | ⟨-, -, fault, -, other, hother, hworth⟩ | ⟨-, -, -, hnext⟩
  · exact absurd hcell hout
  · exact absurd hacyclic hcycle
  · obtain ⟨value, hvalue⟩ := hevaluates other hother
    rw [hworth] at hvalue
    cases hvalue
  · exact hnext

/-- A successful update leaves the sheet up to date with the new grid. -/
theorem UpToDate.of_update_eq_ok (h : s.UpToDate) (hupdate : s.update cell formula = .ok next) :
    (s.grid.write cell formula).Acyclic ∧ (s.grid.write cell formula).Evaluates ∧
      next.UpToDate ∧ next.grid = s.grid.write cell formula := by
  rcases h.update_spec cell formula with
    ⟨-, hfault⟩ | ⟨-, -, _, -, -, hfault⟩ | ⟨-, -, _, hfault, -⟩ |
      ⟨-, hacyclic, hevaluates, last, hlast, hdate, hgrid⟩
  · rw [hfault] at hupdate
    cases hupdate
  · rw [hfault] at hupdate
    cases hupdate
  · rw [hfault] at hupdate
    cases hupdate
  · rw [hlast, Except.ok.injEq] at hupdate
    subst hupdate
    exact ⟨hacyclic, hevaluates, hdate, hgrid⟩

/-! ### Emptying -/

/-- An emptied sheet is up to date. -/
lemma upToDate_clear (hlinked : s.clear.Linked) (hfree : FreeOfCells s.builtins)
    (hblank : s.blank = .empty ∨ ∃ n, s.blank = .const n)
    (hformula : ∀ cell, s.clear.grid.formula cell = s.blank) : s.clear.UpToDate := by
  refine ⟨hlinked, hfree, hblank, fun cell hcell => ?_⟩
  have hvalue : s.clear.value? cell = some s.blank := value?_clear (s := s) hcell
  rw [Grid.worth_eq hlinked.acyclic hcell, hformula, reduce_blank hblank, current_eq hvalue]

/-- Emptying brings a sheet up to date. -/
theorem UpToDate.clear (h : s.UpToDate) : s.clear.UpToDate :=
  upToDate_clear h.toLinked.clear h.free h.blank_eq fun _ => grid_formula_clear h.keys

/-- A new sheet is up to date. -/
theorem upToDate_make {t : Template} {rows columns : Nat} (hfree : FreeOfCells t.builtins)
    (hblank : t.blank = .empty ∨ ∃ n, t.blank = .const n)
    (hmake : t.make rows columns = .ok s) : s.UpToDate := by
  have hlinked := linked_make (names_blank hblank) hmake
  obtain ⟨-, -, -, rfl⟩ := make_eq_clear hmake
  exact upToDate_clear hlinked hfree hblank (grid_formula_make hmake)

/-! ### Finding values anew -/

section Refresh

variable {sources : List Location}

/-- What finding values anew has done, if it has not failed. -/
lemma refresh_eq_ok (h : s.refresh sources = .ok next) :
    ∃ staging, s.stageDependents sources ⟨s.symbols, []⟩ = .ok staging ∧
      next = { s with values := s.values.store staging.values } := by
  rw [refresh] at h
  cases hstage : s.stageDependents sources ⟨s.symbols, []⟩ with
  | error fault =>
      rw [hstage] at h
      cases h
  | ok staging =>
      rw [hstage] at h
      exact ⟨staging, rfl, (Except.ok.inj h).symm⟩

/-- The cells downstream of the sources are evaluated by the formulas of the grid. -/
lemma Linked.stageDependents_eq_stageAll (h : s.Linked) {staging : Staging} :
    s.stageDependents sources staging
      = s.stageAll s.grid.formula (s.evaluationOrder sources) staging :=
  stageDependents_eq fun _ hcell => h.formula?_eq (h.contains_of_mem_evaluationOrder hcell)

/-- Finding values anew leaves a sheet linked, whatever its values are. -/
lemma Linked.refresh (h : s.Linked) (hrefresh : s.refresh sources = .ok next) : next.Linked := by
  obtain ⟨staging, hstaging, rfl⟩ := refresh_eq_ok hrefresh
  refine h.store fun entry hentry => ?_
  rw [h.stageDependents_eq_stageAll] at hstaging
  have hmem : entry.1 ∈ staging.values.map Prod.fst := List.mem_map_of_mem hentry
  rw [stageAll_values hstaging] at hmem
  exact h.contains_of_mem_evaluationOrder hmem

/-- **What finding values anew returns.** Let the values that are not downstream of the
sources be right. Then the others can be found exactly if the grid evaluates, and the
sheet is then up to date. -/
theorem Linked.refresh_spec (h : s.Linked) (hfree : FreeOfCells s.builtins)
    (hblank : s.blank = .empty ∨ ∃ n, s.blank = .const n)
    (hrest : ∀ cell, s.contains cell = true → cell ∉ s.evaluationOrder sources →
      s.grid.worth cell = .ok (s.current cell)) :
    (∃ fault, s.refresh sources = .error (.evaluation fault) ∧
      ∃ cell, s.contains cell = true ∧ s.grid.worth cell = .error fault) ∨
    (s.grid.Evaluates ∧
      ∃ next, s.refresh sources = .ok next ∧ next.UpToDate ∧ next.grid = s.grid) := by
  have hcontains : ∀ cell ∈ s.evaluationOrder sources, s.contains cell = true :=
    fun cell hcell => h.contains_of_mem_evaluationOrder hcell
  have horder : (s.evaluationOrder sources).Pairwise fun a b => ¬ s.grid.Feeds b a :=
    (h.pairwise_evaluationOrder sources).imp fun hpath hfeeds =>
      hpath (TransGen.single hfeeds)
  -- spelt out, as staging is about any formulas that are put on the grid
  have hacyclic : { s.grid with formula := s.grid.formula }.Acyclic := h.acyclic
  have hspec := stageAll_spec_of_worth h hfree ⟨s.symbols, []⟩ hacyclic hcontains
    (nodup_evaluationOrder sources) horder hrest h.holds_symbols
  rw [Sheet.refresh, h.stageDependents_eq_stageAll]
  rcases hspec with ⟨last, worth, hlast, hall, hvalues⟩ | ⟨fault, hlast, cell, hcell, hfault⟩
  · rw [hlast]
    have hentries : ∀ entry ∈ last.values, s.contains entry.1 = true := by
      rw [hvalues]
      intro entry hentry
      obtain ⟨cell, hcell, rfl⟩ := List.mem_map.mp hentry
      exact hcontains cell hcell
    refine Or.inr ⟨fun cell hcell => ⟨_, hall cell hcell⟩, _, rfl,
      ⟨h.store hentries, hfree, hblank, fun cell hcell => ?_⟩, rfl⟩
    exact current_store hvalues (nodup_evaluationOrder sources) (hall cell hcell)
      (hrest cell hcell)
  · rw [hlast]
    exact Or.inl ⟨fault, rfl, cell, hcontains cell hcell, hfault⟩

end Refresh

/-! ### Growing -/

/-- The cells that are evaluated again after growing. -/
def outdated (s : Sheet) (rows columns : Nat) : List Location :=
  (s.grown rows columns).evaluationOrder ((s.newEdges (s.extend rows columns)).map Prod.fst)

section Grow

variable {rows columns : Nat} (hrows : s.rows ≤ rows) (hcolumns : s.columns ≤ columns)

/-- Before values are found anew, a grown sheet has the old ones, and blanks in the
new cells. -/
lemma current_grown :
    (s.grown rows columns).current cell =
      if cell ∈ s.addedCells rows columns then s.blank else s.current cell := by
  change ((s.fill (s.addedCells rows columns)).value? cell).getD s.blank = _
  rw [value?_fill]
  split_ifs <;> rfl

include hrows hcolumns

/-- Where links were there before, they still are. -/
lemma Linked.leads_resize (h : s.Linked) (hpath : ReflTransGen s.grid.Feeds cell user) :
    ReflTransGen (s.grid.resize rows columns).Feeds cell user := by
  refine hpath.lift id fun a b hfeeds => ?_
  exact (h.feeds_resize_iff hrows hcolumns hfeeds.contains).mpr hfeeds

/-- Growing leaves the worth of cells that are not downstream of new cells as it
is. -/
lemma Linked.worth_resize (h : s.Linked) (hcell : s.contains cell = true)
    (hpath : ∀ source, ¬ s.contains source = true →
      ¬ TransGen (s.grid.resize rows columns).Feeds source cell) :
    (s.grid.resize rows columns).worth cell = s.grid.worth cell := by
  refine (Grid.worth_congr h.acyclic (h.acyclic_resize hrows hcolumns) rfl hcell ?_).symm
  intro source hsource hup
  refine ⟨contains_resize hrows hcolumns hsource, rfl, fun name hname => ?_⟩
  -- no name has come to mean a new cell, or else a path would lead from there to the cell
  cases hname' : (s.grid.resize rows columns).cellOf? name with
  | some mentioned =>
      refine (cellOf?_resize hrows hcolumns ?_).mp hname'
      by_contra hnew
      refine hpath mentioned hnew (TransGen.head' ?_ (h.leads_resize hrows hcolumns hup))
      exact ⟨contains_resize hrows hcolumns hsource, name, hname, hname'⟩
  | none =>
      refine Option.eq_none_iff_forall_ne_some.mpr fun mentioned hmentioned => ?_
      have hold := Grid.contains_of_cellOf? hmentioned
      rw [(cellOf?_resize hrows hcolumns hold).mpr hmentioned] at hname'
      cases hname'

/-- Everything downstream of new cells is evaluated again. A path that starts in a
new cell starts with a new edge. -/
lemma Linked.mem_outdated (h : s.Linked) (hvalid : Sheet.validSize rows columns = true)
    {source : Location} (hsource : ¬ s.contains source = true)
    (hpath : TransGen (s.grid.resize rows columns).Feeds source cell) :
    cell ∈ s.outdated rows columns := by
  obtain ⟨user, hfeeds, -⟩ := TransGen.head'_iff.mp hpath
  rw [outdated, (h.grown hrows hcolumns hvalid).mem_evaluationOrder, h.grid_grown]
  refine ⟨source, List.mem_map.mpr ⟨(source, user), ?_, rfl⟩, hpath⟩
  exact (h.mem_newEdges_iff hrows hcolumns).mpr ⟨hfeeds, hsource⟩

/-- The values that are not found again after growing are right. -/
lemma UpToDate.worth_grown (h : s.UpToDate) (hvalid : Sheet.validSize rows columns = true)
    (hcell : (s.grid.resize rows columns).contains cell = true)
    (hmem : cell ∉ s.outdated rows columns) :
    (s.grid.resize rows columns).worth cell = .ok ((s.grown rows columns).current cell) := by
  rw [current_grown]
  by_cases hold : s.contains cell = true
  · have hworth := h.worth_resize hrows hcolumns hold fun source hsource hpath =>
      hmem (h.mem_outdated hrows hcolumns hvalid hsource hpath)
    rw [if_neg (fun hadded => (mem_addedCells.mp hadded).2 hold), hworth, h.worth_eq cell hold]
  · have hformula : (s.grid.resize rows columns).formula cell = s.blank :=
      h.grid_formula_of_not_contains hold
    rw [if_pos (mem_addedCells.mpr ⟨hcell, hold⟩),
      Grid.worth_eq (h.acyclic_resize hrows hcolumns) hcell, hformula, reduce_blank h.blank_eq]

end Grow

/-- What growing to a size may give. Cells and links are added at once; the users of each
cell, and the new cells that have got users, are then walked through in any order. -/
inductive Grows (s : Sheet) (rows columns : Nat) : Except SheetFault Sheet → Prop
  /-- The size is none that the sheet can take. -/
  | refused (hsize : (rows < s.rows || columns < s.columns || !validSize rows columns) = true) :
      Grows s rows columns (.error (.dimensions rows columns))
  /-- The values downstream of the new cells are found anew. -/
  | refreshed {linked : Sheet} {sources : List Location}
      (hsize : ¬ (rows < s.rows || columns < s.columns || !validSize rows columns) = true)
      (hlinked : (s.grown rows columns).Reordered linked)
      (hsources : ∀ cell,
        cell ∈ sources ↔ ∃ user, (cell, user) ∈ s.newEdges (s.extend rows columns)) :
      Grows s rows columns (linked.refresh sources)

/-- Growing takes one of these orders. -/
lemma grows_resize (s : Sheet) (rows columns : Nat) :
    s.Grows rows columns (s.resize rows columns) := by
  rw [resize_eq]
  split_ifs with hsize
  · exact .refused hsize
  · exact .refreshed hsize (Reordered.refl _) fun cell => by simp

section Grows

variable {rows columns : Nat} {linked : Sheet} {sources : List Location}

/-- What a successful growth has done. -/
lemma Grows.eq_ok (h : s.Grows rows columns (.ok next)) :
    (s.rows ≤ rows ∧ s.columns ≤ columns ∧ validSize rows columns = true) ∧
      ∃ linked sources, (s.grown rows columns).Reordered linked ∧
        (∀ cell, cell ∈ sources ↔ ∃ user, (cell, user) ∈ s.newEdges (s.extend rows columns)) ∧
        linked.refresh sources = .ok next := by
  generalize hresult : Except.ok next = result at h
  cases h with
  | refused hsize => cases hresult
  | refreshed hsize hlinked hsources =>
      exact ⟨not_not.mp (refused_iff.not.mp hsize), _, _, hlinked, hsources, rfl⟩

/-- What is downstream of the new cells is a matter of the links, and not of the order in
which these are listed. -/
lemma Linked.mem_evaluationOrder_of_outdated (h : (s.grown rows columns).Linked)
    (hlinked : (s.grown rows columns).Reordered linked)
    (hsources : ∀ cell,
      cell ∈ sources ↔ ∃ user, (cell, user) ∈ s.newEdges (s.extend rows columns))
    (hcell : cell ∈ s.outdated rows columns) : cell ∈ linked.evaluationOrder sources := by
  rw [outdated, h.mem_evaluationOrder] at hcell
  obtain ⟨source, hsource, hpath⟩ := hcell
  obtain ⟨⟨_, user⟩, hedge, rfl⟩ := List.mem_map.mp hsource
  rw [(hlinked.linked h).mem_evaluationOrder, hlinked.grid_eq]
  exact ⟨_, (hsources _).mpr ⟨user, hedge⟩, hpath⟩

/-- Growing leaves a sheet linked, whatever its values are. -/
theorem Linked.of_grows (h : s.Linked) (hgrows : s.Grows rows columns (.ok next)) :
    next.Linked := by
  obtain ⟨⟨hrows, hcolumns, hvalid⟩, linked, sources, hlinked, -, hnext⟩ := hgrows.eq_ok
  exact (hlinked.linked (h.grown hrows hcolumns hvalid)).refresh hnext

/-- Growing brings formulas into sight and leaves them as they are. -/
lemma Linked.grid_of_grows (h : s.Linked) (hgrows : s.Grows rows columns (.ok next)) :
    next.grid = s.grid.resize rows columns := by
  obtain ⟨-, linked, sources, hlinked, -, hnext⟩ := hgrows.eq_ok
  obtain ⟨staging, -, rfl⟩ := refresh_eq_ok hnext
  exact hlinked.grid_eq.trans h.grid_grown

/-- **What growing gives in any order.** It succeeds exactly if the size is one that the
sheet can take and the larger grid evaluates. The sheet is then up to date with that
grid. -/
theorem UpToDate.grows_spec {result : Except SheetFault Sheet}
    (h : s.UpToDate) (hgrows : s.Grows rows columns result) :
    (¬ (s.rows ≤ rows ∧ s.columns ≤ columns ∧ validSize rows columns = true) ∧
      result = .error (.dimensions rows columns)) ∨
    ((s.rows ≤ rows ∧ s.columns ≤ columns ∧ validSize rows columns = true) ∧
      ∃ fault, result = .error (.evaluation fault) ∧
        ∃ cell, (s.grid.resize rows columns).contains cell = true ∧
          (s.grid.resize rows columns).worth cell = .error fault) ∨
    ((s.rows ≤ rows ∧ s.columns ≤ columns ∧ validSize rows columns = true) ∧
      (s.grid.resize rows columns).Evaluates ∧
      ∃ next, result = .ok next ∧ next.UpToDate ∧ next.grid = s.grid.resize rows columns) := by
  cases hgrows with
  | refused hsize => exact Or.inl ⟨refused_iff.mp hsize, rfl⟩
  | @refreshed linked sources hsize hlinked hsources =>
      obtain ⟨hrows, hcolumns, hvalid⟩ := not_not.mp (refused_iff.not.mp hsize)
      have hgrown := h.grown hrows hcolumns hvalid
      have hlinks := hlinked.linked hgrown
      have hgrid := hlinked.grid_eq.trans h.grid_grown
      have hsame : ∀ cell ∈ s.outdated rows columns, cell ∈ linked.evaluationOrder sources :=
        fun _ => hgrown.mem_evaluationOrder_of_outdated hlinked hsources
      -- so the cells left out are not downstream of new ones, and have the right values
      obtain ⟨users, rfl, -⟩ := hlinked
      have hspec := hlinks.refresh_spec h.free h.blank_eq fun cell hcell hmem =>
        hgrid ▸ h.worth_grown hrows hcolumns hvalid hcell fun hout => hmem (hsame cell hout)
      rw [hgrid] at hspec
      exact Or.inr (hspec.imp (⟨⟨hrows, hcolumns, hvalid⟩, ·⟩) (⟨⟨hrows, hcolumns, hvalid⟩, ·⟩))

/-- A successful growth leaves the sheet up to date. -/
theorem UpToDate.of_grows (h : s.UpToDate) (hgrows : s.Grows rows columns (.ok next)) :
    next.UpToDate := by
  rcases h.grows_spec hgrows with ⟨-, hfault⟩ | ⟨-, _, hfault, -⟩ | ⟨-, -, last, hlast, hdate, -⟩
  · cases hfault
  · cases hfault
  · exact Except.ok.inj hlast ▸ hdate

end Grows

end Spreadsheet.Sheet
