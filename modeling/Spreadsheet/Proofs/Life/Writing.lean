import Mathlib.Tactic
import Spreadsheet.Proofs.Life.Generation
import Spreadsheet.Proofs.Sheet.Consistent

/-!
What the writes of a generation leave, in whatever order the cells are written.

Each write is a full update of the sheet as the writes before it have left it. But nothing and
numbers, which are all that is written, mention no cell, so what has been written stays until it is
written over.

* `formula?_of_writeInto` and `formula?_of_stepAlong`: the formulas after writes that succeed, and
  after a step that does;
* `Overwritten`: the sheet after some writes of nothing and of numbers; `Overwritten.update` is one
  write, `Overwritten.trans` some writes after others, and `Overwritten.stepAlong` a step;
* `value?_of_written` and `value?_of_stepAlong`: the values of the cells that are written, and of
  those that mention nothing.
-/

namespace Spreadsheet.Life

open Sheet Relation

variable {s mid next : Sheet} {cell other : Location} {cells dying born : List Location}
  {count : Nat} {e : Expr}

/-! ### Writes that succeed -/

/-- Writes succeed if the first one does, and the others on the sheet that it leaves. -/
lemma writeInto_cons_eq_ok_iff {text : String} : writeInto text s (cell :: cells) = (next, .ok ()) ↔
    ∃ mid, s.write cell text = .ok mid ∧ writeInto text mid cells = (next, .ok ()) := by
  rw [writeInto]
  cases s.write cell text <;> simp

/-- A step succeeds if the cells that die can be emptied and `1` can then be written into those that
are born. -/
lemma advance_eq_ok_iff : advance s dying born = (next, .ok ()) ↔
    ∃ mid, writeInto "" s dying = (mid, .ok ()) ∧ writeInto "1" mid born = (next, .ok ()) := by
  rw [advance]
  cases writeInto "" s dying with
  | mk mid result => cases result <;> simp

lemma stepAlong_eq_ok_iff : stepAlong s dying born = (next, .ok count) ↔
    advance s dying born = (next, .ok ()) ∧ count = population s := by
  rw [stepAlong]
  cases advance s dying born with
  | mk last result => cases result <;> simp [eq_comm (a := population s)]

/-! ### Formulas -/

/-- After writes that succeed the cells hold what was written, and the others what they held. -/
lemma formula?_of_writeInto {text : String} (hparse : Formula.parse text = .ok e)
    (h : writeInto text s cells = (next, .ok ())) : next.rows = s.rows ∧
      next.columns = s.columns ∧
      ∀ cell, next.formula? cell = if cell ∈ cells then some e else s.formula? cell := by
  induction cells generalizing s with
  | nil =>
      obtain rfl : s = next := (Prod.mk.inj h).1
      exact ⟨rfl, rfl, fun _ => by simp⟩
  | cons first rest ih =>
      obtain ⟨mid, hwrite, hrest⟩ := writeInto_cons_eq_ok_iff.mp h
      obtain ⟨hrows, hcolumns, hformula⟩ := ih hrest
      obtain ⟨formula, hparse', hupdate⟩ := write_eq_ok hwrite
      obtain rfl : e = formula := Except.ok.inj (hparse.symm.trans hparse')
      obtain ⟨-, -, staging, -, rfl⟩ := update_eq_ok hupdate
      refine ⟨hrows, hcolumns, fun cell => ?_⟩
      rw [hformula, formula?_commit]
      by_cases hcell : cell ∈ rest <;> simp [hcell]

/-- After a step that succeeds the cells that were born hold `1`, those that have died are empty,
and the others hold what they held. -/
theorem formula?_of_stepAlong (h : stepAlong s dying born = (next, .ok count)) :
    count = population s ∧ next.rows = s.rows ∧ next.columns = s.columns ∧
      ∀ cell, next.formula? cell = if cell ∈ born then some (.const 1)
        else if cell ∈ dying then some .empty else s.formula? cell := by
  obtain ⟨hadvance, hcount⟩ := stepAlong_eq_ok_iff.mp h
  obtain ⟨mid, hfirst, hsecond⟩ := advance_eq_ok_iff.mp hadvance
  obtain ⟨hrows, hcolumns, hformula⟩ := formula?_of_writeInto parse_empty hfirst
  obtain ⟨hrows', hcolumns', hformula'⟩ := formula?_of_writeInto parse_one hsecond
  refine ⟨hcount, hrows'.trans hrows, hcolumns'.trans hcolumns, fun cell => ?_⟩
  rw [hformula', hformula]

/-! ### Writes of nothing and of numbers -/

/-- The second sheet holds the given content, which mentions nothing, and is as the first one in all
cells that do not depend on where there is content. No cell depends on more than it did. -/
structure Overwritten (s : Sheet) (content : Location → Option Expr) (next : Sheet) : Prop where
  linked : next.Linked
  names : ∀ cell e, content cell = some e → e.names = []
  feeds : ∀ source user, next.grid.Feeds source user → s.grid.Feeds source user
  formula : ∀ cell, next.grid.formula cell = (content cell).getD (s.grid.formula cell)
  value? : ∀ cell e, content cell = some e → next.value? cell = some e
  frame : ∀ cell, (∀ other, content other ≠ none → ¬ ReflTransGen s.grid.Feeds other cell) →
    next.value? cell = s.value? cell

/-- A cell that mentions nothing depends on no other. -/
lemma not_leads_of_names {g : Grid} (hnames : (g.formula cell).names = []) (hne : other ≠ cell) :
    ¬ ReflTransGen g.Feeds other cell := by
  intro hpath
  rcases hpath.cases_tail with heq | ⟨source, -, hfeeds⟩
  · exact hne heq.symm
  · exact Grid.not_feeds_of_names hnames hfeeds

namespace Overwritten

variable {content content' : Location → Option Expr}

lemma refl (h : s.Linked) : Overwritten s (fun _ => none) s :=
  ⟨h, by simp, fun _ _ hfeeds => hfeeds, fun _ => rfl, by simp, fun _ _ => rfl⟩

/-- One write. -/
lemma update (h : s.Linked) (he : e = .empty ∨ ∃ n, e = .const n)
    (hupdate : s.update cell e = .ok next) :
    Overwritten s (fun other => if other = cell then some e else none) next := by
  have hlinked := h.update hupdate
  have hgrid : next.grid = s.grid.write cell e := by
    obtain ⟨-, -, staging, -, rfl⟩ := update_eq_ok hupdate
    exact grid_commit
  refine ⟨hlinked, fun other e' hcontent => ?_, fun source user hfeeds => ?_, fun other => ?_,
    fun other e' hcontent => ?_, fun other hfar => ?_⟩
  · obtain ⟨-, heq⟩ := Option.ite_none_right_eq_some.mp hcontent
    exact Option.some.inj heq ▸ names_blank he
  · rw [hgrid] at hfeeds
    have huser : user ≠ cell := by
      rintro rfl
      refine Grid.not_feeds_of_names ?_ hfeeds
      rw [Grid.formula_write_self, names_blank he]
    exact (Grid.feeds_write_of_ne huser).mp hfeeds
  · rw [hgrid]
    by_cases hother : other = cell
    · rw [hother, Grid.formula_write_self, if_pos rfl, Option.getD_some]
    · rw [Grid.formula_write_of_ne hother, if_neg hother, Option.getD_none]
  · obtain ⟨rfl, heq⟩ := Option.ite_none_right_eq_some.mp hcontent
    exact heq ▸ h.value?_of_update he hupdate
  · exact h.value?_of_not_leads hupdate (hfar cell (by simp))

/-- Writes after others. What has been written stays, unless it is written over. -/
lemma trans (h : Overwritten s content mid) (h' : Overwritten mid content' next) :
    Overwritten s (fun cell => (content' cell).or (content cell)) next := by
  -- what has been written mentions nothing, so later writes elsewhere do not reach it
  have hkept : ∀ cell, content' cell = none → (mid.grid.formula cell).names = [] →
      next.value? cell = mid.value? cell := fun cell hnone hnames =>
    h'.frame cell fun other hother => not_leads_of_names hnames fun heq => hother (heq ▸ hnone)
  refine ⟨h'.linked, fun cell e hcontent => ?_, fun source user hfeeds =>
    h.feeds _ _ (h'.feeds _ _ hfeeds), fun cell => ?_, fun cell e hcontent => ?_,
    fun cell hfar => ?_⟩
  · rcases Option.or_eq_some_iff.mp hcontent with hcontent | ⟨-, hcontent⟩
    · exact h'.names _ _ hcontent
    · exact h.names _ _ hcontent
  · rw [h'.formula, h.formula]
    cases content' cell <;> rfl
  · rcases Option.or_eq_some_iff.mp hcontent with hcontent | ⟨hnone, hcontent⟩
    · exact h'.value? _ _ hcontent
    · rw [hkept cell hnone, h.value? _ _ hcontent]
      rw [h.formula, hcontent]
      exact h.names _ _ hcontent
  · rw [h'.frame cell fun other hother hpath => ?_, h.frame cell fun other hother => ?_]
    · exact hfar other (by simp [hother])
    · exact hfar other (by simp [hother]) (ReflTransGen.mono h.feeds _ _ hpath)

/-- Writes of one text into one cell after the other. -/
lemma writeInto (h : s.Linked) {text : String} (hparse : Formula.parse text = .ok e)
    (he : e = .empty ∨ ∃ n, e = .const n) (hwrite : Life.writeInto text s cells = (next, .ok ())) :
    Overwritten s (fun cell => if cell ∈ cells then some e else none) next := by
  induction cells generalizing s with
  | nil =>
      obtain rfl : s = next := (Prod.mk.inj hwrite).1
      simpa using refl h
  | cons first rest ih =>
      obtain ⟨mid, hfirst, hrest⟩ := writeInto_cons_eq_ok_iff.mp hwrite
      obtain ⟨formula, hparse', hupdate⟩ := write_eq_ok hfirst
      obtain rfl : e = formula := Except.ok.inj (hparse.symm.trans hparse')
      have hboth := (update h he hupdate).trans (ih (h.update hupdate) hrest)
      have hcontent : (fun cell => if cell ∈ first :: rest then some e else none) = fun cell =>
          (if cell ∈ rest then some e else none).or (if cell = first then some e else none) := by
        funext cell
        by_cases hcell : cell ∈ rest <;> simp [hcell]
      rw [hcontent]
      exact hboth

/-- A generation. -/
lemma stepAlong (h : s.Linked) (hnext : Life.stepAlong s dying born = (next, .ok count)) :
    Overwritten s (fun cell => (if cell ∈ born then some (.const 1) else none).or
      (if cell ∈ dying then some .empty else none)) next := by
  obtain ⟨hadvance, -⟩ := stepAlong_eq_ok_iff.mp hnext
  obtain ⟨mid, hfirst, hsecond⟩ := advance_eq_ok_iff.mp hadvance
  have hemptied := writeInto h parse_empty (Or.inl rfl) hfirst
  exact hemptied.trans (writeInto hemptied.linked parse_one (Or.inr ⟨1, rfl⟩) hsecond)

end Overwritten

/-! ### Values -/

/-- A step that succeeds leaves the value of every other cell that mentions nothing. -/
lemma value?_of_stepAlong (h : s.Linked) (hdying : cell ∉ dying) (hborn : cell ∉ born)
    (hnames : (s.grid.formula cell).names = [])
    (hnext : stepAlong s dying born = (next, .ok count)) : next.value? cell = s.value? cell := by
  refine (Overwritten.stepAlong h hnext).frame cell fun other hother => ?_
  refine not_leads_of_names hnames ?_
  rintro rfl
  simp [hdying, hborn] at hother

/-- What was written into a cell is its value, as it is its formula. -/
lemma value?_of_written (h : s.Linked) (hnext : stepAlong s dying born = (next, .ok count))
    (hcell : cell ∈ dying ∨ cell ∈ born) : next.value? cell = next.formula? cell := by
  rw [(formula?_of_stepAlong hnext).2.2.2]
  have hwritten := (Overwritten.stepAlong h hnext).value? cell
  by_cases hmem : cell ∈ born
  · rw [if_pos hmem, hwritten (.const 1) (by simp [hmem])]
  · have hdying := hcell.resolve_right hmem
    rw [if_neg hmem, if_pos hdying, hwritten .empty (by simp [hmem, hdying])]

end Spreadsheet.Life
