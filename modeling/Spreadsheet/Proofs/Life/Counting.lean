import Mathlib.Tactic
import Spreadsheet.Proofs.Life.Order
import Spreadsheet.Proofs.Sheet.Dependents
import Spreadsheet.Proofs.Session

/-!
The number of living cells that is reported.

A generation returns the number of cells that are to live by the rule. The board that it leaves may
be another one: a cell that is not written, but depends on one that is, can come to live or cease
to. So the number is right up to these cells, and where no generation is asked for it is zero.

* `gained` and `lost`: the cells that live against the rule, and those that do not;
* `written_of_stepAlong`: each of them depends on a cell that is written;
* `Lived`: some generations, each written in any order;
* `execute_life`: the number that is reported for them, and how far it is from the board.
-/

namespace Spreadsheet.Life

open Sheet Relation

variable {t : Template} {s mid next : Sheet} {cell : Location} {dying born : List Location}
  {count : Nat}

/-! ### The rule and the board -/

/-- The living cells. -/
def living (s : Sheet) : List Location :=
  s.cells.filter (isLive s)

/-- The cells that live on the second sheet and were not to by the rule for the first one. -/
def gained (s next : Sheet) : List Location :=
  s.cells.filter fun cell => isLive next cell && !livesOn s cell

/-- The cells that were to live by the rule and do not. -/
def lost (s next : Sheet) : List Location :=
  s.cells.filter fun cell => livesOn s cell && !isLive next cell

lemma mem_gained : cell ∈ gained s next ↔
    s.contains cell = true ∧ isLive next cell = true ∧ livesOn s cell = false := by
  rw [gained, List.mem_filter, mem_cells, Bool.and_eq_true, Bool.not_eq_true']

lemma mem_lost : cell ∈ lost s next ↔
    s.contains cell = true ∧ livesOn s cell = true ∧ isLive next cell = false := by
  rw [lost, List.mem_filter, mem_cells, Bool.and_eq_true, Bool.not_eq_true']

/-- Two selections from a list have the same length up to what is in one of them only. -/
lemma length_filter_add {α : Type} (p q : α → Bool) (l : List α) :
    (l.filter p).length + (l.filter fun a => q a && !p a).length =
      (l.filter q).length + (l.filter fun a => p a && !q a).length := by
  induction l with
  | nil => rfl
  | cons a l ih =>
      cases hp : p a <;> cases hq : q a <;>
        simp only [List.filter_cons, hp, hq, Bool.not_true, Bool.not_false, Bool.and_true,
          Bool.and_false, Bool.false_eq_true, if_true, if_false, List.length_cons] <;> omega

/-- The number that a generation returns, against the board that it leaves. -/
lemma population_add (hnext : stepAlong s dying born = (next, .ok count)) :
    count + (gained s next).length = (living next).length + (lost s next).length := by
  obtain ⟨rfl, hrows, hcolumns, -⟩ := formula?_of_stepAlong hnext
  have hcells : next.cells = s.cells := by rw [Sheet.cells, Sheet.cells, hrows, hcolumns]
  rw [population, gained, lost, living, hcells]
  exact length_filter_add (livesOn s) (isLive next) s.cells

/-- A cell that is not as the rule has it has not been written, but depends on one that has. -/
lemma written_of_stepAlong (h : s.Linked) (hdying : dying.Perm (deaths s))
    (hborn : born.Perm (births s)) (hnext : stepAlong s dying born = (next, .ok count))
    (hcell : s.contains cell = true) (hstray : isLive next cell ≠ livesOn s cell) :
    cell ∉ deaths s ∧ cell ∉ births s ∧
      ∃ written, (written ∈ deaths s ∨ written ∈ births s) ∧ cell ∈ s.usedBy written := by
  have hwritten := Overwritten.stepAlong h hnext
  have hbirths : cell ∉ births s := fun hmem => hstray <| by
    rw [isLive_of_value (hwritten.value? cell (.const 1) (by simp [hborn.mem_iff, hmem])),
      (mem_births.mp hmem).2.2]
    decide +kernel
  have hdeaths : cell ∉ deaths s := fun hmem => hstray <| by
    rw [isLive_of_value
      (hwritten.value? cell .empty (by simp [hborn.mem_iff, hdying.mem_iff, hbirths, hmem])),
      (mem_deaths.mp hmem).2.2]
    decide +kernel
  refine ⟨hdeaths, hbirths, ?_⟩
  by_contra hnone
  -- otherwise the cell has kept its value, and is one that neither dies nor is born
  have hvalue : next.value? cell = s.value? cell := by
    refine hwritten.frame cell fun other hother hpath => ?_
    have hmem : other ∈ deaths s ∨ other ∈ births s := by
      rw [← hdying.mem_iff, ← hborn.mem_iff]
      by_contra hno
      rw [not_or] at hno
      simp [hno] at hother
    rcases reflTransGen_iff_eq_or_transGen.mp hpath with rfl | hpath
    · exact hmem.elim hdeaths hbirths
    · exact hnone ⟨other, hmem, h.mem_usedBy.mpr hpath⟩
  rw [mem_deaths, not_and, not_and] at hdeaths
  rw [mem_births, not_and, not_and] at hbirths
  rw [isLive_congr hvalue] at hstray
  cases hlive : isLive s cell with
  | true =>
      rw [hlive] at hstray
      exact hdeaths hcell hlive (by simpa using hstray.symm)
  | false =>
      rw [hlive] at hstray
      exact hbirths hcell hlive (by simpa using hstray.symm)

/-! ### Some generations -/

/-- So many generations lead from the first sheet to the second, each written in any order, and the
last of them has returned the number. Before the first generation the number is zero. -/
inductive Lived (s : Sheet) : Nat → Sheet → Nat → Prop
  | start : Lived s 0 s 0
  | next {n former : Nat} {mid next : Sheet} {dying born : List Location} {count : Nat}
      (h : Lived s n mid former) (hdying : dying.Perm (deaths mid))
      (hborn : born.Perm (births mid)) (hnext : stepAlong mid dying born = (next, .ok count)) :
      Lived s (n + 1) next count

/-- Each of the sheets is reached. -/
lemma Lived.reached {n : Nat} (hlived : Lived s n next count) (h : Reached t s) :
    Reached t next := by
  induction hlived with
  | start => exact h
  | next _ hdying hborn hnext ih => exact reached_of_stepAlong hdying hborn ih hnext

/-- Runs are such generations, written row by row. -/
lemma Lived.run {m n : Nat} {counts last : List Nat} (h : Lived s m mid (counts.headD 0))
    (hrun : Life.run mid counts n = (next, last, none)) : Lived s (m + n) next (last.headD 0) := by
  induction n generalizing m mid counts with
  | zero =>
      simp only [Life.run, Prod.mk.injEq, and_true] at hrun
      obtain ⟨rfl, rfl⟩ := hrun
      exact h
  | succ n ih =>
      rw [Life.run] at hrun
      cases hstep : step mid with
      | mk following result =>
          rw [hstep] at hrun
          cases result with
          | error fault => simp at hrun
          | ok live =>
              have hfirst : Lived s (m + 1) following ((live :: counts).headD 0) :=
                h.next (.refl _) (.refl _) ((step_eq mid).symm.trans hstep)
              have hall := ih hfirst hrun
              rwa [Nat.add_assoc, Nat.add_comm 1 n] at hall

/-- **The number that is reported.** If a line asks for some generations of life on a sheet that is
reached, and succeeds, then it shows the sheet and a number of living cells, which is the one that
the last generation has returned, or zero if there is none. In whatever order the cells are written,
this is the number of cells that are to live by the rule, on the sheet before that generation. It
differs from the number of living cells of the sheet that is shown by the cells that live there
against the rule, and by those that do not live against the rule. If blank cells mention nothing,
these are cells that have not been written, but depend on cells that have. -/
theorem execute_life {session : Session} {line : String} {n : Nat}
    (h : Reached t session.sheet) (hline : Command.ofLine line = .ok (.life n)) :
    (∀ turn shown, (session.execute line).Gives turn → turn.result = .ok (.text shown) →
      ∃ count, Lived session.sheet n turn.session.sheet count ∧
        shown = s!"{Table.render turn.session.sheet}{n} generation(s), {count} live\n") ∧
    ∀ next count, Lived session.sheet n next count →
      (n = 0 → next = session.sheet ∧ count = 0) ∧
      (0 < n → ∃ before former, Lived session.sheet (n - 1) before former ∧
        count = (before.cells.filter (livesOn before)).length ∧
        count + (gained before next).length = (living next).length + (lost before next).length ∧
        (t.blank.dependencies = [] → ∀ cell, cell ∈ gained before next ∨ cell ∈ lost before next →
          cell ∉ deaths before ∧ cell ∉ births before ∧ ∃ written,
            (written ∈ deaths before ∨ written ∈ births before) ∧
              cell ∈ before.usedBy written)) := by
  constructor
  · intro turn shown hturn hshown
    rw [Session.execute, hline] at hturn
    obtain rfl : turn = session.runLife n := FileRequest.gives_done_iff.mp hturn
    rw [Session.runLife] at hshown ⊢
    cases hrun : Life.run session.sheet [] n with
    | mk next rest =>
        obtain ⟨counts, fault⟩ := rest
        rw [hrun] at hshown
        cases fault with
        | some fault => cases hshown
        | none =>
            have hlived : Lived session.sheet (0 + n) next (counts.headD 0) := .run .start hrun
            rw [Nat.zero_add] at hlived
            exact ⟨_, hlived, (Answer.text.inj (Except.ok.inj hshown)).symm⟩
  · intro next count hlived
    cases hlived with
    | start => exact ⟨fun _ => ⟨rfl, rfl⟩, fun hpos => absurd hpos (lt_irrefl 0)⟩
    | @next n former before _ dying born _ hbefore hdying hborn hnext =>
        refine ⟨fun hzero => absurd hzero n.succ_ne_zero, fun _ => ⟨before, former, hbefore,
          (stepAlong_eq_ok_iff.mp hnext).2, population_add hnext, fun hblank cell hstray => ?_⟩⟩
        have hlinked := (hbefore.reached h).linked (Expr.names_eq_nil hblank)
        rw [mem_gained, mem_lost] at hstray
        rcases hstray with ⟨hcell, hlive, hrule⟩ | ⟨hcell, hrule, hlive⟩
        · exact written_of_stepAlong hlinked hdying hborn hnext hcell (by simp [hlive, hrule])
        · exact written_of_stepAlong hlinked hdying hborn hnext hcell (by simp [hlive, hrule])

/-- A board on which a cell is born that another one mentions. -/
lemma exists_mention : ∃ s, Reached (Template.new .empty) s ∧
    (step s).2 = .ok 4 ∧ (living (step s).1).length = 5 ∧ (living s).length = 3 := by
  have hmake : (Template.new .empty).make 2 4 = .ok _ := rfl
  refine ⟨_, reached_writes (.make hmake)
    [(⟨0, 1⟩, "1"), (⟨1, 0⟩, "1"), (⟨1, 1⟩, "1"), (⟨0, 3⟩, "A0")], ?_⟩
  decide +kernel

/-- On this board, four living cells are reported after one generation. -/
theorem execute_life_mention : ∃ s, Reached (Template.new .empty) s ∧
    Command.ofLine "life" = .ok (.life 1) ∧ ∃ next, Lived s 1 next 4 ∧
    ∃ before,
      4 + (gained before next).length = (living next).length + (lost before next).length := by
  obtain ⟨s, hs, hcount, -, -⟩ := exists_mention
  have hline : Command.ofLine "life" = .ok (.life 1) := rfl
  have hnext : stepAlong s (deaths s) (births s) = ((step s).1, .ok 4) := Prod.ext rfl hcount
  have hlived : Lived s 1 (step s).1 4 := .next .start (.refl _) (.refl _) hnext
  have hsheet : Reached (Template.new .empty) (Session.mk s none).sheet := hs
  obtain ⟨-, hexact⟩ := execute_life hsheet hline
  obtain ⟨before, -, -, -, hsum, -⟩ := (hexact _ _ hlived).2 Nat.one_pos
  exact ⟨s, hs, hline, _, hlived, before, hsum⟩

/-- But five cells live then, and of three living cells none is reported if no generation is asked
for. -/
theorem execute_life_miscounts : ∃ s, Reached (Template.new .empty) s ∧
    (∃ next, (Session.execute ⟨s, none⟩ "life").Gives
        (Session.say ⟨next, none⟩ s!"{Table.render next}{1} generation(s), {4} live\n") ∧
      (living next).length = 5) ∧
    (Session.execute ⟨s, none⟩ "life 0").Gives
        (Session.say ⟨s, none⟩ s!"{Table.render s}{0} generation(s), {0} live\n") ∧
      (living s).length = 3 := by
  obtain ⟨s, hs, hcount, hafter, hbefore⟩ := exists_mention
  have hline : Command.ofLine "life" = .ok (.life 1) := rfl
  have hline' : Command.ofLine "life 0" = .ok (.life 0) := rfl
  have hstep : step s = ((step s).1, .ok 4) := Prod.ext rfl hcount
  have hrun : Life.run s [] 1 = ((step s).1, [4], none) := by
    rw [Life.run, hstep]
    rfl
  refine ⟨s, hs, ⟨(step s).1, ?_, hafter⟩, ?_, hbefore⟩
  · rw [Session.execute, hline]
    refine FileRequest.gives_done_iff.mpr ?_
    rw [Session.runLife, hrun]
    rfl
  · rw [Session.execute, hline']
    exact FileRequest.gives_done_iff.mpr rfl

end Spreadsheet.Life
