import Mathlib.Data.Finset.Card
import Mathlib.Tactic
import Spreadsheet.Proofs.Graph.Search

/-!
What a sweep finds.

The pending vertices are looked at in no particular order, so what can be said of a sweep between
two turns is that whatever the source leads to has been found or lies beyond something that is
pending (`Sweep.Sound`).

* `Sweep.Sound.turn` and `Sweep.Sound.sweep`: every turn keeps this, and so does the sweep;
* `pending_sweep`: with enough turns a sweep ends because nothing is pending any more;
* `mem_found_sweep`: then exactly the vertices have been found that the source leads to, be
  there cycles or not.
-/

namespace Spreadsheet.Graph

open Relation

variable {α : Type} [DecidableEq α] {successors : α → List α} {source vertex x : α}
  {found rest nexts : List α}

namespace Sweep

variable {state : Sweep α}

/-! ### One turn -/

lemma mem_found_find : x ∈ (state.find vertex).found ↔ x ∈ state.found ∨ x = vertex := by
  rw [find]
  split_ifs with hvertex
  · refine (or_iff_left_of_imp ?_).symm
    rintro rfl
    exact hvertex
  · rw [List.mem_cons, or_comm]

lemma mem_pending_find : x ∈ (state.find vertex).pending ↔
    x ∈ state.pending ∨ (x = vertex ∧ x ∉ state.found) := by
  rw [find]
  split_ifs with hvertex
  · refine (or_iff_left_of_imp ?_).symm
    rintro ⟨rfl, hnot⟩
    exact absurd hvertex hnot
  · rw [List.mem_cons, or_comm]
    refine or_congr_right (and_iff_left_of_imp ?_).symm
    rintro rfl
    exact hvertex

/-- What has been found after the given vertices have been. -/
lemma mem_found_foldl : x ∈ (nexts.foldl find state).found ↔ x ∈ state.found ∨ x ∈ nexts := by
  induction nexts generalizing state with
  | nil => simp
  | cons next nexts ih => rw [List.foldl_cons, ih, mem_found_find, List.mem_cons, or_assoc]

/-- Of these, the new ones are pending. -/
lemma mem_pending_foldl : x ∈ (nexts.foldl find state).pending ↔
    x ∈ state.pending ∨ (x ∈ nexts ∧ x ∉ state.found) := by
  induction nexts generalizing state with
  | nil => simp
  | cons next nexts ih =>
      rw [List.foldl_cons, ih, mem_pending_find, mem_found_find, List.mem_cons]
      tauto

/-- As many vertices become pending as are found. -/
lemma length_foldl (nexts : List α) (state : Sweep α) :
    (nexts.foldl find state).pending.length + state.found.length =
      (nexts.foldl find state).found.length + state.pending.length := by
  induction nexts generalizing state with
  | nil => exact Nat.add_comm _ _
  | cons next nexts ih =>
      have hrest := ih (state.find next)
      have hfirst : (state.find next).pending.length + state.found.length =
          (state.find next).found.length + state.pending.length := by
        rw [find]
        split_ifs
        · exact Nat.add_comm _ _
        · simp only [List.length_cons]
          omega
      rw [List.foldl_cons]
      omega

lemma nodup_foldl (h : state.found.Nodup) : (nexts.foldl find state).found.Nodup := by
  induction nexts generalizing state with
  | nil => exact h
  | cons next nexts ih =>
      refine ih ?_
      rw [find]
      split_ifs with hnext
      · exact h
      · exact List.nodup_cons.mpr ⟨hnext, h⟩

/-! ### All turns -/

/-- What holds of a sweep between two turns: the source leads to what has been found, and the
successors of what has been found, and of the source, have been found as well, unless they are
still to be looked at. -/
structure Sound (successors : α → List α) (source : α) (state : Sweep α) : Prop where
  leads : ∀ x ∈ state.found, Leads successors source x
  mem_found : ∀ x ∈ state.pending, x = source ∨ x ∈ state.found
  closed : ∀ x, x = source ∨ x ∈ state.found → x ∉ state.pending →
    ∀ y, Edge successors x y → y ∈ state.found
  nodup : state.found.Nodup

omit [DecidableEq α] in
lemma sound_start : Sound successors source (start source) where
  leads _ hx := absurd hx List.not_mem_nil
  mem_found _ hx := Or.inl (List.mem_singleton.mp hx)
  closed x hx hpending := by
    rcases hx with rfl | hx
    · exact absurd List.mem_cons_self hpending
    · exact absurd hx List.not_mem_nil
  nodup := List.nodup_nil

/-- A turn keeps this. The vertex that it takes from the pile is the only one whose successors
become known to be found. -/
lemma Sound.turn (h : Sound successors source ⟨found, vertex :: rest⟩) :
    Sound successors source ((successors vertex).foldl find ⟨found, rest⟩) where
  leads x hx := by
    rcases mem_found_foldl.mp hx with hx | hx
    · exact h.leads x hx
    · rcases h.mem_found vertex List.mem_cons_self with rfl | hvertex
      · exact TransGen.single hx
      · exact (h.leads vertex hvertex).tail hx
  mem_found x hx := by
    rw [mem_found_foldl]
    rcases mem_pending_foldl.mp hx with hx | ⟨hx, -⟩
    · exact (h.mem_found x (List.mem_cons_of_mem _ hx)).imp_right Or.inl
    · exact Or.inr (Or.inr hx)
  closed x hx hpending y hy := by
    rw [mem_pending_foldl, not_or, not_and_not_right] at hpending
    rw [mem_found_foldl] at hx ⊢
    by_cases hvertex : x = vertex
    · exact Or.inr (hvertex ▸ hy)
    · have hold : x = source ∨ x ∈ found := by
        rcases hx with hx | hx | hx
        · exact Or.inl hx
        · exact Or.inr hx
        · exact Or.inr (hpending.2 hx)
      exact Or.inl (h.closed x hold (by simpa [hvertex] using hpending.1) y hy)
  nodup := nodup_foldl h.nodup

/-- So does the sweep. -/
lemma Sound.sweep (h : Sound successors source state) (turns : Nat) :
    Sound successors source (Graph.sweep successors turns state) := by
  fun_induction Graph.sweep successors turns state with
  | case1 turns found vertex rest ih => exact ih h.turn
  | case2 => exact h

omit [DecidableEq α] in
/-- At the end, exactly what the source leads to has been found. -/
lemma Sound.mem_found_iff (h : Sound successors source state) (hend : state.pending = []) :
    x ∈ state.found ↔ Leads successors source x := by
  refine ⟨h.leads x, fun hleads => ?_⟩
  have hclosed : ∀ x, x = source ∨ x ∈ state.found → ∀ y, Edge successors x y → y ∈ state.found :=
    fun x hx => h.closed x hx (by simp [hend])
  -- nothing is pending, so that the edges lead from what is found to what is found
  induction hleads with
  | single hedge => exact hclosed _ (Or.inl rfl) _ hedge
  | tail _ hedge ih => exact hclosed _ (Or.inr ih) _ hedge

/-- No more can be found than the edges lead to. -/
lemma Sound.length_found_le (h : Sound successors source state) {support : Finset α}
    (hsupport : ∀ v, ∀ x ∈ successors v, x ∈ support) : state.found.length ≤ support.card := by
  rw [← List.toFinset_card_of_nodup h.nodup]
  refine Finset.card_le_card fun x hx => ?_
  obtain ⟨v, -, hedge⟩ := TransGen.tail'_iff.mp (h.leads x (List.mem_toFinset.mp hx))
  exact hsupport v x hedge

end Sweep

/-! ### The end of a sweep -/

section Support

variable {support : Finset α} {turns : Nat} (hsupport : ∀ v, ∀ x ∈ successors v, x ∈ support)

include hsupport

/-- A sweep ends if it may make as many turns as vertices are pending or can still be found. -/
lemma pending_sweep_of_le {state : Sweep α} (h : state.Sound successors source)
    (hturns : state.pending.length + support.card ≤ turns + state.found.length) :
    (sweep successors turns state).pending = [] := by
  fun_induction sweep successors turns state with
  | case1 turns found vertex rest ih =>
      -- what a turn finds is pending then, so the turn has taken one away from the sum
      have hlength := Sweep.length_foldl (successors vertex) ⟨found, rest⟩
      refine ih h.turn ?_
      simp only [List.length_cons] at hturns hlength
      omega
  | case2 turns state hstop =>
      cases hpending : state.pending with
      | nil => rfl
      | cons vertex rest =>
          have hfound := h.length_found_le hsupport
          cases turns with
          | zero =>
              rw [hpending, List.length_cons] at hturns
              omega
          | succ turns =>
              exact absurd (congrArg (Sweep.mk state.found) hpending) (hstop _ _ _ _ rfl)

/-- **A sweep ends** after at most one turn more than there are vertices at the ends of edges. -/
theorem pending_sweep (hturns : support.card < turns) (source : α) :
    (sweep successors turns (.start source)).pending = [] := by
  refine pending_sweep_of_le hsupport Sweep.sound_start ?_
  simp only [Sweep.start, List.length_cons, List.length_nil]
  omega

/-- **What a sweep finds** are the vertices that its source leads to. -/
theorem mem_found_sweep (hturns : support.card < turns) {source : α} :
    x ∈ (sweep successors turns (.start source)).found ↔ Leads successors source x :=
  (Sweep.sound_start.sweep turns).mem_found_iff (pending_sweep hsupport hturns source)

end Support

end Spreadsheet.Graph
