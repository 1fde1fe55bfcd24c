import Mathlib.Data.Finset.Card
import Mathlib.Logic.Relation
import Mathlib.Tactic
import Spreadsheet.Graph

/-!
What a depth-first walk finds, and in which order it leaves the vertices.

The walk is first freed from its bound on the depth: `Search` is the walk from one vertex as a
relation, with one rule for each turn of its loop, and `Tour` the walk from several sources, a
search from each in turn. Their rules allow one outcome only (`Search.unique`, `Tour.unique`), and
a walk that is deep enough is that outcome (`explore_search`, `tour_walkFrom`). Everything else is
an induction over the rules, in which `Underway` says of the vertices that have been entered and
not left that they lead to the vertex where the search is, and `Complete` that there are none of
these between two searches of a tour.

* `tour_downstream`: the walk ends, and what is listed is what it has left;
* `mem_downstream`: exactly the vertices that a source leads to are listed;
* `nodup_downstream`: none is listed twice;
* `pairwise_downstream` and `lt_of_leads_downstream`: without cycles, no vertex leads to one that
  is listed before it, so each stands before all that it leads to.
-/

namespace Spreadsheet.Graph

open Relation

variable {α : Type} {successors : α → List α} {vertex : α}

/-- There is an edge from one vertex to another. -/
def Edge (successors : α → List α) (a b : α) : Prop := b ∈ successors a

/-- The first vertex leads to the second by one or more edges. -/
abbrev Leads (successors : α → List α) : α → α → Prop := TransGen (Edge successors)

/-- A walk through the edges from `vertex` to the listed vertices: those that have
been entered are passed over, and the others are entered, walked on from, and
left. -/
inductive Search (successors : α → List α) : α → List α → Walk α → Walk α → Prop where
  | done {vertex walk} : Search successors vertex [] walk walk
  | skip {vertex next rest walk last} (hnext : next ∈ walk.entered)
      (hrest : Search successors vertex rest walk last) :
      Search successors vertex (next :: rest) walk last
  | enter {vertex next rest walk beyond last} (hnext : next ∉ walk.entered)
      (hbeyond : Search successors next (successors next)
        { walk with entered := next :: walk.entered } beyond)
      (hrest : Search successors vertex rest
        { beyond with left := next :: beyond.left } last) :
      Search successors vertex (next :: rest) walk last

namespace Search

variable {nexts : List α} {walk last : Walk α}

/-! ### What is entered and left -/

/-- What has been entered stays entered. -/
lemma entered_mono (h : Search successors vertex nexts walk last) {x : α}
    (hx : x ∈ walk.entered) : x ∈ last.entered := by
  induction h with
  | done => exact hx
  | skip _ _ ih => exact ih hx
  | enter _ _ _ ihb ihr => exact ihr (ihb (List.mem_cons_of_mem _ hx))

/-- All vertices at the ends of the edges have been entered. -/
lemma entered_of_mem (h : Search successors vertex nexts walk last) {x : α} (hx : x ∈ nexts) :
    x ∈ last.entered := by
  induction h with
  | done => simp at hx
  | skip hnext hrest ih =>
      rcases List.mem_cons.mp hx with rfl | hx
      · exact hrest.entered_mono hnext
      · exact ih hx
  | enter _ hbeyond hrest _ ihr =>
      rcases List.mem_cons.mp hx with rfl | hx
      · exact hrest.entered_mono (hbeyond.entered_mono List.mem_cons_self)
      · exact ihr hx

/-- The vertices that are left are those that the search enters, besides those
that had been left before. -/
lemma mem_left_iff (h : Search successors vertex nexts walk last) (x : α) :
    x ∈ last.left ↔ x ∈ walk.left ∨ (x ∈ last.entered ∧ x ∉ walk.entered) := by
  induction h with
  | done => simp
  | skip _ _ ih => exact ih
  | @enter _ next _ walk beyond last hnext hbeyond hrest ihb ihr =>
      have hfirst : x ∈ next :: walk.entered → x ∈ beyond.entered := hbeyond.entered_mono
      have hsecond : x ∈ beyond.entered → x ∈ last.entered := fun hx => hrest.entered_mono hx
      rw [ihr, List.mem_cons, ihb]
      -- next is left at the end of its search, other vertices by one of the two searches
      by_cases hxn : x = next
      · subst hxn
        simp [hnext, hsecond (hfirst List.mem_cons_self)]
      · simp only [List.mem_cons, hxn, false_or] at hfirst ⊢
        by_cases hxb : x ∈ beyond.entered
        · simp [hxb, hsecond hxb]
        · simp [hxb, mt hfirst hxb]

/-- Whatever is entered was entered before, or `vertex` leads to it. -/
lemma leads (h : Search successors vertex nexts walk last)
    (hnexts : ∀ x ∈ nexts, Edge successors vertex x) {x : α} (hx : x ∈ last.entered) :
    x ∈ walk.entered ∨ Leads successors vertex x := by
  induction h with
  | done => exact Or.inl hx
  | skip _ _ ih => exact ih (fun y hy => hnexts y (List.mem_cons_of_mem _ hy)) hx
  | enter _ _ _ ihb ihr =>
      have hedge := hnexts _ List.mem_cons_self
      rcases ihr (fun y hy => hnexts y (List.mem_cons_of_mem _ hy)) hx with hx | hx
      · rcases ihb (fun _ hy => hy) hx with hx | hx
        · rcases List.mem_cons.mp hx with rfl | hx
          · exact Or.inr (TransGen.single hedge)
          · exact Or.inl hx
        · exact Or.inr (TransGen.head hedge hx)
      · exact Or.inr hx

/-- The edges of a vertex that the search enters end in entered vertices. -/
lemma closed (h : Search successors vertex nexts walk last) {x y : α} (hx : x ∈ last.entered)
    (hnew : x ∉ walk.entered) (hedge : Edge successors x y) : y ∈ last.entered := by
  induction h with
  | done => exact absurd hx hnew
  | skip _ _ ih => exact ih hx hnew
  | @enter _ next _ walk beyond _ _ hbeyond hrest ihb ihr =>
      -- the edges of next are those that the search beyond it goes through
      by_cases hb : x ∈ beyond.entered
      · refine hrest.entered_mono ?_
        by_cases hxn : x = next
        · subst hxn
          exact hbeyond.entered_of_mem hedge
        · exact ihb hb (by simp [hxn, hnew])
      · exact ihr hx hb

/-- The rules leave nothing open: a search has one outcome. -/
lemma unique {other : Walk α} (h : Search successors vertex nexts walk last)
    (hother : Search successors vertex nexts walk other) : last = other := by
  induction h generalizing other with
  | done =>
      cases hother
      rfl
  | skip hnext _ ih =>
      cases hother with
      | skip _ hrest => exact ih hrest
      | enter hfresh => exact absurd hnext hfresh
  | enter hnext _ _ ihb ihr =>
      cases hother with
      | skip hentered => exact absurd hentered hnext
      | enter _ hbeyond hrest =>
          obtain rfl := ihb hbeyond
          exact ihr hrest

/-! ### The vertices on the way -/

/-- What holds of a walk on its way from a vertex: it has entered what it has left, and what it
has entered and not left leads to the vertex. -/
structure Underway (successors : α → List α) (vertex : α) (walk : Walk α) : Prop where
  entered : ∀ x ∈ walk.left, x ∈ walk.entered
  leads : ∀ x ∈ walk.entered, x ∉ walk.left → ReflTransGen (Edge successors) x vertex

variable {next : α} {beyond : Walk α}

/-- The way goes on to the next vertex when this is entered. -/
lemma Underway.enter (h : Underway successors vertex walk) (hedge : Edge successors vertex next) :
    Underway successors next { walk with entered := next :: walk.entered } where
  entered x hx := List.mem_cons_of_mem _ (h.entered x hx)
  leads x hx hleft := by
    rcases List.mem_cons.mp hx with rfl | hx
    · exact ReflTransGen.refl
    · exact (h.leads x hx hleft).tail hedge

/-- It is the former way again when this is left. -/
lemma Underway.leave (h : Underway successors vertex walk)
    (hbeyond : Search successors next nexts { walk with entered := next :: walk.entered } beyond) :
    Underway successors vertex { beyond with left := next :: beyond.left } where
  entered x hx := by
    rcases List.mem_cons.mp hx with rfl | hx
    · exact hbeyond.entered_mono List.mem_cons_self
    · rcases (hbeyond.mem_left_iff x).mp hx with hx | hx
      · exact hbeyond.entered_mono (List.mem_cons_of_mem _ (h.entered x hx))
      · exact hx.1
  leads x hx hleft := by
    rw [List.mem_cons, not_or, hbeyond.mem_left_iff, not_or, not_and_not_right] at hleft
    exact h.leads x ((List.mem_cons.mp (hleft.2.2 hx)).resolve_left hleft.1) hleft.2.1

/-- A vertex that is entered is not left while the search is beyond it. -/
lemma Underway.notMem_left (h : Underway successors vertex walk) (hnext : next ∉ walk.entered)
    (hbeyond : Search successors next nexts { walk with entered := next :: walk.entered } beyond) :
    next ∉ beyond.left := by
  rw [hbeyond.mem_left_iff]
  rintro (hx | ⟨-, hx⟩)
  · exact hnext (h.entered _ hx)
  · exact hx List.mem_cons_self

/-- Without cycles the edges of the vertex that is about to be left end in vertices that have been
left: one that is still open leads to the vertex. -/
lemma Underway.mem_left_of_edge (hacyclic : ∀ x, ¬ Leads successors x x)
    (h : Underway successors vertex walk)
    (hsearch : Search successors vertex (successors vertex) walk last) {x : α}
    (hedge : Edge successors vertex x) : x ∈ last.left := by
  by_contra hopen
  rw [hsearch.mem_left_iff, not_or, not_and_not_right] at hopen
  have hback := h.leads x (hopen.2 (hsearch.entered_of_mem hedge)) hopen.1
  exact hacyclic vertex (TransGen.head' hedge hback)

/-! ### The order -/

/-- No vertex is left twice. -/
lemma nodup (h : Search successors vertex nexts walk last)
    (hnexts : ∀ x ∈ nexts, Edge successors vertex x) (hway : Underway successors vertex walk)
    (hnodup : walk.left.Nodup) : last.left.Nodup := by
  induction h with
  | done => exact hnodup
  | skip _ _ ih => exact ih (fun y hy => hnexts y (List.mem_cons_of_mem _ hy)) hway hnodup
  | enter hnext hbeyond _ ihb ihr =>
      have hnodup' := ihb (fun _ hy => hy) (hway.enter (hnexts _ List.mem_cons_self)) hnodup
      exact ihr (fun y hy => hnexts y (List.mem_cons_of_mem _ hy)) (hway.leave hbeyond)
        (List.nodup_cons.mpr ⟨hway.notMem_left hnext hbeyond, hnodup'⟩)

/-- The vertices of a walk that have been left are in order if each comes before
all that it leads to, and these have all been left. -/
structure Ordered (successors : α → List α) (walk : Walk α) : Prop where
  closed : ∀ x ∈ walk.left, ∀ y, Edge successors x y → y ∈ walk.left
  pairwise : walk.left.Pairwise fun a b => ¬ Leads successors b a

/-- A vertex that has been left leads only to vertices that have been left. -/
lemma Ordered.leads (h : Ordered successors walk) {x y : α} (hx : x ∈ walk.left)
    (hxy : Leads successors x y) : y ∈ walk.left := by
  induction hxy with
  | single hedge => exact h.closed _ hx _ hedge
  | tail _ hedge ih => exact h.closed _ ih _ hedge

/-- A vertex whose edges end in vertices that have been left can be left next. -/
lemma Ordered.leave (h : Ordered successors walk)
    (hedges : ∀ y, Edge successors next y → y ∈ walk.left) (hnext : next ∉ walk.left) :
    Ordered successors { walk with left := next :: walk.left } where
  closed x hx y hy := by
    rcases List.mem_cons.mp hx with rfl | hx
    · exact List.mem_cons_of_mem _ (hedges y hy)
    · exact List.mem_cons_of_mem _ (h.closed x hx y hy)
  pairwise := List.pairwise_cons.mpr ⟨fun _ hy hleads => hnext (h.leads hy hleads), h.pairwise⟩

/-- Without cycles a search keeps the order. -/
lemma ordered (hacyclic : ∀ x, ¬ Leads successors x x)
    (h : Search successors vertex nexts walk last)
    (hnexts : ∀ x ∈ nexts, Edge successors vertex x) (hway : Underway successors vertex walk)
    (hordered : Ordered successors walk) : Ordered successors last := by
  induction h with
  | done => exact hordered
  | skip _ _ ih => exact ih (fun y hy => hnexts y (List.mem_cons_of_mem _ hy)) hway hordered
  | enter hnext hbeyond _ ihb ihr =>
      have hnextway := hway.enter (hnexts _ List.mem_cons_self)
      -- first all is left in order that the edges of next lead to, and then next itself
      have hbeyond' := ihb (fun _ hy => hy) hnextway ⟨hordered.closed, hordered.pairwise⟩
      refine ihr (fun y hy => hnexts y (List.mem_cons_of_mem _ hy)) (hway.leave hbeyond) ?_
      exact hbeyond'.leave (fun y hy => hnextway.mem_left_of_edge hacyclic hbeyond hy)
        (hway.notMem_left hnext hbeyond)

end Search

/-! ### Complete walks -/

/-- What holds of a walk between two sources: it has left every vertex that it
has entered, and the edges of these end in such vertices. -/
structure Walk.Complete (successors : α → List α) (walk : Walk α) : Prop where
  mem_left_iff : ∀ x, x ∈ walk.left ↔ x ∈ walk.entered
  closed : ∀ x ∈ walk.left, ∀ y, Edge successors x y → y ∈ walk.left
  nodup : walk.left.Nodup

/-- From a complete walk the way to any source is free: nothing is open. -/
lemma Walk.Complete.underway {walk : Walk α} (h : walk.Complete successors) (source : α) :
    Search.Underway successors source walk where
  entered x := (h.mem_left_iff x).mp
  leads x hx hleft := absurd ((h.mem_left_iff x).mpr hx) hleft

/-- A search from a source leaves a complete walk complete. -/
lemma Search.complete {walk last : Walk α}
    (h : Search successors vertex (successors vertex) walk last)
    (hwalk : walk.Complete successors) : last.Complete successors := by
  have hleft : ∀ x, x ∈ last.left ↔ x ∈ last.entered := by
    intro x
    rw [h.mem_left_iff, hwalk.mem_left_iff]
    by_cases hxw : x ∈ walk.entered
    · simp [hxw, h.entered_mono hxw]
    · simp [hxw]
  refine ⟨hleft, fun x hx y hy => ?_, h.nodup (fun _ hy => hy) (hwalk.underway _) hwalk.nodup⟩
  rw [hleft] at hx ⊢
  -- what was entered before was closed before, and the search closes what it enters
  by_cases hxw : x ∈ walk.entered
  · have := hwalk.closed x ((hwalk.mem_left_iff x).mpr hxw) y hy
    exact h.entered_mono ((hwalk.mem_left_iff y).mp this)
  · exact h.closed hx hxw hy

lemma Walk.complete_start : (Walk.start : Walk α).Complete successors :=
  ⟨fun _ => Iff.rfl, fun _ hx => absurd hx List.not_mem_nil, List.nodup_nil⟩

/-- A search from a source adds to a complete walk what the source leads to. -/
lemma Search.mem_left_of_complete {walk last : Walk α}
    (h : Search successors vertex (successors vertex) walk last)
    (hwalk : walk.Complete successors) (x : α) :
    x ∈ last.left ↔ x ∈ walk.left ∨ Leads successors vertex x := by
  have hlast := h.complete hwalk
  constructor
  · rw [hlast.mem_left_iff, hwalk.mem_left_iff]
    exact h.leads fun _ hy => hy
  · rintro (hx | hx)
    · exact (hlast.mem_left_iff x).mpr (h.entered_mono ((hwalk.mem_left_iff x).mp hx))
    · induction hx with
      | single hedge => exact (hlast.mem_left_iff _).mpr (h.entered_of_mem hedge)
      | tail _ hedge ih => exact hlast.closed _ ih _ hedge

/-! ### Tours -/

/-- A walk from several sources: a search from each source in turn, which starts with what the
searches before it have entered and left. -/
inductive Tour (successors : α → List α) : List α → Walk α → Walk α → Prop where
  | done {walk} : Tour successors [] walk walk
  | turn {source rest walk beyond last}
      (hsearch : Search successors source (successors source) walk beyond)
      (hrest : Tour successors rest beyond last) :
      Tour successors (source :: rest) walk last

namespace Tour

variable {sources : List α} {walk last : Walk α}

/-- A tour has one outcome. -/
lemma unique {other : Walk α} (h : Tour successors sources walk last)
    (hother : Tour successors sources walk other) : last = other := by
  induction h generalizing other with
  | done =>
      cases hother
      rfl
  | turn hsearch _ ih =>
      cases hother with
      | turn hsearch' hrest =>
          obtain rfl := hsearch.unique hsearch'
          exact ih hrest

/-- A tour leaves a complete walk complete. -/
lemma complete (h : Tour successors sources walk last) (hwalk : walk.Complete successors) :
    last.Complete successors := by
  induction h with
  | done => exact hwalk
  | turn hsearch _ ih => exact ih (hsearch.complete hwalk)

/-- A tour adds to a complete walk what its sources lead to. -/
lemma mem_left_iff (h : Tour successors sources walk last) (hwalk : walk.Complete successors)
    (x : α) : x ∈ last.left ↔ x ∈ walk.left ∨ ∃ source ∈ sources, Leads successors source x := by
  induction h with
  | done => simp
  | turn hsearch _ ih =>
      rw [ih (hsearch.complete hwalk), hsearch.mem_left_of_complete hwalk, or_assoc]
      simp

/-- Without cycles a tour keeps the order. -/
lemma ordered (hacyclic : ∀ x, ¬ Leads successors x x) (h : Tour successors sources walk last)
    (hwalk : walk.Complete successors) (hordered : Search.Ordered successors walk) :
    Search.Ordered successors last := by
  induction h with
  | done => exact hordered
  | turn hsearch _ ih =>
      exact ih (hsearch.complete hwalk)
        (hsearch.ordered hacyclic (fun _ hy => hy) (hwalk.underway _) hordered)

end Tour

/-! ### A walk that is deep enough -/

section Downstream

variable [DecidableEq α] {support : Finset α} {size : Nat}

/-- One turn of the loop of a walk. -/
def visit (successors : α → List α) (depth : Nat) (walk : Walk α) (next : α) : Walk α :=
  if next ∈ walk.entered then walk
  else
    let beyond := explore successors depth next { walk with entered := next :: walk.entered }
    { beyond with left := next :: beyond.left }

lemma explore_succ (depth : Nat) (walk : Walk α) :
    explore successors (depth + 1) vertex walk
      = (successors vertex).foldl (visit successors depth) walk := rfl

/-- The more has been entered, the less is left to enter. -/
lemma card_sdiff_le {entered more : List α} (h : ∀ x ∈ entered, x ∈ more) :
    (support \ more.toFinset).card ≤ (support \ entered.toFinset).card :=
  Finset.card_le_card fun x => by
    simp only [Finset.mem_sdiff, List.mem_toFinset]
    exact fun hx => ⟨hx.1, fun hentered => hx.2 (h x hentered)⟩

lemma card_sdiff_cons_lt {entered : List α} {next : α} (hsupport : next ∈ support)
    (hnext : next ∉ entered) :
    (support \ (next :: entered).toFinset).card < (support \ entered.toFinset).card := by
  have hmem : next ∈ support \ entered.toFinset := by simp [hsupport, hnext]
  refine Finset.card_lt_card ((Finset.ssubset_iff_of_subset fun x => ?_).mpr ⟨next, hmem, by simp⟩)
  simp only [Finset.mem_sdiff, List.toFinset_cons, Finset.mem_insert, not_or]
  exact fun hx => ⟨hx.1, hx.2.2⟩

/-- A walk is a search if it may go deeper than there are vertices left to enter
that have successors. -/
lemma explore_search (hsupport : ∀ v, successors v ≠ [] → v ∈ support)
    (depth : Nat) (vertex : α) (walk : Walk α)
    (hdepth : successors vertex ≠ [] → (support \ walk.entered.toFinset).card < depth) :
    Search successors vertex (successors vertex) walk
      (explore successors depth vertex walk) := by
  -- on the depth: to go one step deeper takes a vertex from those that are left to enter
  induction depth generalizing vertex walk with
  | zero =>
      have hnil : successors vertex = [] := by
        by_contra hne
        exact absurd (hdepth hne) (by omega)
      rw [hnil]
      exact Search.done
  | succ depth ih =>
      rw [explore_succ]
      have hcard : successors vertex ≠ [] → (support \ walk.entered.toFinset).card ≤ depth :=
        fun hne => Nat.le_of_lt_succ (hdepth hne)
      clear hdepth
      -- the loop over the edges: what it enters leaves less to enter for those that follow
      generalize successors vertex = nexts at hcard
      induction nexts generalizing walk with
      | nil => exact Search.done
      | cons next rest ihr =>
          have hle := hcard (List.cons_ne_nil next rest)
          rw [List.foldl_cons, visit]
          split_ifs with hnext
          · exact Search.skip hnext (ihr walk fun _ => hle)
          · have hbeyond := ih next { walk with entered := next :: walk.entered } fun hne =>
              lt_of_lt_of_le (card_sdiff_cons_lt (hsupport next hne) hnext) hle
            refine Search.enter hnext hbeyond (ihr _ fun _ => le_trans (card_sdiff_le ?_) hle)
            exact fun x hx => hbeyond.entered_mono (List.mem_cons_of_mem _ hx)

/-! ### The vertices downstream -/

/-- The walk that lists the vertices downstream. -/
def walkFrom (successors : α → List α) (size : Nat) (sources : List α) (walk : Walk α) : Walk α :=
  sources.foldl (fun walk source => explore successors (size + 1) source walk) walk

variable {sources : List α} {x : α} (hsupport : ∀ v, successors v ≠ [] → v ∈ support)
  (hsize : support.card ≤ size)

include hsupport hsize

/-- The walk from all sources is deep enough for a tour. -/
lemma tour_walkFrom (sources : List α) (walk : Walk α) :
    Tour successors sources walk (walkFrom successors size sources walk) := by
  induction sources generalizing walk with
  | nil => exact Tour.done
  | cons source rest ih =>
      refine Tour.turn (explore_search hsupport (size + 1) source walk fun _ => ?_) (ih _)
      have hcard := Finset.card_le_card
        (Finset.sdiff_subset (s := support) (t := walk.entered.toFinset))
      omega

/-- **The walk ends.** Without any bound on the depth there is one tour of the sources, and what
it has left at its end are the vertices downstream, the last one first. -/
theorem tour_downstream (sources : List α) : ∃ last : Walk α,
    (∀ other, Tour successors sources Walk.start other ↔ other = last) ∧
      last.left = downstream successors size sources := by
  have htour := tour_walkFrom hsupport hsize sources Walk.start
  exact ⟨_, fun other => ⟨fun hother => hother.unique htour, fun hother => hother ▸ htour⟩, rfl⟩

/-- Exactly the vertices that a source leads to are downstream. -/
theorem mem_downstream :
    x ∈ downstream successors size sources ↔ ∃ source ∈ sources, Leads successors source x :=
  ((tour_walkFrom hsupport hsize sources Walk.start).mem_left_iff Walk.complete_start x).trans
    (or_iff_right List.not_mem_nil)

/-- No vertex downstream is listed twice. -/
theorem nodup_downstream (sources : List α) : (downstream successors size sources).Nodup :=
  ((tour_walkFrom hsupport hsize sources Walk.start).complete Walk.complete_start).nodup

/-- Without cycles no vertex downstream leads to one that is listed before it. -/
theorem pairwise_downstream (hacyclic : ∀ x, ¬ Leads successors x x) (sources : List α) :
    (downstream successors size sources).Pairwise fun a b => ¬ Leads successors b a :=
  ((tour_walkFrom hsupport hsize sources Walk.start).ordered hacyclic Walk.complete_start
    ⟨fun _ hx => absurd hx List.not_mem_nil, List.Pairwise.nil⟩).pairwise

/-- So a vertex downstream is listed before all those that it leads to. -/
theorem lt_of_leads_downstream (hacyclic : ∀ x, ¬ Leads successors x x) {i j : Nat} {a b : α}
    (ha : (downstream successors size sources)[i]? = some a)
    (hb : (downstream successors size sources)[j]? = some b) (hleads : Leads successors a b) :
    i < j := by
  obtain ⟨hi, rfl⟩ := List.getElem?_eq_some_iff.mp ha
  obtain ⟨hj, rfl⟩ := List.getElem?_eq_some_iff.mp hb
  rcases lt_trichotomy i j with hlt | rfl | hlt
  · exact hlt
  · exact absurd hleads (hacyclic _)
  · have hpairwise := pairwise_downstream hsupport hsize hacyclic sources
    exact absurd hleads (List.pairwise_iff_getElem.mp hpairwise j i hj hi hlt)

end Downstream

end Spreadsheet.Graph
