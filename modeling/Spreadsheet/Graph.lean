/-!
Walking a finite directed graph.

The graph is given by the list of successors of each vertex, in any order. A
depth-first walk enters each vertex once and leaves it after all vertices that
it leads to.

* `Graph.explore` walks from one vertex on;
* `Graph.downstream` lists the vertices that the sources lead to by one or more
  edges. They are listed in the reverse of the order in which the walk leaves
  them, so that in a graph without cycles a vertex comes before all vertices that
  it leads to;
* `Graph.sweep` finds the vertices that are led to, without regard to order. It
  keeps those whose successors it has not looked at yet on a pile.

The walk is bounded by its depth. A path of the walk enters no vertex twice, so
the number of vertices that have successors is depth enough. The sweep is bounded
by its turns. No vertex is put on the pile twice once it has been found, so one
turn more than there are edges is enough.
-/

namespace Spreadsheet.Graph

variable {α : Type} [DecidableEq α]

/-- How far a walk has come: the vertices that it has entered, and those that it
has left, the last one first. -/
structure Walk (α : Type) where
  entered : List α
  left : List α

/-- The start of a walk. -/
def Walk.start : Walk α :=
  ⟨[], []⟩

/-- Walks to every vertex that `vertex` leads to and that has not been entered
yet. The vertex itself is neither entered nor left. -/
def explore (successors : α → List α) : Nat → α → Walk α → Walk α
  | 0, _, walk => walk
  | depth + 1, vertex, walk =>
      (successors vertex).foldl
        (fun walk next =>
          if next ∈ walk.entered then walk
          else
            let beyond := explore successors depth next { walk with entered := next :: walk.entered }
            { beyond with left := next :: beyond.left })
        walk

/-- The vertices that the sources lead to, where at most `size` vertices have
successors. -/
def downstream (successors : α → List α) (size : Nat) (sources : List α) : List α :=
  (sources.foldl (fun walk source => explore successors (size + 1) source walk) Walk.start).left

/-! ### Sweeps -/

/-- How far a sweep has come: the vertices that it has found, and those whose
successors it has not looked at yet, the next one first. -/
structure Sweep (α : Type) where
  found : List α
  pending : List α

namespace Sweep

/-- The start of a sweep. The source itself has not been found. -/
def start (source : α) : Sweep α :=
  ⟨[], [source]⟩

/-- Finds a vertex, unless it has been found before. -/
def find (sweep : Sweep α) (vertex : α) : Sweep α :=
  if vertex ∈ sweep.found then sweep
  else ⟨vertex :: sweep.found, vertex :: sweep.pending⟩

end Sweep

/-- Looks at the successors of one pending vertex after the other until none is
pending, for at most so many turns. -/
def sweep (successors : α → List α) : Nat → Sweep α → Sweep α
  | turns + 1, ⟨found, vertex :: rest⟩ =>
      sweep successors turns ((successors vertex).foldl Sweep.find ⟨found, rest⟩)
  | _, last => last

end Spreadsheet.Graph
