import Mathlib.Tactic
import Spreadsheet.Location

/-!
Tables that are filled entry by entry.

If the entries have different keys, then a table holds each of them at its key, and
what it held before at all other keys. The same goes for a list of entries in which
keys are looked up. With or without different keys, what holds of all values in a table
and of all entries goes on to hold.
-/

namespace Spreadsheet

section Entries

variable {κ α β : Type} {cmp : κ → κ → Ordering} [Std.TransCmp cmp] [Std.LawfulEqCmp cmp]
  (key : β → κ) (value : β → α) {entries : List β}

omit [Std.LawfulEqCmp cmp] in
lemma mem_of_getElem?_eq_some {table : Std.TreeMap κ α cmp} {k : κ} {v : α}
    (h : table[k]? = some v) : k ∈ table := by
  rw [Std.TreeMap.mem_iff_isSome_getElem?, h]
  rfl

/-- Entries do not touch what is held at other keys. -/
lemma getElem?_foldl_insert_of_notMem (table : Std.TreeMap κ α cmp) {k : κ}
    (hk : k ∉ entries.map key) :
    (entries.foldl (fun table entry => table.insert (key entry) (value entry)) table)[k]?
      = table[k]? := by
  induction entries generalizing table with
  | nil => rfl
  | cons entry rest ih =>
      rw [List.map_cons, List.mem_cons, not_or] at hk
      rw [List.foldl_cons, ih _ hk.2, Std.TreeMap.getElem?_insert,
        if_neg (by simpa using Ne.symm hk.1)]

/-- Each entry is held at its key, if no two entries have the same key. -/
lemma getElem?_foldl_insert_of_mem (table : Std.TreeMap κ α cmp)
    (hnodup : (entries.map key).Nodup) {entry : β} (hentry : entry ∈ entries) :
    (entries.foldl (fun table entry => table.insert (key entry) (value entry)) table)[key entry]?
      = some (value entry) := by
  induction entries generalizing table with
  | nil => simp at hentry
  | cons first rest ih =>
      rw [List.map_cons, List.nodup_cons] at hnodup
      rw [List.foldl_cons]
      rcases List.mem_cons.mp hentry with rfl | hentry
      · rw [getElem?_foldl_insert_of_notMem key value _ hnodup.1, Std.TreeMap.getElem?_insert_self]
      · exact ih _ hnodup.2 hentry

/-- The keys of a table are its former ones and those of the entries. -/
lemma mem_foldl_insert (table : Std.TreeMap κ α cmp) {k : κ} :
    k ∈ entries.foldl (fun table entry => table.insert (key entry) (value entry)) table ↔
      k ∈ entries.map key ∨ k ∈ table := by
  induction entries generalizing table with
  | nil => simp
  | cons entry rest ih =>
      rw [List.foldl_cons, ih, Std.TreeMap.mem_insert, List.map_cons, List.mem_cons,
        Std.LawfulEqCmp.compare_eq_iff_eq, eq_comm (a := key entry), or_assoc, or_left_comm]

omit [Std.LawfulEqCmp cmp] in
/-- What holds of the values of a table holds after one more entry of which it holds. -/
lemma forall_insert {P : α → Prop} {table : Std.TreeMap κ α cmp} {k : κ} {v : α}
    (htable : ∀ (k : κ) v, table[k]? = some v → P v) (hv : P v) :
    ∀ (k' : κ) v', (table.insert k v)[k']? = some v' → P v' := by
  intro k' v' h
  rw [Std.TreeMap.getElem?_insert] at h
  split_ifs at h
  · exact Option.some.inj h ▸ hv
  · exact htable k' v' h

omit [Std.LawfulEqCmp cmp] in
/-- What holds of the values of a table and of all entries holds once they are in it. -/
lemma forall_foldl_insert {P : α → Prop} {table : Std.TreeMap κ α cmp}
    (htable : ∀ (k : κ) v, table[k]? = some v → P v)
    (hentries : ∀ entry ∈ entries, P (value entry)) :
    ∀ (k : κ) v,
      (entries.foldl (fun table entry => table.insert (key entry) (value entry)) table)[k]?
        = some v → P v := by
  induction entries generalizing table with
  | nil => exact htable
  | cons first rest ih =>
      rw [List.forall_mem_cons] at hentries
      rw [List.foldl_cons]
      exact ih (forall_insert htable hentries.1) hentries.2

end Entries

/-- With different keys, each entry is the one that is found. -/
lemma lookup_eq_some_of_mem {κ α : Type} [DecidableEq κ] {entries : List (κ × α)}
    (hnodup : (entries.map Prod.fst).Nodup) {entry : κ × α} (hentry : entry ∈ entries) :
    entries.lookup entry.1 = some entry.2 := by
  induction entries with
  | nil => exact absurd hentry List.not_mem_nil
  | cons first rest ih =>
      rw [List.map_cons, List.nodup_cons] at hnodup
      rw [List.lookup_cons]
      rcases List.mem_cons.mp hentry with rfl | hentry
      · simp
      · have hne : entry.1 ≠ first.1 := fun heq => hnodup.1 (heq ▸ List.mem_map_of_mem hentry)
        rw [beq_eq_false_iff_ne.mpr hne]
        exact ih hnodup.2 hentry

namespace CellMap

variable {α : Type} {map : CellMap α} {cell : Location}

/-- The cells of a map after filling. -/
lemma mem_fill {cells : List Location} {value : α} :
    cell ∈ map.fill cells value ↔ cell ∈ cells ∨ cell ∈ map := by
  rw [Std.TreeMap.mem_iff_isSome_getElem?, getElem?_fill, Std.TreeMap.mem_iff_isSome_getElem?]
  by_cases hcell : cell ∈ cells <;> simp [hcell]

/-- The cells of a map after storing. -/
lemma mem_store {entries : List (Location × α)} :
    cell ∈ map.store entries ↔ cell ∈ entries.map Prod.fst ∨ cell ∈ map :=
  mem_foldl_insert Prod.fst Prod.snd map

/-- Storing does not touch other cells. -/
lemma getElem?_store_of_notMem {entries : List (Location × α)}
    (hcell : cell ∉ entries.map Prod.fst) : (map.store entries)[cell]? = map[cell]? :=
  getElem?_foldl_insert_of_notMem Prod.fst Prod.snd map hcell

/-- A value that is stored for a cell is found there, if no other is. -/
lemma getElem?_store_of_mem {entries : List (Location × α)} (hnodup : (entries.map Prod.fst).Nodup)
    {entry : Location × α} (hentry : entry ∈ entries) :
    (map.store entries)[entry.1]? = some entry.2 :=
  getElem?_foldl_insert_of_mem Prod.fst Prod.snd map hnodup hentry

end CellMap

end Spreadsheet
