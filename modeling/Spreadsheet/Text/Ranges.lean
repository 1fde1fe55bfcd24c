/-!
Sets of characters given by ascending ranges of code points, as the properties
of the Unicode character database are tabulated.

* `inRanges` looks a code point up and stops at the first range that starts
  beyond it;
* `mem_of_inRanges` says that what is found lies in one of the ranges.
-/

namespace Spreadsheet.Text

/-- Whether a code point lies in one of the ranges, both ends included. The
ranges ascend, so the search ends at the first one that starts too high. -/
def inRanges (code : Nat) : List (Nat × Nat) → Bool
  | [] => false
  | (first, last) :: rest =>
      if code < first then false else if code ≤ last then true else inRanges code rest

/-- A code point that is found lies between the ends of a range of the table. -/
theorem mem_of_inRanges {code : Nat} {ranges : List (Nat × Nat)}
    (h : inRanges code ranges = true) : ∃ r ∈ ranges, r.1 ≤ code ∧ code ≤ r.2 := by
  induction ranges with
  | nil => simp [inRanges] at h
  | cons r rest ih =>
      obtain ⟨first, last⟩ := r
      rw [inRanges] at h
      split at h
      · cases h
      · split at h
        · exact ⟨(first, last), List.mem_cons_self, by omega, by assumption⟩
        · obtain ⟨r, hr, hb⟩ := ih h
          exact ⟨r, List.mem_cons_of_mem _ hr, hb⟩

end Spreadsheet.Text
