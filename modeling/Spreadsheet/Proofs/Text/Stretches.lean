import Mathlib.Data.List.Infix
import Mathlib.Tactic
import Spreadsheet.Proofs.Text.Characters
import Spreadsheet.Proofs.Text.Lines
import Spreadsheet.Proofs.Text.Trimming

/-!
Stretches of a text between characters of some kind.

A stretch without the given characters is one that cannot be made longer: what comes before it
and what comes after it, if anything, is one of these characters. Cutting a text first at one
character and then its pieces at others gives the stretches without any of them.

* `stretch_cons_iff`: stretches of a text are stretches of its pieces;
* `infix_splitOn_iff`: a part of a text without a symbol is a part of one of the pieces;
* `Unbroken` texts have no letters and digits with nothing but blanks between them.
-/

namespace Spreadsheet.Text

/-- The part stands in the text without any of the given characters, with one of them, or the end
of the text, on either side. -/
def Stretch (stops text part : List Char) : Prop :=
  ∃ before after, text = before ++ (part ++ after) ∧ (∀ c ∈ part, c ∉ stops) ∧
    (∀ c ∈ before.getLast?, c ∈ stops) ∧ ∀ c ∈ after.head?, c ∈ stops

variable {symbol : Char} {stops text part before after left right : List Char}

/-- What stands in a text without a symbol stands before the symbol or after it. -/
lemma append_cons_eq_iff (hpart : symbol ∉ part) :
    before ++ symbol :: after = left ++ (part ++ right) ↔
      (∃ rest, before = left ++ (part ++ rest) ∧ right = rest ++ symbol :: after) ∨
      ∃ rest, left = before ++ symbol :: rest ∧ after = rest ++ (part ++ right) := by
  constructor
  · intro h
    rcases List.append_eq_append_iff.mp h with ⟨rest, hleft, hrest⟩ | ⟨rest, hbefore, hrest⟩
    · rcases List.cons_eq_append_iff.mp hrest with ⟨rfl, hafter⟩ | ⟨other, rfl, hafter⟩
      · rcases List.append_eq_cons_iff.mp hafter with ⟨rfl, hright⟩ | ⟨other, rfl, -⟩
        · exact Or.inl ⟨[], by simpa using hleft.symm, hright⟩
        · exact absurd List.mem_cons_self hpart
      · exact Or.inr ⟨other, hleft, hafter⟩
    · rcases List.append_eq_append_iff.mp hrest with ⟨other, hother, hright⟩ | ⟨other, hother, hafter⟩
      · exact Or.inl ⟨other, by rw [hbefore, hother], hright⟩
      · rcases List.cons_eq_append_iff.mp hafter with ⟨rfl, hright⟩ | ⟨other, rfl, -⟩
        · exact Or.inl ⟨[], by rw [hbefore, hother, List.append_nil, List.append_nil], hright⟩
        · exact absurd (hother ▸ List.mem_append_right _ List.mem_cons_self) hpart
  · rintro (⟨rest, rfl, rfl⟩ | ⟨rest, rfl, rfl⟩) <;> simp

/-! ### Stretches -/

/-- Where nothing stops, the whole text is one stretch. -/
lemma stretch_nil_iff : Stretch [] text part ↔ part = text := by
  constructor
  · rintro ⟨before, after, rfl, -, hbefore, hafter⟩
    have hbefore' : before = [] := by
      rw [← List.getLast?_eq_none_iff, Option.eq_none_iff_forall_not_mem]
      exact fun c hc => absurd (hbefore c hc) List.not_mem_nil
    have hafter' : after = [] := by
      rw [← List.head?_eq_none_iff, Option.eq_none_iff_forall_not_mem]
      exact fun c hc => absurd (hafter c hc) List.not_mem_nil
    rw [hbefore', hafter', List.nil_append, List.append_nil]
  · rintro rfl
    exact ⟨[], [], by simp, by simp, by simp, by simp⟩

/-- The stretches of a text are those before a character that stops and those after it. -/
lemma stretch_append_cons_iff (hsymbol : symbol ∈ stops) :
    Stretch stops (before ++ symbol :: after) part ↔
      Stretch stops before part ∨ Stretch stops after part := by
  constructor
  · rintro ⟨left, right, heq, hpart, hleft, hright⟩
    -- the part holds nothing that stops, so it does not go across the symbol
    have hmem : symbol ∉ part := fun hmem => hpart symbol hmem hsymbol
    rcases (append_cons_eq_iff hmem).mp heq with ⟨rest, rfl, rfl⟩ | ⟨rest, rfl, rfl⟩
    · refine Or.inl ⟨left, rest, rfl, hpart, hleft, fun c hc => hright c ?_⟩
      rw [List.head?_append, Option.mem_def.mp hc]
      rfl
    · refine Or.inr ⟨rest, right, rfl, hpart, fun c hc => hleft c ?_, hright⟩
      rw [List.getLast?_append_cons, List.getLast?_cons, Option.mem_def.mp hc]
      rfl
  · rintro (⟨left, right, rfl, hpart, hleft, hright⟩ | ⟨left, right, rfl, hpart, hleft, hright⟩)
    · refine ⟨left, right ++ symbol :: after, by simp, hpart, hleft, fun c hc => ?_⟩
      cases right with
      | nil => exact Option.some.inj hc ▸ hsymbol
      | cons first rest => exact hright c hc
    · refine ⟨before ++ symbol :: left, right, by simp, hpart, fun c hc => ?_, hright⟩
      rw [List.getLast?_append_cons] at hc
      cases left with
      | nil => exact Option.some.inj hc ▸ hsymbol
      | cons first rest =>
          rw [List.getLast?_cons_cons] at hc
          exact hleft c hc

/-- A character that does not occur stops nothing. -/
lemma stretch_cons_of_notMem (hsymbol : symbol ∉ text) :
    Stretch (symbol :: stops) text part ↔ Stretch stops text part := by
  have hstop : ∀ c ∈ text, (c ∈ symbol :: stops ↔ c ∈ stops) := by
    intro c hc
    rw [List.mem_cons, or_iff_right]
    rintro rfl
    exact hsymbol hc
  refine exists_congr fun before => exists_congr fun after => and_congr_right fun heq => ?_
  subst heq
  refine and_congr ?_ (and_congr ?_ ?_)
  · exact forall₂_congr fun c hc => not_congr (hstop c (by simp [hc]))
  · exact forall₂_congr fun c hc => hstop c (by simp [List.mem_of_getLast? hc])
  · exact forall₂_congr fun c hc => hstop c (by simp [List.mem_of_mem_head? hc])

/-- **Stretches of pieces.** Cutting at a character first makes no difference to the stretches
without it. -/
theorem stretch_cons_iff : Stretch (symbol :: stops) text part ↔
    ∃ piece ∈ text.splitOn symbol, Stretch stops piece part := by
  induction text using cut_ind symbol with
  | whole text hmem =>
      rw [List.splitOn_eq_singleton hmem, stretch_cons_of_notMem hmem]
      simp
  | cut before after hbefore ih =>
      rw [List.splitOn_append_cons_self_of_not_mem hbefore, List.exists_mem_cons_iff,
        stretch_append_cons_iff List.mem_cons_self, ih, stretch_cons_of_notMem hbefore]

/-! ### Parts of pieces -/

/-- Every other character of a text is in one of its pieces. -/
lemma exists_mem_splitOn {c : Char} (hc : c ∈ text) (hne : c ≠ symbol) :
    ∃ piece ∈ text.splitOn symbol, c ∈ piece := by
  have hjoin : [symbol].intercalate (text.splitOn symbol) = text := List.intercalate_splitOn symbol
  rw [← hjoin] at hc
  exact (mem_intercalate hc).resolve_left fun hmem => hne (List.mem_singleton.mp hmem)

/-- A part of a text without the symbol is a part of one of the pieces. -/
lemma infix_splitOn_iff (hpart : symbol ∉ part) :
    part <:+: text ↔ ∃ piece ∈ text.splitOn symbol, part <:+: piece := by
  induction text using cut_ind symbol with
  | whole text hmem =>
      rw [List.splitOn_eq_singleton hmem]
      simp
  | cut before after hbefore ih =>
      rw [List.splitOn_append_cons_self_of_not_mem hbefore, List.exists_mem_cons_iff, ← ih]
      constructor
      · rintro ⟨left, right, heq⟩
        rw [List.append_assoc] at heq
        rcases (append_cons_eq_iff hpart).mp heq.symm with ⟨rest, rfl, -⟩ | ⟨rest, -, rfl⟩
        · exact Or.inl ⟨left, rest, List.append_assoc ..⟩
        · exact Or.inr ⟨rest, right, List.append_assoc ..⟩
      · rintro (hin | hin)
        · exact hin.trans (List.prefix_append before _).isInfix
        · exact hin.trans ((List.suffix_cons symbol after).trans
            (List.suffix_append before _)).isInfix

/-! ### Unbroken texts -/

/-- No two letters or digits have blanks, and nothing but blanks, between them. -/
def Unbroken (text : List Char) : Prop :=
  ∀ first between last, first :: (between ++ [last]) <:+: text → isAlphanumeric first = true →
    isAlphanumeric last = true → between ≠ [] → ¬ Blanks between

/-- A text is unbroken if its pieces are, since blanks are no place to cut at. -/
lemma unbroken_iff_splitOn (hblank : isBlank symbol = false)
    (halphanumeric : isAlphanumeric symbol = false) :
    Unbroken text ↔ ∀ piece ∈ text.splitOn symbol, Unbroken piece := by
  constructor
  · intro h piece hpiece first between last hin hfirst hlast hne
    have hsymbol : symbol ∉ first :: (between ++ [last]) := fun hmem =>
      (mem_splitOn hpiece).1 (hin.subset hmem)
    exact h first between last ((infix_splitOn_iff hsymbol).mpr ⟨piece, hpiece, hin⟩) hfirst
      hlast hne
  · intro h first between last hin hfirst hlast hne hblanks
    have hsymbol : symbol ∉ first :: (between ++ [last]) := by
      have hother : ∀ c, isAlphanumeric c = true → symbol ≠ c := by
        rintro c hc rfl
        rw [halphanumeric] at hc
        cases hc
      simp [hother first hfirst, hother last hlast, hblanks.notMem hblank]
    obtain ⟨piece, hpiece, hin⟩ := (infix_splitOn_iff hsymbol).mp hin
    exact h piece hpiece first between last hin hfirst hlast hne hblanks

/-- A text is unbroken if nothing in it is blank but its ends. -/
lemma unbroken_of_trim (h : ∀ c ∈ trim text, isBlank c = false) : Unbroken text := by
  rintro first between last ⟨left, right, rfl⟩ hfirst hlast hne hblanks
  obtain ⟨c, hc⟩ := List.exists_mem_of_ne_nil _ hne
  obtain ⟨before, after, rfl⟩ := List.append_of_mem hc
  have hkeep : c ∈ trim ((left ++ first :: before) ++ c :: (after ++ last :: right)) := by
    refine mem_trim_of_between (fun h => ?_) fun h => ?_
    · exact h.notMem (isBlank_of_isAlphanumeric hfirst) (by simp)
    · exact h.notMem (isBlank_of_isAlphanumeric hlast) (by simp)
  have hblank := h c (by simpa using hkeep)
  rw [hblanks c hc] at hblank
  cases hblank

/-- What is left after trimming is a single word exactly if there is nothing but blanks and
unbroken letters and digits. -/
theorem alphanumeric_trim_iff : (∀ c ∈ trim text, isAlphanumeric c = true) ↔
    (∀ c ∈ text, isBlank c = true ∨ isAlphanumeric c = true) ∧ Unbroken text := by
  constructor
  · intro h
    refine ⟨fun c hc => ?_, unbroken_of_trim fun c hc => isBlank_of_isAlphanumeric (h c hc)⟩
    by_cases hblank : isBlank c = true
    · exact Or.inl hblank
    · exact Or.inr (h c ((mem_trim_iff (by simpa using hblank)).mpr hc))
  · rintro ⟨hchars, hunbroken⟩ c hc
    refine (hchars c (mem_of_mem_trim hc)).resolve_left fun hblank => ?_
    -- a blank inside would stand between two letters or digits, the nearest ones on its sides
    obtain ⟨left, right, heq, hleft, hright⟩ := exists_between_of_mem_trim hc hblank
    obtain ⟨before, first, gap, rfl, hfirst, hgap⟩ := exists_last hleft
    obtain ⟨gap', last, after, rfl, hgap', hlast⟩ := exists_first hright
    have hword : ∀ d ∈ trim text, isBlank d = false → isAlphanumeric d = true := fun d hd hd' =>
      (hchars d (mem_of_mem_trim hd)).resolve_left (by simp [hd'])
    have hin : first :: ((gap ++ c :: gap') ++ [last]) <:+: text := by
      obtain ⟨start, rest, htext, -, -⟩ := exists_trim text
      exact ⟨start ++ before, after ++ rest, by rw [htext, heq]; simp⟩
    refine hunbroken first (gap ++ c :: gap') last hin (hword first (by simp [heq]) hfirst)
      (hword last (by simp [heq]) hlast) (by simp) fun d hd => ?_
    rcases List.mem_append.mp hd with hd | hd
    · exact hgap d hd
    · rcases List.mem_cons.mp hd with rfl | hd
      · exact hblank
      · exact hgap' d hd

end Spreadsheet.Text
