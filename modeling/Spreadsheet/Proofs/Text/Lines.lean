import Mathlib.Data.List.TakeWhile
import Mathlib.Tactic
import Spreadsheet.Proofs.Names
import Spreadsheet.Text.Lines

/-!
Lines, fields and numbers are read back.

* `lines_intercalate`: texts without line ends that are written as lines are the lines of
  what is written;
* `mem_intercalate`: the characters of texts that are set with a separator between them;
* `cutAt_append`: a text is cut at the first separator in it;
* `readUnsigned_naturalText`: a natural number of 64 bits is read back from its digits.
-/

namespace Spreadsheet.Text

variable {separator c : Char} {text before after : List Char} {texts : List (List Char)}

/-! ### Texts with a separator between them -/

/-- The characters are those of the texts and of the separator. -/
lemma mem_intercalate {between : List Char} (h : c ∈ between.intercalate texts) :
    c ∈ between ∨ ∃ text ∈ texts, c ∈ text := by
  induction texts with
  | nil => exact absurd h List.not_mem_nil
  | cons text rest ih =>
      cases rest with
      | nil => exact Or.inr ⟨text, List.mem_cons_self, by simpa using h⟩
      | cons next others =>
          rw [List.intercalate_cons_cons, List.mem_append, List.mem_append] at h
          rcases h with (h | h) | h
          · exact Or.inr ⟨text, List.mem_cons_self, h⟩
          · exact Or.inl h
          · refine (ih h).imp_right ?_
            rintro ⟨other, hother, hc⟩
            exact ⟨other, List.mem_cons_of_mem _ hother, hc⟩

/-- After the first text, each text has the separator before it. -/
lemma intercalate_cons (between text : List Char) : between.intercalate (text :: texts) =
    text ++ (texts.map fun next => between ++ next).flatten := by
  induction texts generalizing text with
  | nil => simp
  | cons next rest ih => simp [List.intercalate_cons_cons, ih]

/-- Once there is a separator at the end, each text has one after it. -/
lemma flatMap_append_eq (hne : texts ≠ []) (between : List Char) :
    (texts.flatMap fun text => text ++ between) = between.intercalate texts ++ between := by
  induction texts with
  | nil => exact absurd rfl hne
  | cons text rest ih =>
      cases rest with
      | nil => simp
      | cons next others =>
          rw [List.flatMap_cons, ih (List.cons_ne_nil _ _), List.intercalate_cons_cons]
          simp only [List.append_assoc]

/-- A separator at the end is one before an empty text. -/
lemma intercalate_append_nil (hne : texts ≠ []) (separator : List Char) :
    separator.intercalate (texts ++ [[]]) = separator.intercalate texts ++ separator := by
  induction texts with
  | nil => exact absurd rfl hne
  | cons text rest ih =>
      cases rest with
      | nil => simp [List.intercalate_cons_cons]
      | cons next others =>
          have hrest := ih (List.cons_ne_nil _ _)
          simp only [List.cons_append] at hrest ⊢
          simp only [List.intercalate_cons_cons, hrest, List.append_assoc]

/-! ### Lines -/

/-- A line that does not end with a carriage return stays as it is. -/
lemma dropReturn_eq_self (h : '\r' ∉ text.getLast?) : dropReturn text = text :=
  if_neg h

/-- **Lines are read back**: texts without line ends, of which none ends with a carriage return,
are the lines of what is written for them. -/
theorem lines_intercalate (hne : texts ≠ [])
    (h : ∀ text ∈ texts, '\n' ∉ text ∧ '\r' ∉ text.getLast?) :
    lines (['\n'].intercalate texts ++ ['\n']) = texts := by
  have hparts : (['\n'].intercalate texts ++ ['\n']).splitOn '\n' = texts ++ [[]] := by
    rw [← intercalate_append_nil hne, List.splitOn_intercalate _ _ (by simp)]
    intro text htext
    rcases List.mem_append.mp htext with htext | htext
    · exact (h text htext).1
    · rw [List.mem_singleton.mp htext]
      exact List.not_mem_nil
  have hreturn : texts.map dropReturn = texts :=
    calc texts.map dropReturn = texts.map id :=
          List.map_congr_left fun text htext => dropReturn_eq_self (h text htext).2
      _ = texts := List.map_id texts
  rw [lines, hparts, List.dropLast_concat, List.getLast?_concat]
  exact hreturn

/-! ### Fields and numbers -/

/-- A text is cut at the first separator. -/
lemma cutAt_append (h : separator ∉ before) :
    cutAt separator (before ++ separator :: after) = some (before, after) := by
  have hbefore : ∀ c ∈ before, (c != separator) = true := fun c hc => by
    rw [bne_iff_ne]
    rintro rfl
    exact h hc
  rw [cutAt, List.dropWhile_append_of_pos hbefore, List.dropWhile_cons_of_neg (by simp),
    List.takeWhile_append_of_pos hbefore, List.takeWhile_cons_of_neg (by simp), List.append_nil]

/-- A natural number of 64 bits is read back from its digits. -/
theorem readUnsigned_naturalText {n : Nat} (h : n < wordLimit) :
    readUnsigned (naturalText n) = .ok n := by
  have hdigits : ∀ c ∈ naturalText n, c.isDigit = true := fun c hc => isDigit_of_mem_naturalText hc
  have hread : readDigits (naturalText n) = .ok n := by
    rw [readDigits, List.takeWhile_eq_self_iff.mpr hdigits, valueBelow?_eq (by decide),
      digitsValue_naturalText, if_pos h]
    exact if_pos (List.all_eq_true.mpr hdigits)
  have hplus : '+' ∉ naturalText n := fun hmem => absurd (hdigits '+' hmem) (by decide)
  rw [readUnsigned.eq_def]
  split
  · next hnil => exact absurd hnil Nat.toDigits_ne_nil
  · next hsign => exact absurd (hsign ▸ List.mem_cons_self) hplus
  · next hsign => exact absurd (hsign ▸ List.mem_cons_self) hplus
  · exact hread

end Spreadsheet.Text
