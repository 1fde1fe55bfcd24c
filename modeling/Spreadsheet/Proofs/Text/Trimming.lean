import Mathlib.Data.List.TakeWhile
import Mathlib.Tactic
import Spreadsheet.Text.Blank

/-!
Cutting a text at a symbol, when blanks at the ends of pieces do not matter.

* `exists_trim`: trimming takes away blanks at the two ends, and `trim_append_left` and
  `trim_append_right` that it takes away all of them;
* `mem_trim_of_between` and `exists_between_of_mem_trim`: the blanks that stay are those between
  other characters;
* `cut_ind`: induction over a text from one symbol to the next;
* `map_trim_splitOn_trim`: the trimmed pieces of a text are those of the trimmed text;
* `map_trim_splitOn_intercalate`: texts that are set with a symbol, between blanks, between
  them are recovered by cutting at the symbol, up to trimming;
* `getLast_splitOn_trim`: in a trimmed text the last piece is empty as soon as it holds
  nothing but blanks.
-/

namespace Spreadsheet.Text

/-- The text has no character that is not blank. -/
def Blanks (text : List Char) : Prop :=
  ∀ c ∈ text, isBlank c = true

variable {text left right : List Char} {symbol : Char}

/-! ### Trimming -/

lemma trim_nil : trim [] = [] := rfl

lemma trimStart_eq_nil_iff : trimStart text = [] ↔ Blanks text :=
  List.dropWhile_eq_nil_iff

lemma trimEnd_append (h : Blanks right) : trimEnd (text ++ right) = trimEnd text := by
  have hright : ∀ c ∈ right.reverse, isBlank c = true := fun c hc => h c (List.mem_reverse.mp hc)
  rw [trimEnd, List.reverse_append, List.dropWhile_append_of_pos hright, trimEnd]

/-- Blanks to the left go. -/
lemma trim_append_left (h : Blanks left) : trim (left ++ text) = trim text := by
  rw [trim, trimStart, List.dropWhile_append_of_pos h]
  rfl

/-- Where something else than blanks comes first, what follows it stays. -/
lemma trimStart_append (h : ¬ Blanks text) :
    trimStart (text ++ right) = trimStart text ++ right := by
  have hne : (List.dropWhile isBlank text).isEmpty = false := by
    rw [List.isEmpty_eq_false_iff]
    exact fun hnil => h (trimStart_eq_nil_iff.mp hnil)
  rw [trimStart, List.dropWhile_append, hne]
  rfl

/-- Blanks to the right go. -/
lemma trim_append_right (h : Blanks right) : trim (text ++ right) = trim text := by
  rw [trim, trim]
  by_cases htext : Blanks text
  · have hboth : Blanks (text ++ right) := fun c hc =>
      (List.mem_append.mp hc).elim (htext c) (h c)
    rw [trimStart_eq_nil_iff.mpr hboth, trimStart_eq_nil_iff.mpr htext]
  · rw [trimStart_append htext, trimEnd_append h]

/-- Only blanks at the right end go. -/
lemma exists_trimEnd (text : List Char) : ∃ right, text = trimEnd text ++ right ∧ Blanks right := by
  refine ⟨(text.reverse.takeWhile isBlank).reverse, ?_,
    fun c hc => List.mem_takeWhile_imp (List.mem_reverse.mp hc)⟩
  rw [trimEnd, ← List.reverse_append, List.takeWhile_append_dropWhile, List.reverse_reverse]

/-- Only blanks at the ends go. -/
lemma exists_trim (text : List Char) :
    ∃ left right, text = left ++ trim text ++ right ∧ Blanks left ∧ Blanks right := by
  obtain ⟨right, heq, hright⟩ := exists_trimEnd (trimStart text)
  refine ⟨text.takeWhile isBlank, right, ?_, fun c hc => List.mem_takeWhile_imp hc, hright⟩
  rw [List.append_assoc, trim, ← heq, trimStart, List.takeWhile_append_dropWhile]

lemma trim_trim (text : List Char) : trim (trim text) = trim text := by
  obtain ⟨left, right, heq, hleft, hright⟩ := exists_trim text
  conv_rhs => rw [heq]
  rw [trim_append_right hright, trim_append_left hleft]

lemma mem_of_mem_trim {c : Char} (h : c ∈ trim text) : c ∈ text := by
  obtain ⟨left, right, heq, -, -⟩ := exists_trim text
  rw [heq]
  simp [h]

/-- Characters that are not blank stay. -/
lemma mem_trim_iff {c : Char} (hc : isBlank c = false) : c ∈ trim text ↔ c ∈ text := by
  refine ⟨mem_of_mem_trim, fun hmem => ?_⟩
  obtain ⟨left, right, heq, hleft, hright⟩ := exists_trim text
  rw [heq, List.mem_append, List.mem_append] at hmem
  have hno : ∀ {blanks}, Blanks blanks → c ∉ blanks := fun hblanks hmem => by
    rw [hblanks c hmem] at hc
    cases hc
  exact (hmem.resolve_right (hno hright)).resolve_left (hno hleft)

/-- What stands between characters that are not blank stays. -/
lemma mem_trim_of_between {c : Char} (hleft : ¬ Blanks left) (hright : ¬ Blanks right) :
    c ∈ trim (left ++ c :: right) := by
  have hreverse : ¬ Blanks right.reverse := fun h =>
    hright fun c hc => h c (List.mem_reverse.mpr hc)
  have hend : trimEnd (trimStart left ++ c :: right) = trimStart left ++ c :: trimEnd right := by
    rw [trimEnd, List.reverse_append, List.reverse_cons, List.append_assoc]
    change (trimStart (right.reverse ++ _)).reverse = _
    rw [trimStart_append hreverse]
    simp [trimEnd, trimStart]
  rw [trim, trimStart_append hleft, hend]
  simp

/-- Nothing is left exactly of blanks. -/
lemma trim_eq_nil_iff : trim text = [] ↔ Blanks text := by
  constructor
  · intro h
    obtain ⟨left, right, heq, hleft, hright⟩ := exists_trim text
    rw [h, List.append_nil] at heq
    rw [heq]
    exact fun c hc => (List.mem_append.mp hc).elim (hleft c) (hright c)
  · intro h
    rw [← List.append_nil text, trim_append_left h, trim_nil]

/-- A text that is not blank has a first character that is not. -/
lemma exists_first (h : ¬ Blanks text) :
    ∃ left c right, text = left ++ c :: right ∧ Blanks left ∧ isBlank c = false := by
  cases hdrop : text.dropWhile isBlank with
  | nil => exact absurd (trimStart_eq_nil_iff.mp hdrop) h
  | cons c right =>
      refine ⟨text.takeWhile isBlank, c, right, ?_, fun c hc => List.mem_takeWhile_imp hc, ?_⟩
      · rw [← hdrop, List.takeWhile_append_dropWhile]
      · have hnot := List.head?_dropWhile_not isBlank text
        rw [hdrop] at hnot
        simpa using hnot

/-- A text that is not blank has a last character that is not. -/
lemma exists_last (h : ¬ Blanks text) :
    ∃ left c right, text = left ++ c :: right ∧ isBlank c = false ∧ Blanks right := by
  have hreverse : ¬ Blanks text.reverse := fun h' => h fun c hc => h' c (List.mem_reverse.mpr hc)
  obtain ⟨left, c, right, heq, hleft, hc⟩ := exists_first hreverse
  refine ⟨right.reverse, c, left.reverse, ?_, hc, fun c hc => hleft c (List.mem_reverse.mp hc)⟩
  rw [← List.reverse_reverse text, heq]
  simp

/-- A blank that stays has something else than blanks on either side. -/
lemma exists_between_of_mem_trim {c : Char} (hc : c ∈ trim text) (hblank : isBlank c = true) :
    ∃ left right, trim text = left ++ c :: right ∧ ¬ Blanks left ∧ ¬ Blanks right := by
  have hlength : ∀ part : List Char, (trim part).length ≤ part.length := fun part => by
    obtain ⟨left, right, heq, -, -⟩ := exists_trim part
    have hparts := congrArg List.length heq
    simp only [List.length_append] at hparts
    omega
  obtain ⟨left, right, heq⟩ := List.append_of_mem hc
  have htrim := trim_trim text
  rw [heq] at htrim
  -- on a side with blanks alone, trimming once more would take the blank away
  refine ⟨left, right, heq, fun hleft => ?_, fun hright => ?_⟩
  · have hall : Blanks (left ++ [c]) := by
      intro d hd
      rcases List.mem_append.mp hd with hd | hd
      · exact hleft d hd
      · rwa [List.mem_singleton.mp hd]
    rw [List.append_cons, trim_append_left hall] at htrim
    have hle := hlength right
    rw [htrim, List.length_append, List.length_append, List.length_singleton] at hle
    omega
  · have hall : Blanks (c :: right) := by
      intro d hd
      rcases List.mem_cons.mp hd with rfl | hd
      · exact hblank
      · exact hright d hd
    rw [trim_append_right hall] at htrim
    have hle := hlength left
    rw [htrim, List.length_append, List.length_cons] at hle
    omega

/-- The text neither starts nor ends with a blank. -/
structure Trimmed (text : List Char) : Prop where
  head : ∀ c ∈ text.head?, isBlank c = false
  last : ∀ c ∈ text.getLast?, isBlank c = false

/-- Where there are no blanks at the ends, none are taken away. -/
lemma Trimmed.trim_eq (h : Trimmed text) : trim text = text := by
  have hstart : trimStart text = text := by
    cases text with
    | nil => rfl
    | cons c rest =>
        have hc := h.head c rfl
        rw [trimStart, List.dropWhile_cons_of_neg (by simp [hc])]
  rw [trim, hstart, trimEnd]
  cases hreverse : text.reverse with
  | nil => rw [List.reverse_eq_nil_iff.mp hreverse]; rfl
  | cons c rest =>
      have hc : isBlank c = false := h.last c (by
        rw [← List.head?_reverse, hreverse]
        rfl)
      rw [List.dropWhile_cons_of_neg (by simp [hc]), ← hreverse, List.reverse_reverse]

lemma trimmed_of_forall (h : ∀ c ∈ text, isBlank c = false) : Trimmed text :=
  ⟨fun c hc => h c (List.mem_of_mem_head? hc), fun c hc => h c (List.mem_of_mem_getLast? hc)⟩

/-- Blanks between two texts are not at an end. -/
lemma Trimmed.append (hleft : Trimmed left) (hright : Trimmed right) (hleft' : left ≠ [])
    (hright' : right ≠ []) (between : List Char) : Trimmed (left ++ (between ++ right)) := by
  have hboth : between ++ right ≠ [] := List.append_ne_nil_of_right_ne_nil _ hright'
  constructor
  · rw [List.head?_append_of_ne_nil _ hleft']
    exact hleft.head
  · rw [List.getLast?_append_of_ne_nil _ hboth, List.getLast?_append_of_ne_nil _ hright']
    exact hright.last

/-- A text without the blanks at its right end does not end with a blank. -/
lemma isBlank_getLast?_trimEnd {c : Char} (h : c ∈ (trimEnd text).getLast?) :
    isBlank c = false := by
  rw [trimEnd, List.getLast?_reverse] at h
  have hnot := List.head?_dropWhile_not isBlank text.reverse
  rw [Option.mem_def.mp h] at hnot
  simpa using hnot

/-! ### Pieces -/

/-- A property of texts holds of all of them if it holds of those without a symbol, and of a
text with the symbol once it holds of what follows the first one. -/
@[elab_as_elim]
theorem cut_ind {P : List Char → Prop} (symbol : Char) (whole : ∀ text, symbol ∉ text → P text)
    (cut : ∀ before after, symbol ∉ before → P after → P (before ++ symbol :: after))
    (text : List Char) : P text := by
  induction hlength : text.length using Nat.strong_induction_on generalizing text with
  | _ n ih =>
      by_cases hmem : symbol ∈ text
      · obtain ⟨before, after, rfl, hbefore⟩ := List.eq_append_cons_of_mem hmem
        refine cut before after hbefore (ih after.length ?_ after rfl)
        simp only [List.length_append, List.length_cons] at hlength
        omega
      · exact whole text hmem

/-- No piece has the symbol, and what is in a piece is in the text. -/
lemma mem_splitOn {piece : List Char} (h : piece ∈ text.splitOn symbol) :
    symbol ∉ piece ∧ ∀ c ∈ piece, c ∈ text := by
  induction text using cut_ind symbol with
  | whole text hmem =>
      rw [List.splitOn_eq_singleton hmem, List.mem_singleton] at h
      subst h
      exact ⟨hmem, fun c hc => hc⟩
  | cut before after hbefore ih =>
      rw [List.splitOn_append_cons_self_of_not_mem hbefore] at h
      rcases List.mem_cons.mp h with rfl | h
      · exact ⟨hbefore, fun c hc => List.mem_append_left _ hc⟩
      · obtain ⟨hpiece, hall⟩ := ih h
        exact ⟨hpiece, fun c hc => by simp [hall c hc]⟩

lemma Blanks.notMem (h : Blanks text) (hsymbol : isBlank symbol = false) : symbol ∉ text := by
  intro hmem
  rw [h symbol hmem] at hsymbol
  cases hsymbol

lemma map_trim_splitOn_append_left (hleft : Blanks left) (hsymbol : isBlank symbol = false) :
    ((left ++ text).splitOn symbol).map trim = (text.splitOn symbol).map trim := by
  have hno := hleft.notMem hsymbol
  cases text using cut_ind symbol with
  | whole text hmem =>
      have hno' : symbol ∉ left ++ text := by simp [hno, hmem]
      rw [List.splitOn_eq_singleton hmem, List.splitOn_eq_singleton hno', List.map_singleton,
        List.map_singleton, trim_append_left hleft]
  | cut before after hbefore =>
      have hno' : symbol ∉ left ++ before := by simp [hno, hbefore]
      rw [← List.append_assoc, List.splitOn_append_cons_self_of_not_mem hno',
        List.splitOn_append_cons_self_of_not_mem hbefore, List.map_cons, List.map_cons,
        trim_append_left hleft]

lemma map_trim_splitOn_append_right (hright : Blanks right) (hsymbol : isBlank symbol = false) :
    ((text ++ right).splitOn symbol).map trim = (text.splitOn symbol).map trim := by
  have hno := hright.notMem hsymbol
  induction text using cut_ind symbol with
  | whole text hmem =>
      have hno' : symbol ∉ text ++ right := by simp [hno, hmem]
      rw [List.splitOn_eq_singleton hmem, List.splitOn_eq_singleton hno', List.map_singleton,
        List.map_singleton, trim_append_right hright]
  | cut before after hbefore ih =>
      rw [List.append_assoc, List.cons_append, List.splitOn_append_cons_self_of_not_mem hbefore,
        List.splitOn_append_cons_self_of_not_mem hbefore, List.map_cons, List.map_cons, ih]

/-- Trimming a text first makes no difference to its trimmed pieces. -/
theorem map_trim_splitOn_trim (hsymbol : isBlank symbol = false) (text : List Char) :
    ((trim text).splitOn symbol).map trim = (text.splitOn symbol).map trim := by
  obtain ⟨left, right, heq, hleft, hright⟩ := exists_trim text
  conv_rhs => rw [heq]
  rw [map_trim_splitOn_append_right hright hsymbol, map_trim_splitOn_append_left hleft hsymbol]

/-- Texts without the symbol are recovered, up to trimming, after they have been set with
the symbol, between blanks, between them. -/
theorem map_trim_splitOn_intercalate (hsymbol : isBlank symbol = false) {texts : List (List Char)}
    (hne : texts ≠ []) (htexts : ∀ text ∈ texts, symbol ∉ text) :
    (([' ', symbol, ' '].intercalate texts).splitOn symbol).map trim = texts.map trim := by
  have hblank : Blanks [' '] := by
    simp only [Blanks, List.mem_singleton, forall_eq]
    decide
  induction texts with
  | nil => exact absurd rfl hne
  | cons first rest ih =>
      have hfirst := htexts first List.mem_cons_self
      cases rest with
      | nil => rw [List.intercalate_singleton, List.splitOn_eq_singleton hfirst]
      | cons next others =>
          have hno : symbol ∉ first ++ [' '] := by
            rw [List.mem_append, not_or]
            exact ⟨hfirst, hblank.notMem hsymbol⟩
          have hshape : [' ', symbol, ' '].intercalate (first :: next :: others) =
              (first ++ [' ']) ++ symbol ::
                ([' '] ++ [' ', symbol, ' '].intercalate (next :: others)) := by
            simp [List.intercalate_cons_cons]
          rw [hshape, List.splitOn_append_cons_self_of_not_mem hno, List.map_cons,
            trim_append_right hblank, map_trim_splitOn_append_left hblank hsymbol,
            ih (List.cons_ne_nil _ _) fun text htext => htexts text (List.mem_cons_of_mem _ htext)]
          rfl

/-- The last piece is what the text ends with. -/
lemma getLast_splitOn_suffix (text : List Char) (symbol : Char) :
    (text.splitOn symbol).getLast (List.splitOn_ne_nil symbol text) <:+ text := by
  induction text using cut_ind symbol with
  | whole text hmem =>
      simp only [List.splitOn_eq_singleton hmem, List.getLast_singleton]
      exact List.suffix_rfl
  | cut before after hbefore ih =>
      simp only [List.splitOn_append_cons_self_of_not_mem hbefore,
        List.getLast_cons (List.splitOn_ne_nil symbol after)]
      exact ih.trans ⟨before ++ [symbol], by simp⟩

/-- The last piece of a trimmed text is empty as soon as it holds nothing but blanks. -/
theorem getLast_splitOn_trim {last : List Char}
    (hlast : last ∈ ((trim text).splitOn symbol).getLast?) (hblank : Blanks last) :
    last = [] := by
  rw [List.getLast?_eq_getLast_of_ne_nil (List.splitOn_ne_nil symbol _), Option.mem_some_iff]
    at hlast
  obtain ⟨before, hsuffix⟩ := getLast_splitOn_suffix (trim text) symbol
  rw [hlast] at hsuffix
  by_contra hne
  obtain ⟨c, hc⟩ : ∃ c, c ∈ last.getLast? := by
    rw [List.getLast?_eq_getLast_of_ne_nil hne]
    exact ⟨_, rfl⟩
  have hend : c ∈ (trim text).getLast? := by
    rw [← hsuffix, List.getLast?_append, Option.mem_def.mp hc]
    rfl
  have hnot := isBlank_getLast?_trimEnd hend
  rw [hblank c (List.mem_of_mem_getLast? hc)] at hnot
  cases hnot

end Spreadsheet.Text
