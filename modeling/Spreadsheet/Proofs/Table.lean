import Mathlib.Tactic
import Spreadsheet.Proofs.Sheet.Values
import Spreadsheet.Table

/-!
Printed tables are aligned, and nothing is lost in them.

A table is `Printable` if the texts of its values have neither bars nor line ends in them, nor
blanks at their ends. Every line is then made of fields with bars between them, of which only
blanks at the right end are missing.

* `idxsOf_intercalate`: where the bars of a line stand is a matter of the widths of its fields;
* `Fits.idxsOf_line`, `Fits.fields_line`: so all lines have their bars in the same places, and
  the fields are found between them. Widths are in bytes, of which a text has at least as many
  as characters, so that every text fits into its field;
* `lines_render`: the lines of the table are read back from what is printed.
-/

namespace Spreadsheet.Table

open Text

variable {s : Sheet} {label text : List Char} {width start : Nat} {texts : List (List Char)}
  {c : Char}

/-- The values of the sheet can be told from each other in a table. -/
structure Printable (s : Sheet) : Prop where
  plain : ∀ cell, s.contains cell = true → ∀ c ∈ (s.valueText cell).toList, c ≠ '\n' ∧ c ≠ '|'
  trimmed : ∀ cell, s.contains cell = true → Trimmed (s.valueText cell).toList

/-! ### Widths -/

/-- A maximum that is gathered step by step is within a bound exactly if all its parts are. -/
lemma foldl_max_le_iff {α : Type} {f : α → Nat} {xs : List α} {first bound : Nat} :
    xs.foldl (fun width x => max width (f x)) first ≤ bound ↔
      first ≤ bound ∧ ∀ x ∈ xs, f x ≤ bound := by
  induction xs generalizing first with
  | nil => simp
  | cons x rest ih => rw [List.foldl_cons, ih, max_le_iff, List.forall_mem_cons, and_assoc]

/-- No character has less than one byte. -/
lemma length_le_byteLength (text : List Char) : text.length ≤ byteLength text := by
  induction text with
  | nil => exact le_rfl
  | cons c rest ih =>
      have hc := Char.utf8Size_pos c
      rw [List.length_cons, byteLength, List.foldr_cons]
      change rest.length + 1 ≤ c.utf8Size + byteLength rest
      omega

lemma columnWidth_le_iff {column bound : Nat} : columnWidth s column ≤ bound ↔
    byteLength (columnLabel column) ≤ bound ∧
      ∀ row < s.rows, byteLength (s.valueText ⟨row, column⟩).toList ≤ bound := by
  rw [columnWidth, foldl_max_le_iff]
  simp only [List.mem_range]

/-- A letter is a single character, so it has four bytes at most. -/
lemma byteLength_columnLabel_le (column : Nat) : byteLength (columnLabel column) ≤ 4 := by
  rw [columnLabel]
  cases Location.letterOf? column with
  | none => exact Nat.zero_le 4
  | some c => exact Char.utf8Size_le_four c

/-- A column has room for its letter. -/
lemma length_columnLabel_le (column : Nat) :
    (columnLabel column).length ≤ columnWidth s column :=
  (length_le_byteLength _).trans (columnWidth_le_iff.mp le_rfl).1

/-- A column has room for its values. -/
lemma length_valueText_le {row : Nat} (hrow : row < s.rows) (column : Nat) :
    (s.valueText ⟨row, column⟩).toList.length ≤ columnWidth s column :=
  (length_le_byteLength _).trans ((columnWidth_le_iff.mp le_rfl).2 row hrow)

/-- There is room for the numbers of all rows. -/
lemma length_naturalText_le {row : Nat} (hrow : row < s.rows) :
    (naturalText row).length ≤ labelWidth s := by
  have hpos : 0 < labelWidth s := Nat.length_toDigits_pos
  have hlast : s.rows - 1 < 10 ^ labelWidth s :=
    (Nat.length_toDigits_le_iff (by decide) hpos).mp le_rfl
  exact (Nat.length_toDigits_le_iff (by decide) hpos).mpr (by omega)

/-- A word has at most twenty digits. -/
lemma labelWidth_le (hrows : s.rows < wordLimit) : labelWidth s ≤ 20 := by
  have hlimit : wordLimit ≤ 10 ^ 20 := by decide
  exact (Nat.length_toDigits_le_iff (by decide) (by decide)).mpr (by omega)

/-! ### Fields -/

lemma length_padLeft (h : text.length ≤ width) : (padLeft width text).length = width := by
  rw [padLeft, List.length_append, List.length_replicate]
  omega

lemma trim_padLeft (width : Nat) (text : List Char) : trim (padLeft width text) = trim text :=
  trim_append_left fun c hc => by
    rw [List.eq_of_mem_replicate hc]
    decide

lemma mem_padLeft (h : c ∈ padLeft width text) : c = ' ' ∨ c ∈ text :=
  (List.mem_append.mp h).imp_left List.eq_of_mem_replicate

/-- The fields of a line: its label, then a text for each column. -/
def fields (s : Sheet) (label : List Char) (text : Nat → List Char) : List (List Char) :=
  padLeft (labelWidth s) label ::
    (List.range s.columns).map fun column => padLeft (columnWidth s column) (text column)

/-- A line is made of its fields, without the blanks at the end. -/
lemma line_eq (label : List Char) (text : Nat → List Char) :
    line (labelWidth s) (widths s) label ((List.range s.columns).map text) =
      trimEnd ([' ', '|', ' '].intercalate (fields s label text)) := by
  rw [line, widths, List.zipWith_map, List.zipWith_self, fields, intercalate_cons, List.map_map]
  rfl

/-! ### Bars -/

/-- Where the bars stand between fields of the given widths. -/
def bars : Nat → List Nat → List Nat
  | start, width :: next :: rest => (start + width + 1) :: bars (start + width + 3) (next :: rest)
  | _, _ => []

/-- There is a bar between every two fields. -/
lemma length_bars (start : Nat) (widths : List Nat) :
    (bars start widths).length = widths.length - 1 := by
  induction widths generalizing start with
  | nil => rfl
  | cons width rest ih =>
      cases rest with
      | nil => rfl
      | cons next others => rw [bars, List.length_cons, ih]; rfl

/-- The bars between texts without bars stand where the lengths of the texts put them. -/
theorem idxsOf_intercalate (htexts : ∀ text ∈ texts, '|' ∉ text) (start : Nat) :
    ([' ', '|', ' '].intercalate texts).idxsOf '|' start = bars start (texts.map List.length) := by
  induction texts generalizing start with
  | nil => rfl
  | cons first rest ih =>
      rw [List.forall_mem_cons] at htexts
      have hfirst : first.idxsOf '|' start = [] := by
        rw [List.idxsOf_eq_nil_iff]
        exact fun c hc => beq_eq_false_iff_ne.mpr fun heq => htexts.1 (heq ▸ hc)
      cases rest with
      | nil => rw [List.intercalate_singleton, hfirst]; rfl
      | cons next others =>
          change _ = (start + first.length + 1) ::
            bars (start + first.length + 3) ((next :: others).map List.length)
          rw [List.intercalate_cons_cons, List.append_assoc, List.idxsOf_append, hfirst,
            List.idxsOf_append, ih htexts.2]
          rfl

/-- Bars are not blank, so none goes with the blanks at the end. -/
lemma idxsOf_trimEnd (text : List Char) : (trimEnd text).idxsOf '|' = text.idxsOf '|' := by
  obtain ⟨right, heq, hright⟩ := exists_trimEnd text
  have hnone : right.idxsOf '|' (0 + (trimEnd text).length) = [] := by
    rw [List.idxsOf_eq_nil_iff]
    refine fun c hc => beq_eq_false_iff_ne.mpr ?_
    rintro rfl
    exact hright.notMem (by decide) hc
  conv_rhs => rw [heq]
  rw [List.idxsOf_append, hnone, List.append_nil]

/-! ### Lines -/

/-- A label and a text for each column fit into their fields and can be told from each other. -/
structure Fits (s : Sheet) (label : List Char) (text : Nat → List Char) : Prop where
  label_le : label.length ≤ labelWidth s
  text_le : ∀ column < s.columns, (text column).length ≤ columnWidth s column
  plain : ∀ part ∈ label :: (List.range s.columns).map text,
    Trimmed part ∧ ∀ c ∈ part, c ≠ '\n' ∧ c ≠ '|'

namespace Fits

variable {text : Nat → List Char}

/-- Fields are as wide as the table says. -/
lemma map_length_fields (h : Fits s label text) :
    (fields s label text).map List.length = labelWidth s :: widths s := by
  rw [fields, List.map_cons, length_padLeft h.label_le, List.map_map, widths]
  exact congrArg _ (List.map_congr_left fun column hcolumn =>
    length_padLeft (h.text_le column (List.mem_range.mp hcolumn)))

/-- Blanks apart, fields are what has been set in them. -/
lemma map_trim_fields (h : Fits s label text) :
    (fields s label text).map trim = label :: (List.range s.columns).map text := by
  have hplain := h.plain
  rw [List.forall_mem_cons, List.forall_mem_map] at hplain
  rw [fields, List.map_cons, trim_padLeft, hplain.1.1.trim_eq, List.map_map]
  refine congrArg _ (List.map_congr_left fun column hcolumn => ?_)
  exact (trim_padLeft _ _).trans (hplain.2 column hcolumn).1.trim_eq

/-- Fields have neither bars nor line ends. -/
lemma ne_of_mem_fields (h : Fits s label text) {field : List Char}
    (hfield : field ∈ fields s label text) (hc : c ∈ field) : c ≠ '\n' ∧ c ≠ '|' := by
  rw [fields, List.mem_cons, List.mem_map] at hfield
  rcases hfield with rfl | ⟨column, hcolumn, rfl⟩ <;> rcases mem_padLeft hc with rfl | hc
  · decide
  · exact (h.plain _ List.mem_cons_self).2 c hc
  · decide
  · exact (h.plain _ (List.mem_cons_of_mem _ (List.mem_map_of_mem hcolumn))).2 c hc

lemma bar_notMem (h : Fits s label text) : ∀ field ∈ fields s label text, '|' ∉ field :=
  fun _ hfield hmem => (h.ne_of_mem_fields hfield hmem).2 rfl

/-- **The bars of a line** stand where the widths of the table put them. -/
theorem idxsOf_line (h : Fits s label text) :
    (line (labelWidth s) (widths s) label ((List.range s.columns).map text)).idxsOf '|' =
      bars 0 (labelWidth s :: widths s) := by
  rw [line_eq, idxsOf_trimEnd, idxsOf_intercalate h.bar_notMem, h.map_length_fields]

/-- **The fields of a line** are found between its bars. -/
theorem fields_line (h : Fits s label text) :
    ((line (labelWidth s) (widths s) label ((List.range s.columns).map text)).splitOn '|').map
      trim = label :: (List.range s.columns).map text := by
  have hbar : isBlank '|' = false := by decide
  have hne : fields s label text ≠ [] := List.cons_ne_nil _ _
  obtain ⟨right, heq, hright⟩ := exists_trimEnd ([' ', '|', ' '].intercalate (fields s label text))
  rw [line_eq, ← map_trim_splitOn_append_right hright hbar, ← heq,
    map_trim_splitOn_intercalate hbar hne h.bar_notMem, h.map_trim_fields]

/-- A line has no line end in it, nor the start of one at its end. -/
lemma notMem_line (h : Fits s label text) :
    '\n' ∉ line (labelWidth s) (widths s) label ((List.range s.columns).map text) ∧
      '\r' ∉ (line (labelWidth s) (widths s) label ((List.range s.columns).map text)).getLast? := by
  rw [line_eq]
  refine ⟨fun hmem => ?_, fun hlast => absurd (isBlank_getLast?_trimEnd hlast) (by decide)⟩
  obtain ⟨right, heq, -⟩ := exists_trimEnd ([' ', '|', ' '].intercalate (fields s label text))
  have hall : '\n' ∈ [' ', '|', ' '].intercalate (fields s label text) :=
    heq ▸ List.mem_append_left right hmem
  rcases mem_intercalate hall with hbar | ⟨field, hfield, hend⟩
  · exact absurd hbar (by decide)
  · exact (h.ne_of_mem_fields hfield hend).1 rfl

end Fits

/-! ### The table -/

/-- What is set in the lines of the table: the letters of the columns without a label, then the
values of each row with its number. -/
def rows (s : Sheet) : List (List Char × (Nat → List Char)) :=
  ([], columnLabel) :: (List.range s.rows).map fun row =>
    (naturalText row, fun column => (s.valueText ⟨row, column⟩).toList)

lemma lines_eq : lines s = (rows s).map fun row =>
    line (labelWidth s) (widths s) row.1 ((List.range s.columns).map row.2) := by
  rw [lines, rows, List.map_cons, List.map_map]
  rfl

/-- Digits are neither blank nor separators. -/
lemma plain_naturalText (n : Nat) :
    Trimmed (naturalText n) ∧ ∀ c ∈ naturalText n, c ≠ '\n' ∧ c ≠ '|' := by
  refine ⟨trimmed_of_forall fun c hc => isBlank_of_isAlphanumeric
    (isAlphanumeric_of_isDigit (isDigit_of_mem_naturalText hc)), fun c hc => ?_⟩
  have hdigit := isDigit_of_mem_naturalText hc
  constructor <;> rintro rfl <;> exact absurd hdigit (by decide)

/-- Letters are neither blank nor separators. -/
lemma plain_columnLabel (column : Nat) :
    Trimmed (columnLabel column) ∧ ∀ c ∈ columnLabel column, c ≠ '\n' ∧ c ≠ '|' := by
  have hletters : ∀ column < maxColumns, isBlank (Char.ofNat ('A'.toNat + column)) = false ∧
      Char.ofNat ('A'.toNat + column) ≠ '\n' ∧ Char.ofNat ('A'.toNat + column) ≠ '|' := by
    decide
  have hletter : ∀ c ∈ columnLabel column, isBlank c = false ∧ c ≠ '\n' ∧ c ≠ '|' := by
    intro c hc
    rw [columnLabel, Location.letterOf?, Option.mem_toList] at hc
    split_ifs at hc with hcolumn
    exact Option.some.inj hc ▸ hletters column hcolumn
  exact ⟨trimmed_of_forall fun c hc => (hletter c hc).1, fun c hc => (hletter c hc).2⟩

/-- All lines of a table whose values can be told from each other are as wide as it says. -/
lemma Printable.fits (h : Printable s) : ∀ row ∈ rows s, Fits s row.1 row.2 := by
  rw [rows, List.forall_mem_cons, List.forall_mem_map]
  constructor
  · refine ⟨Nat.zero_le _, fun column _ => length_columnLabel_le column, ?_⟩
    rw [List.forall_mem_cons, List.forall_mem_map]
    exact ⟨⟨trimmed_of_forall (by simp), by simp⟩, fun column _ => plain_columnLabel column⟩
  · intro row hrow
    rw [List.mem_range] at hrow
    refine ⟨length_naturalText_le hrow, fun column _ => length_valueText_le hrow column, ?_⟩
    rw [List.forall_mem_cons, List.forall_mem_map]
    refine ⟨plain_naturalText row, fun column hcolumn => ?_⟩
    have hcell : s.contains ⟨row, column⟩ = true :=
      Sheet.contains_iff.mpr ⟨hrow, List.mem_range.mp hcolumn⟩
    exact ⟨h.trimmed _ hcell, h.plain _ hcell⟩

/-- **The lines of the table** are read back from what is printed. -/
theorem Printable.lines_render (h : Printable s) : Text.lines (render s).toList = lines s := by
  have hne : lines s ≠ [] := List.cons_ne_nil _ _
  rw [render, String.toList_ofList, flatMap_append_eq hne]
  refine lines_intercalate hne ?_
  rw [lines_eq, List.forall_mem_map]
  exact fun row hrow => (h.fits row hrow).notMem_line

/-- Sheets on which cells are entered as texts and built-ins are numbers can be printed. -/
lemma printable_of_typed {t : Template} (hblank : Formula.Entered t.blank)
    (hnumeric : Numeric t.builtins) (h : Sheet.Typed t s) : Printable s := by
  have hprinted := h.printed hblank hnumeric
  have hvalue : ∀ cell, ∃ value, Formula.Entered value ∧
      (s.valueText cell).toList = value.text := by
    intro cell
    rw [Sheet.valueText]
    cases hvalue : s.value? cell with
    | none => exact ⟨.empty, Formula.entered_empty, rfl⟩
    | some value =>
        refine ⟨value, hprinted.value cell value hvalue, ?_⟩
        rw [Option.map_some, Option.getD_some, Expr.render, String.toList_ofList]
  constructor <;> intro cell _ <;> obtain ⟨value, hentered, htext⟩ := hvalue cell <;> rw [htext]
  · exact fun c hc => ⟨(hentered.ne_separator hc).1, (hentered.ne_separator hc).2.2⟩
  · exact Formula.trimmed_text hentered.fits hentered.filled

/-- **The printed table is aligned, and nothing is lost in it.** Values have neither bars nor
line ends in them nor blanks at their ends wherever built-ins are numbers and cells hold what is
entered as texts, or a blank that can be. If they have none of these, and are shorter than the
`2 ^ 16` bytes that a field can have, then there is a line for the letters of the columns and one
for each row, all lines have a bar for each column, at the same places, and between the bars
stand, blanks apart, the number of the row and its values, or nothing and the letters. No field
is wider than its bound. -/
theorem render_exact (t : Template) (s : Sheet) :
    (Formula.Entered t.blank → Numeric t.builtins → Sheet.Typed t s → Printable s) ∧
    (Printable s → (∀ cell, s.contains cell = true →
        byteLength (s.valueText cell).toList < 65536) →
      (Text.lines (render s).toList).length = s.rows + 1 ∧
      (∀ line ∈ Text.lines (render s).toList, line.count '|' = s.columns) ∧
      (∃ offsets : List Nat, ∀ line ∈ Text.lines (render s).toList,
        line.idxsOf '|' = offsets) ∧
      (Text.lines (render s).toList).map (fun line => (line.splitOn '|').map trim) =
        ([] :: (List.range s.columns).map columnLabel) ::
          (List.range s.rows).map (fun row => naturalText row :: rowTexts s row) ∧
      (∀ width ∈ widths s, width < 65536) ∧ (s.rows < wordLimit → labelWidth s < 65536)) := by
  refine ⟨printable_of_typed, fun h hbytes => ?_⟩
  have hbars : ∀ line ∈ lines s, line.idxsOf '|' = bars 0 (labelWidth s :: widths s) := by
    rw [lines_eq, List.forall_mem_map]
    exact fun row hrow => (h.fits row hrow).idxsOf_line
  rw [h.lines_render]
  refine ⟨?_, fun line hline => ?_, ⟨_, hbars⟩, ?_, ?_, fun hrows => ?_⟩
  · simp [lines]
  · rw [← List.length_idxsOf, hbars line hline, length_bars]
    simp [widths]
  · rw [lines_eq, List.map_map]
    calc (rows s).map _
        = (rows s).map fun row => row.1 :: (List.range s.columns).map row.2 :=
          List.map_congr_left fun row hrow => (h.fits row hrow).fields_line
      _ = _ := by
          rw [rows, List.map_cons, List.map_map]
          rfl
  · rw [widths, List.forall_mem_map]
    intro column hcolumn
    refine Nat.lt_succ_of_le (columnWidth_le_iff.mpr ⟨?_, fun row hrow => ?_⟩)
    · exact (byteLength_columnLabel_le column).trans (by decide)
    · exact Nat.le_of_lt_succ (hbytes _
        (Sheet.contains_iff.mpr ⟨hrow, List.mem_range.mp hcolumn⟩))
  · exact (labelWidth_le hrows).trans_lt (by decide)

/-- A sheet of which one value has letters beyond ASCII, and whose last column is empty. -/
lemma exists_empty_column : ∃ s, Sheet.Typed (Template.new .empty) s ∧ s.rows = 2 ∧
    s.columns = 3 ∧ rowTexts s 0 = ["größe".toList, [], []] ∧
    rowTexts s 1 = [[], "-7".toList, []] ∧
    ∀ cell ∈ s.cells, byteLength (s.valueText cell).toList < 65536 := by
  have hmake : (Template.new .empty).make 2 3 = .ok _ := rfl
  refine ⟨_, .step (.step (.make hmake) (.write ⟨0, 0⟩ "größe")) (.write ⟨1, 1⟩ "3 - 10"), ?_⟩
  decide +kernel

/-- The letters beyond ASCII leave some room in their column, from which they are read back, and so
is the empty column. -/
theorem render_exact_empty_column : ∃ s, Sheet.Typed (Template.new .empty) s ∧
    (∃ offsets : List Nat, ∀ line ∈ Text.lines (render s).toList, line.idxsOf '|' = offsets) ∧
    (Text.lines (render s).toList).map (fun line => (line.splitOn '|').map trim) =
      [[[], "A".toList, "B".toList, "C".toList], ["0".toList, "größe".toList, [], []],
        ["1".toList, [], "-7".toList, []]] := by
  obtain ⟨s, hs, hrows, hcolumns, hfirst, hsecond, hbytes⟩ := exists_empty_column
  obtain ⟨hprintable, hprint⟩ := render_exact (Template.new .empty) s
  obtain ⟨-, -, hbars, hfields, -⟩ :=
    hprint (hprintable Formula.entered_empty numeric_empty hs)
      fun cell hcell => hbytes cell (Sheet.mem_cells.mpr hcell)
  have hrange : List.range 2 = [0, 1] := by decide
  refine ⟨s, hs, hbars, ?_⟩
  rw [hfields, hrows, hcolumns, hrange, List.map_cons, List.map_cons, List.map_nil, hfirst, hsecond]
  decide +kernel

end Spreadsheet.Table
