import Spreadsheet.Text.Lines
import Spreadsheet.Text.Number

/-!
The part of the TOML format that settings are written in.

A document is a list of statements, one to a line: headers in brackets, which open
a table, and keys with their values. Keys may be bare, quoted or dotted. Values
are integers of 64 bits, decimal or in base sixteen, eight or two, and tables of
such integers in braces.

The format has more: strings, truth values, dates, numbers with a fraction or an
exponent, arrays, tables within tables in braces, and headers in double brackets. A
text with any of these is refused here. No setting takes such a value, so a reader of
the whole format would come to refuse the settings as well, in other words. What is
proved about settings is about those that have been read, and does not depend on how;
the lemmas below are there to let the readers end.

Each reader takes what it reads from the head of the text and returns it with the
rest, or nothing if the text does not start that way. No reader returns more than
it was given (`keyPart?_length_le`, `binding?_length_lt`), and a separator between two
parts is taken away as well, so lists of parts come to an end.

* `Toml.statements?` reads a document.
-/

namespace Spreadsheet.Toml

/-- A reader of the head of a text. -/
abbrev Reader (α : Type) := List Char → Option (α × List Char)

/-- A value. -/
inductive Value where
  | integer (value : Int64)
  | table (entries : List (List String × Int64))

/-- A statement of a document. Keys are lists of the parts between dots. -/
inductive Statement where
  /-- The header of a table. -/
  | header (key : List String)
  /-- A key with its value. -/
  | entry (key : List String) (value : Value)

/-! ### Blanks and comments -/

/-- The text without the spaces and tabs at its head. -/
def skipSpace (text : List Char) : List Char :=
  text.dropWhile fun c => c = ' ' || c = '\t'

/-- Whether a character may stand in a comment or in a quoted string: no control
but the tab. -/
def isPrintable (c : Char) : Bool :=
  c = '\t' || (' ' ≤ c && c ≠ '\x7f')

/-- The text without the comment at its head, if there is one. -/
def skipComment : List Char → List Char
  | '#' :: text => text.dropWhile isPrintable
  | text => text

/-- Whether a text holds nothing, or blanks and a comment alone. -/
def isVoid (text : List Char) : Bool :=
  (skipComment (skipSpace text)).isEmpty

/-- Blanks are part of the text that they are taken from. -/
theorem skipSpace_length_le (text : List Char) : (skipSpace text).length ≤ text.length :=
  (List.dropWhile_suffix _).length_le

/-! ### Keys -/

/-- Whether a character may stand in a bare key. -/
def isBare (c : Char) : Bool :=
  c.isAlphanum || c = '_' || c = '-'

/-- The value of a digit in base sixteen. -/
def hexDigit? (c : Char) : Option Nat :=
  if c.isDigit then some (c.toNat - '0'.toNat)
  else if 'a' ≤ c && c ≤ 'f' then some (c.toNat - 'a'.toNat + 10)
  else if 'A' ≤ c && c ≤ 'F' then some (c.toNat - 'A'.toNat + 10)
  else none

/-- The character whose code is given by digits in base sixteen. -/
def codePoint? (digits : List Char) : Option Char := do
  let code ← digits.foldlM (fun code c => return code * 16 + (← hexDigit? c)) 0
  if code.isValidChar then return Char.ofNat code else none

/-- The character that is written with a backslash and a letter or mark. -/
def escaped? : Char → Option Char
  | 'b' => some '\x08'
  | 't' => some '\t'
  | 'n' => some '\n'
  | 'f' => some '\x0c'
  | 'r' => some '\r'
  | '"' => some '"'
  | '\\' => some '\\'
  | _ => none

/-- The rest of a string in double quotes, after the characters found before, the
last one first. -/
def quoted? (found : List Char) : Reader String
  | '"' :: rest => some (String.ofList found.reverse, rest)
  | '\\' :: 'u' :: a :: b :: c :: d :: rest =>
      match codePoint? [a, b, c, d] with
      | some char => quoted? (char :: found) rest
      | none => none
  | '\\' :: 'U' :: a :: b :: c :: d :: e :: f :: g :: h :: rest =>
      match codePoint? [a, b, c, d, e, f, g, h] with
      | some char => quoted? (char :: found) rest
      | none => none
  | '\\' :: mark :: rest =>
      match escaped? mark with
      | some char => quoted? (char :: found) rest
      | none => none
  | char :: rest => if isPrintable char then quoted? (char :: found) rest else none
  | [] => none

/-- Whether a character may stand in a string in single quotes, where nothing is
escaped. -/
def isLiteral (c : Char) : Bool :=
  isPrintable c && c ≠ '\''

/-- One part of a key. -/
def keyPart? : Reader String
  | '"' :: text => quoted? [] text
  | '\'' :: text =>
      match text.dropWhile isLiteral with
      | '\'' :: rest => some (String.ofList (text.takeWhile isLiteral), rest)
      | _ => none
  | text =>
      match text.takeWhile isBare with
      | [] => none
      | part => some (String.ofList part, text.dropWhile isBare)

/-- What follows a string in double quotes is no longer than what it was read from. -/
theorem quoted?_length_le {found text rest : List Char} {part : String}
    (h : quoted? found text = some (part, rest)) : rest.length ≤ text.length := by
  fun_induction quoted? found text with
  | case1 => simp_all
  | case2 | case4 | case6 | case8 => simp_all; omega
  | case3 | case5 | case7 | case9 | case10 => simp_all

/-- What follows a part of a key is no longer than what it was read from. -/
theorem keyPart?_length_le {text rest : List Char} {part : String}
    (h : keyPart? text = some (part, rest)) : rest.length ≤ text.length := by
  have drop_le (p : Char → Bool) (text : List Char) : (text.dropWhile p).length ≤ text.length :=
    (List.dropWhile_suffix p).length_le
  revert h
  fun_cases keyPart? text with
  | case1 text => exact fun h => Nat.le_succ_of_le (quoted?_length_le h)
  | case2 text after hquote =>
      intro h
      have hle := drop_le isLiteral text
      simp_all
      omega
  | case3 | case4 => simp
  | case5 =>
      intro h
      simp only [Option.some.injEq, Prod.mk.injEq] at h
      exact h.2 ▸ drop_le isBare text

/-- The parts of a key with dots between them, and blanks around the dots, after
the parts found before, the last one first. -/
def keyParts? (found : List String) (text : List Char) : Option (List String × List Char) :=
  match hpart : keyPart? (skipSpace text) with
  | none => none
  | some (part, rest) =>
      match hdot : skipSpace rest with
      | '.' :: next =>
          have : next.length < text.length := by
            have := keyPart?_length_le hpart
            have := skipSpace_length_le text
            have := skipSpace_length_le rest
            simp only [hdot, List.length_cons] at this
            omega
          keyParts? (part :: found) next
      | rest => some ((part :: found).reverse, rest)
termination_by text.length

/-- A key, with the blanks around it. -/
def key? : Reader (List String) :=
  keyParts? []

/-- What follows the parts of a key is no longer than what they were read from. -/
theorem keyParts?_length_le {found key : List String} {text rest : List Char}
    (h : keyParts? found text = some (key, rest)) : rest.length ≤ text.length := by
  fun_induction keyParts? found text with
  | case1 => simp at h
  | case2 found text part after hpart next hdot hlt ih =>
      exact Nat.le_trans (ih h) (Nat.le_of_lt hlt)
  | case3 found text part after hpart hdot =>
      have := keyPart?_length_le hpart
      have := skipSpace_length_le text
      have := skipSpace_length_le after
      simp_all
      omega

/-! ### Values -/

/-- The value of digits in a base, with single underscores allowed between
digits, if it is that of a word. -/
def digitsIn? (base : Nat) (text : List Char) : Option Nat :=
  let groups := text.splitOn '_'
  if groups.any List.isEmpty then none
  else groups.flatten.foldlM
    (fun value c => do
      let digit ← hexDigit? c
      let value := value * base + digit
      if digit < base && value < Text.wordLimit then return value else none)
    0

/-- The value of decimal digits, which start with a zero only if that is all. -/
def decimal? : List Char → Option Nat
  | ['0'] => some 0
  | '0' :: _ => none
  | digits => digitsIn? 10 digits

/-- A value as a signed word, if it is small enough. -/
def positive? (value : Option Nat) : Option Int64 := do
  let value ← value
  if value < Nat.pow 2 63 then return Int64.ofNat value else none

/-- The integer that a whole text is. Only decimal integers have a sign. -/
def integer? : List Char → Option Int64
  | '0' :: 'x' :: digits => positive? (digitsIn? 16 digits)
  | '0' :: 'o' :: digits => positive? (digitsIn? 8 digits)
  | '0' :: 'b' :: digits => positive? (digitsIn? 2 digits)
  | '+' :: digits => positive? (decimal? digits)
  | '-' :: digits => do
      let value ← decimal? digits
      if value ≤ Nat.pow 2 63 then return Int64.ofInt (-value) else none
  | digits => positive? (decimal? digits)

/-- Whether a character may be part of an integer, or of what only looks like
one. -/
def isNumeral (c : Char) : Bool :=
  c.isAlphanum || c = '_' || c = '-' || c = '+'

/-- An integer after blanks. -/
def integerValue? : Reader Int64 := fun text =>
  let text := skipSpace text
  (integer? (text.takeWhile isNumeral)).map fun value => (value, text.dropWhile isNumeral)

/-- A key, an equals sign, and a value. -/
def binding? {α : Type} (value? : Reader α) : Reader (List String × α) := fun text =>
  match key? text with
  | some (key, '=' :: rest) => (value? rest).map fun (value, rest) => ((key, value), rest)
  | _ => none

/-- What follows an integer is no longer than what it was read from. -/
theorem integerValue?_length_le {text rest : List Char} {value : Int64}
    (h : integerValue? text = some (value, rest)) : rest.length ≤ text.length := by
  simp only [integerValue?, Option.map_eq_some_iff, Prod.mk.injEq] at h
  obtain ⟨_, -, -, rfl⟩ := h
  exact Nat.le_trans (List.dropWhile_suffix _).length_le (skipSpace_length_le text)

/-- What follows a binding is shorter than what it was read from, unless its value's
reader adds to the text. -/
theorem binding?_length_lt {α : Type} {value? : Reader α} {text rest : List Char}
    {entry : List String × α}
    (hvalue : ∀ {text rest : List Char} {value : α},
      value? text = some (value, rest) → rest.length ≤ text.length)
    (h : binding? value? text = some (entry, rest)) : rest.length < text.length := by
  unfold binding? at h
  split at h
  · rename_i key after hkey
    simp only [Option.map_eq_some_iff, Prod.mk.injEq] at h
    obtain ⟨⟨value, last⟩, hread, -, rfl⟩ := h
    have hle := keyParts?_length_le hkey
    have : last.length ≤ after.length := hvalue hread
    show last.length < text.length
    rw [List.length_cons] at hle
    omega
  · simp at h

/-- The entries of a table in braces, with commas between them and the closing
brace, after those found before, the last one first. -/
def entries? (found : List (List String × Int64)) (text : List Char) :
    Option (List (List String × Int64) × List Char) :=
  match hentry : binding? integerValue? text with
  | none => none
  | some (entry, rest) =>
      match hcomma : skipSpace rest with
      | ',' :: next =>
          have : next.length < text.length := by
            have := binding?_length_lt integerValue?_length_le hentry
            have := skipSpace_length_le rest
            simp only [hcomma, List.length_cons] at this
            omega
          entries? (entry :: found) next
      | '\x7d' :: rest => some ((entry :: found).reverse, rest)
      | _ => none
termination_by text.length

/-- A value after blanks: a table, which stays on one line, or an integer. -/
def value? : Reader Value := fun text =>
  match skipSpace text with
  | '\x7b' :: rest =>
      match skipSpace rest with
      | '\x7d' :: rest => some (.table [], rest)
      | rest => (entries? [] rest).map fun (es, rest) => (.table es, rest)
  | text => (integerValue? text).map fun (value, rest) => (.integer value, rest)

/-! ### Documents -/

/-- A header or an entry. -/
def statement? : Reader Statement
  | '[' :: text =>
      match key? text with
      | some (key, ']' :: rest) => some (.header key, rest)
      | _ => none
  | text => (binding? value? text).map fun ((key, value), rest) => (.entry key value, rest)

/-- The statement on a line, or none if the line is void. -/
def line? (line : List Char) : Option (Option Statement) :=
  if isVoid line then some none
  else match statement? (skipSpace line) with
    | some (statement, rest) => if isVoid rest then some (some statement) else none
    | none => none

/-- The statements of a document, which may start with a byte order mark. -/
def statements? (document : String) : Option (List Statement) :=
  let text := match document.toList with
    | '\uFEFF' :: text => text
    | text => text
  ((Text.lines text).mapM line?).map fun found => found.filterMap id

end Spreadsheet.Toml
