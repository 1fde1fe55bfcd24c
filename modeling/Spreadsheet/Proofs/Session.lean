import Mathlib.Tactic
import Spreadsheet.FileTree
import Spreadsheet.Session

/-!
What a command that fails leaves of a session.

A command needs at most one file, and what it makes of the answer is fixed before the
file is asked for. So the turns that a command may lead to are those for the possible
answers (`FileRequest.Gives`), however the files behave that it is carried out on
(`FileRequest.gives_performOn`).

* `Session.perform_error`: a command that fails leaves the session as it is, generations
  of life aside, and aside from the path that a sheet is to be saved in;
* `Session.execute_error`: the same for lines, on any files.
-/

namespace Spreadsheet

/-! ### Requests -/

namespace FileRequest

variable {α : Type}

/-- The result of a request on files that are part of a state, and the state after it. -/
def performOn {σ : Type} [FileAccess (StateM σ)] (request : FileRequest α) (files : σ) : α × σ :=
  StateT.run (request.perform : StateM σ α) files

/-- A result that a request may lead to, by some answer about the file. -/
inductive Gives : FileRequest α → α → Prop
  /-- No file is asked for. -/
  | done (result : α) : Gives (.done result) result
  /-- A file is read, or cannot be. -/
  | read (path : String) (next : Except FileFault String → α) (answer : Except FileFault String) :
      Gives (.read path next) (next answer)
  /-- A file is written, or cannot be. -/
  | write (path content : String) (next : Except FileFault Unit → α)
      (answer : Except FileFault Unit) : Gives (.write path content next) (next answer)

/-- Whatever the files are and do, a request leads to one of these results. -/
lemma gives_performOn {σ : Type} [FileAccess (StateM σ)] (request : FileRequest α) (files : σ) :
    request.Gives (request.performOn files).1 := by
  cases request with
  | done result => exact .done result
  | read path next => exact .read path next _
  | write path content next => exact .write path content next _

lemma gives_done_iff {value result : α} :
    (FileRequest.done value).Gives result ↔ result = value := by
  constructor
  · rintro ⟨⟩
    rfl
  · rintro rfl
    exact .done _

end FileRequest

/-! ### Commands that fail -/

namespace Session

variable {session : Session} {turn : Turn} {fault : CommandFault}

/-- A change that fails leaves the session as it is. -/
lemma change_error {result : Except SheetFault Sheet}
    (hfault : (session.change result).result = .error fault) :
    (session.change result).session = session := by
  cases result with
  | ok sheet => cases hfault
  | error cause => rfl

/-- To show a cell changes nothing. -/
lemma session_showCell (cell : Location) : (session.showCell cell).session = session := by
  rw [showCell]
  cases session.sheet.formula? cell with
  | none => rfl
  | some formula => rfl

/-- To show who uses a cell changes nothing. -/
lemma session_showUsers (cell : Location) : (session.showUsers cell).session = session := by
  rw [showUsers]
  cases session.sheet.usedBy cell with
  | nil => rfl
  | cons user users => rfl

/-- Saving changes nothing but the current file, whether that can be written or not. It
fails if there is none, and else on account of the file. -/
lemma of_save_gives {path : Option String} (hturn : (session.save path).Gives turn) :
    turn.session = { session with file := path.or session.file } ∧
    ∀ fault, turn.result = .error fault →
      (path.or session.file = none ∧ fault = .noFile) ∨ ∃ cause, fault = .sheet (.file cause) := by
  rw [save] at hturn
  dsimp only at hturn
  cases hfile : path.or session.file with
  | none =>
      rw [hfile, FileRequest.gives_done_iff] at hturn
      rw [hturn]
      exact ⟨rfl, fun fault hfault => Or.inl ⟨rfl, (Except.error.inj hfault).symm⟩⟩
  | some file =>
      rw [hfile] at hturn
      cases hturn with
      | write _ _ _ answer =>
          cases answer with
          | ok => exact ⟨rfl, fun fault hfault => by cases hfault⟩
          | error cause =>
              exact ⟨rfl, fun fault hfault => Or.inr ⟨cause, (Except.error.inj hfault).symm⟩⟩

/-- Loading that fails leaves the session as it is. -/
lemma of_load_gives {path : String} (hturn : (session.load path).Gives turn)
    (hfault : turn.result = .error fault) : turn.session = session := by
  rw [load] at hturn
  cases hturn with
  | read _ _ answer =>
      cases answer with
      | error cause => rfl
      | ok text =>
          dsimp only at hfault ⊢
          cases hload : session.sheet.load text with
          | error cause => rfl
          | ok loaded =>
              rw [hload] at hfault
              cases hfault

/-- **Commands that fail.** Whatever the answer about a file is, a command that fails
leaves the session as it is, unless it plays life or is to save in a given file. In
the latter case the file becomes the current one though it could not be written. -/
theorem perform_error {command : Command}
    (hlife : ∀ generations, command ≠ .life generations)
    (hturn : (session.perform command).Gives turn) (hfault : turn.result = .error fault) :
    ((∀ path, command ≠ .save (some path)) → turn.session = session) ∧
    ∀ path, command = .save (some path) →
      turn.session = { session with file := some path } ∧ ∃ cause, fault = .sheet (.file cause) := by
  constructor
  · intro hsave
    -- only what changes the sheet, saving and loading can fail
    cases command with
    | nothing | quit | help =>
        rw [FileRequest.gives_done_iff.mp hturn]
        rfl
    | set cell formula =>
        rw [FileRequest.gives_done_iff.mp hturn] at hfault ⊢
        exact change_error hfault
    | inspect cell =>
        rw [FileRequest.gives_done_iff.mp hturn]
        exact session_showCell cell
    | usedBy cell =>
        rw [FileRequest.gives_done_iff.mp hturn]
        exact session_showUsers cell
    | clear | resize =>
        rw [FileRequest.gives_done_iff.mp hturn] at hfault ⊢
        exact change_error hfault
    | life generations => exact absurd rfl (hlife generations)
    | save path =>
        cases path with
        | none => exact (of_save_gives hturn).1
        | some path => exact absurd rfl (hsave path)
    | load path => exact of_load_gives hturn hfault
  · rintro path rfl
    have hsave : (session.save (some path)).Gives turn := hturn
    obtain ⟨hsession, hcause⟩ := of_save_gives hsave
    refine ⟨hsession, (hcause fault hfault).resolve_left fun hnone => ?_⟩
    cases hnone.1

/-- **Lines that fail.** Whatever the files are and do, a line that fails leaves sheet and
current file as they are, unless it plays life or asks to save in a given file. In the
latter case the sheet is as it was, but the file that could not be written is the current
one from then on. -/
theorem execute_error {σ : Type} [FileAccess (StateM σ)] (session : Session) (line : String)
    (files last : σ) (hlife : ∀ generations, Command.ofLine line ≠ .ok (.life generations))
    (hturn : (session.execute line).performOn files = (turn, last))
    (hfault : turn.result = .error fault) :
    ((∀ path, Command.ofLine line ≠ .ok (.save (some path))) → turn.session = session) ∧
    ∀ path, Command.ofLine line = .ok (.save (some path)) →
      turn.session = { session with file := some path } ∧ ∃ cause, fault = .sheet (.file cause) := by
  have hgives := (session.execute line).gives_performOn files
  rw [hturn, execute] at hgives
  cases hline : Command.ofLine line with
  | error cause =>
      rw [hline] at hgives
      obtain rfl : turn = session.reply (.error cause) := FileRequest.gives_done_iff.mp hgives
      exact ⟨fun _ => rfl, fun _ hpath => by cases hpath⟩
  | ok command =>
      rw [hline] at hgives hlife
      simp only [ne_eq, Except.ok.injEq] at hlife ⊢
      exact perform_error hlife hgives hfault

/-- A file that is not there cannot be loaded, which changes nothing. -/
theorem execute_error_load :
    ∃ s, (Template.new .empty).make 1 1 = .ok s ∧ ∃ turn last,
      (Session.execute ⟨s, some "good.sheet"⟩ "load gone.sheet").performOn FileTree.fresh
        = (turn, last) ∧
      turn.result = .error (.load "gone.sheet" (.file .missing)) ∧
      turn.session = ⟨s, some "good.sheet"⟩ := by
  refine ⟨_, rfl, _, _, rfl, rfl, ?_⟩
  have hline : Command.ofLine "load gone.sheet" = .ok (.load "gone.sheet") := rfl
  refine (execute_error _ "load gone.sheet" FileTree.fresh _ (fun _ hlife => ?_) rfl rfl).1
    fun path hsave => ?_
  · rw [hline] at hlife
    cases hlife
  · rw [hline] at hsave
    cases hsave

/-- A sheet cannot be saved below a directory that is not there, but the path becomes that
of the current file. -/
theorem execute_error_save :
    ∃ s, (Template.new .empty).make 1 1 = .ok s ∧ ∃ turn last,
      (∀ generations, Command.ofLine "save gone/other.sheet" ≠ .ok (.life generations)) ∧
      (Session.execute ⟨s, some "good.sheet"⟩ "save gone/other.sheet").performOn FileTree.fresh
        = (turn, last) ∧
      turn.result = .error (.sheet (.file .missing)) ∧
      turn.session.file = some "gone/other.sheet" := by
  refine ⟨_, rfl, _, _, fun _ hlife => ?_, rfl, rfl, rfl⟩
  have hline : Command.ofLine "save gone/other.sheet" = .ok (.save (some "gone/other.sheet")) := rfl
  rw [hline] at hlife
  cases hlife

end Session

end Spreadsheet
