import DocAtlas.Project
import DocAtlas.Session

/-! # Commands

* `Command` — what can be asked for
* `Run` — what a command writes and how it ends
* `Run.ofSession` — the run of an operation in a fresh session
-/

set_option autoImplicit false

namespace DocAtlas

/-- What can be asked for. Without a documentation root, the one that belongs to the working
directory is taken. -/
inductive Command where
  /-- Report orphans, broken toctree entries and references that lead nowhere. -/
  | check (docs : Option Path)
  /-- Write the corpus. -/
  | discover (docs output : Option Path) (format : String)
  /-- Write the table of contents. -/
  | contents (docs output : Option Path) (format : String) (respectToctrees : Bool)
  /-- Check now and whenever a document changes. -/
  | watch (docs : Option Path)
  deriving DecidableEq, Repr

/-- What a command writes and how it ends: in an exit code unless it fails. -/
structure Run where
  ending : Ending Nat
  log : List LogEntry := []
  /-- The lines on the error output. -/
  notices : List String := []
  stdout : String := ""
  /-- The file written, and its content. -/
  written : Option (Path × String) := none
  tree : Tree

namespace Run

/-- The code for a failure. -/
def failureCode : Nat := 3

/-- The code of a program that is broken off. -/
def abortCode : Nat := 101

def code (run : Run) : Nat :=
  match run.ending with
  | .done code => code
  | .failed _ => failureCode
  | .aborted => abortCode

/-- The lines on the error output with the diagnosis of a failure. -/
def errorLines (run : Run) : List String :=
  match run.ending with
  | .failed fault => run.notices ++ fault.errorLines
  | _ => run.notices

end Run

namespace Run

variable {α : Type}

/-- The run of an operation in a fresh session for a documentation root. -/
def ofSession (tree : Tree) (docs : Option Path) (operation : Session → Outcome α)
    (finish : Layout → α → Run) : Run :=
  let opened := Project.openDocs tree docs
  match opened.result with
  | .error fault => { ending := .failed fault, log := opened.log, tree := tree }
  | .ok (layout, config) =>
    let outcome := operation { layout := layout, config := config }
    match outcome.ending with
    | .done value =>
      let run := finish layout value
      { run with log := opened.log ++ outcome.log ++ run.log }
    | .failed fault => { ending := .failed fault, log := opened.log ++ outcome.log, tree := tree }
    | .aborted => { ending := .aborted, log := opened.log ++ outcome.log, tree := tree }

end Run

end DocAtlas
