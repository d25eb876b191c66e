import DocAtlas.Command.Basic
import DocAtlas.Output.Format

/-! # Checking a documentation

* `Findings` — what a check finds
* `Findings.lines`, `Findings.code` — the report and the exit code
* `Run.check`, `Run.watch` — the commands

A watch is described up to its first check. What comes behind waits for the file system to change, and
each further check is a run of its own on the tree of that time.
-/

set_option autoImplicit false

namespace DocAtlas

/-- What a check finds. -/
structure Findings where
  /-- The number of documents in the corpus. -/
  documents : Nat
  orphans : List (Path × Placement)
  /-- Broken toctree entries, then references that lead nowhere. -/
  issues : List Issue

namespace Findings

/-- The placements of orphans, one after the other. -/
def placeAll (tree : Tree) (session : Session) : List Path → Outcome (List (Path × Placement))
  | [] => ⟨.done [], [], session⟩
  | p :: rest =>
    (session.place tree p).andThen fun placement session =>
    (placeAll tree session rest).andThen fun placements session =>
    ⟨.done ((p, placement) :: placements), [], session⟩

/-- What a check of the documentation finds. -/
def find (tree : Tree) (session : Session) : Outcome Findings :=
  (session.discover tree).andThen fun corpus session =>
  (session.resolve tree corpus).andThen fun links session =>
  (session.loadToctrees tree).andThen fun toctrees session =>
  (session.findOrphans tree toctrees.tracked).andThen fun orphans session =>
  (placeAll tree session orphans).andThen fun placements session =>
  ⟨.done ⟨corpus.size, placements, toctrees.issues ++ links.issues⟩, [], session⟩

def orphanLine (layout : Layout) (orphan : Path × Placement) : String :=
  s!"ORPHAN  {(layout.relative orphan.1).text} (would go in {orphan.2.key})"

def issueLine (issue : Issue) : String :=
  let label := issue.label ++ String.ofList (List.replicate (7 - issue.label.length) ' ')
  s!"{label} {issue.describe}"

/-- The last lines of the report. -/
def summary (findings : Findings) : List String :=
  if findings.issues ≠ [] then
    ["", s!"{findings.issues.length} structural issues, {findings.orphans.length} orphans"]
  else if findings.orphans ≠ [] then ["", s!"{findings.orphans.length} orphans"]
  else [s!"All {findings.documents} documents placed, no orphans"]

def lines (layout : Layout) (findings : Findings) : List String :=
  findings.orphans.map (orphanLine layout) ++ findings.issues.map issueLine ++ findings.summary

/-- Issues weigh more than orphans. -/
def code (findings : Findings) : Nat :=
  if findings.issues ≠ [] then 2 else if findings.orphans ≠ [] then 1 else 0

end Findings

namespace Run

/-- Report orphans, broken toctree entries and references that lead nowhere. -/
def check (tree : Tree) (docs : Option Path) : Run :=
  ofSession tree docs (Findings.find tree) fun layout findings =>
    { ending := .done findings.code, stdout := unlines (findings.lines layout), tree := tree }

/-- The first check of a watched documentation. -/
def watch (tree : Tree) (docs : Option Path) : Run :=
  let opened := Project.openDocs tree docs
  match opened.result with
  | .error fault => { ending := .failed fault, log := opened.log, tree := tree }
  | .ok (layout, _) =>
    let run := check tree (some layout.root)
    { run with log := opened.log ++ run.log, notices := "watch: initial check" :: run.notices }

end Run

end DocAtlas
