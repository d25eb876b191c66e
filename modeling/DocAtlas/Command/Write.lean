import DocAtlas.Command.Basic
import DocAtlas.Corpus.Fingerprint
import DocAtlas.Output.Contents
import DocAtlas.Output.Corpus

/-! # Writing reports

* `Run.deliver` — a report written to a file or to the output
* `Run.deliverRendered` — the same of a report that may be refused
* `Run.discover`, `Run.contents` — the commands that write reports
-/

set_option autoImplicit false

namespace DocAtlas.Run

/-- The run that writes a report, behind what it says before. -/
def deliver (tree : Tree) (output : Option Path) (notices : List String) (report : String) : Run :=
  match output with
  | none => { ending := .done 0, notices := notices, stdout := report, tree := tree }
  | some p =>
    match tree.write p report with
    | .ok tree =>
      { ending := .done 0, notices := notices ++ [s!"Wrote {p.text}"], written := some (p, report),
        tree := tree }
    | .error fault => { ending := .failed (.ofTree fault), notices := notices, tree := tree }

/-- The run that writes a report if it is not refused. Nothing is opened before the report is whole. -/
def deliverRendered (tree : Tree) (output : Option Path) (notices : List String) :
    Except Fault String → Run
  | .error fault => { ending := .failed fault, notices := notices, tree := tree }
  | .ok report => deliver tree output notices report

/-- The corpus with its links. -/
def corpusReport (tree : Tree) (session : Session) : Outcome CorpusReport :=
  (session.discover tree).andThen fun corpus session =>
  (session.resolve tree corpus).andThen fun links session =>
  ⟨.done ⟨corpus, corpus.fingerprint session.layout, links.links, links.issues⟩, [], session⟩

/-- What is said of a corpus before it is written. -/
def corpusNotices (layout : Layout) (report : CorpusReport) : List String :=
  let number := fun c => (report.corpus.ofCategory c).length
  let user := number .user
  let auto := number .auto
  let ai := number .ai
  [s!"Discovered {report.corpus.size} documents in {layout.root.text} (user {user}, auto {auto}, ai {ai})",
    s!"Fingerprint {report.fingerprint}"]
  ++ if report.issues = [] then []
    else [s!"{report.issues.length} unresolved references; run `docforge check` for details"]

/-- Write the corpus. -/
def discover (tree : Tree) (docs output : Option Path) (format : String)
    (serializer : Serializer := {}) : Run :=
  match ReportFormat.ofName format with
  | .error fault => { ending := .failed fault, tree := tree }
  | .ok format =>
    ofSession tree docs (corpusReport tree) fun layout report =>
      deliverRendered tree output (corpusNotices layout report)
        (report.serialize serializer layout format)

/-- What is said of a table of contents before it is written. -/
def contentsNotices (report : ContentsReport) : List String :=
  [s!"Placed {report.contents.total} items ({report.orphans.length} orphans), " ++
    s!"{report.issues.length} structural issues"]

/-- Write the table of contents. -/
def contents (tree : Tree) (docs output : Option Path) (format : String) (respectToctrees : Bool)
    (serializer : Serializer := {}) : Run :=
  match ReportFormat.ofName format with
  | .error fault => { ending := .failed fault, tree := tree }
  | .ok format =>
    ofSession tree docs (fun session => session.generateContents tree respectToctrees)
      fun layout report =>
        deliverRendered tree output (contentsNotices report)
          (report.serialize serializer layout format)

end DocAtlas.Run
