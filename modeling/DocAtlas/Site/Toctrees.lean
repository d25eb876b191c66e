import DocAtlas.Issue
import DocAtlas.Markup.Toctree
import DocAtlas.Ordering.TextSet
import DocAtlas.Site.Basic

/-! # Documents that toctrees reach

* `ToctreeReport` — the addresses reached, and the entries that lead nowhere
* `Site.existingSource?` — the document an entry names
* `Site.toctreeReport` — the report on every toctree of the documentation
* `Site.toctreeEvents` — what happens on the way
-/

set_option autoImplicit false

namespace DocAtlas

/-- What the toctrees of a documentation lead to. -/
structure ToctreeReport where
  issues : List Issue := []
  /-- The addresses of the documents reached, the root document among them. -/
  tracked : TextSet := .empty
  deriving DecidableEq, Repr

/-- The report without the addresses. -/
def ToctreeReport.issuesOnly (report : ToctreeReport) : ToctreeReport := ⟨report.issues, .empty⟩

/-- One entry of a toctree and the document it names, if that exists. -/
structure EntryCheck where
  /-- The document with the toctree, below the root. -/
  source : Path
  entry : String
  target : Option Path
  deriving DecidableEq, Repr

namespace EntryCheck

def issue? (check : EntryCheck) : Option Issue :=
  if check.target = none then some (.missingTarget check.source check.entry) else none

def events (check : EntryCheck) : List Event :=
  match check.target with
  | some p => [.address p]
  | none =>
    [.warn .toctree s!"{check.source.text}: toctree entry `{check.entry}` has no matching document"]

end EntryCheck

namespace Site

/-- A path with one more extension. -/
def appendExtension (p : Path) (extension : String) : Path := ⟨p.text ++ "." ++ extension⟩

/-- The document at a path: the path itself if it is a source file, else the first file it becomes
with one of the configured extensions. -/
def existingSource? (site : Site) (p : Path) : Option Path :=
  if site.config.supports p && site.tree.isFile p then some p
  else (site.config.extensions.map (appendExtension p)).find? site.tree.isFile

/-- The root document. -/
def master? (site : Site) : Option Path :=
  site.existingSource? (site.layout.root.join ⟨site.config.masterDoc⟩)

/-- The entries in the toctrees of a document. -/
def entryChecks (site : Site) (p : Path) : List EntryCheck :=
  match site.content p with
  | none => []
  | some content =>
    (Toctree.entries (Markup.ofPath p) content).map fun entry =>
      ⟨site.layout.relative p, entry, site.existingSource? (site.candidate (site.baseOf p) entry)⟩

/-- The report on every toctree of the documentation. -/
def toctreeReport (site : Site) : ToctreeReport :=
  let checks := site.allSources.flatMap site.entryChecks
  ⟨checks.filterMap EntryCheck.issue?,
    TextSet.ofList ((site.master?.toList ++ checks.filterMap (·.target)).map site.url)⟩

/-- What happens when toctrees are read. -/
def toctreeEvents (site : Site) : List Event :=
  let report := site.toctreeReport
  let count := (site.allSources.flatMap site.entryChecks).length
  site.master?.toList.map .address
    ++ site.walkEvents (fun p => .read p :: (site.entryChecks p).flatMap EntryCheck.events)
    ++ [.info .toctree <|
      s!"read {count} toctree entries, {report.tracked.size} tracked documents, " ++
        s!"{report.issues.length} missing targets"]

end Site

end DocAtlas
