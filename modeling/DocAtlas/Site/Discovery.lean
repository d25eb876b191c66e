import DocAtlas.Corpus.Basic
import DocAtlas.Corpus.Priority
import DocAtlas.Site.Basic

/-! # Discovery

Every declared directory is walked in turn. A source file counts where it is met first.

* `Find` — a source file met below a declared directory
* `Site.harvest` — the new finds of each declared directory
* `Site.corpus` — their records
* `Site.corpusEvents` — what happens on the way
-/

set_option autoImplicit false

namespace DocAtlas

/-- A source file met below a declared directory. -/
structure Find where
  category : Category
  folder : String
  path : Path
  /-- The number of directories between the file and the folder its section is named for. -/
  depth : Nat
  deriving DecidableEq, Repr

/-- The find at a path below a declared directory. -/
def DeclaredDir.find (declared : DeclaredDir) (p : Path) : Find :=
  let steps := ((p.stripBase declared.dir).getD p).components
  if declared.hasSections then
    let folder := match steps with
      | first :: _ :: _ => first.toPath.text
      | _ => ""
    ⟨declared.category, folder, p, steps.length - 1 - 1⟩
  else
    ⟨declared.category, declared.dir.fileName.getD "", p, steps.length - 1⟩

/-- The finds whose paths are not among `seen`, each path once. -/
def firstFinds (seen : List Path) : List Find → List Find
  | [] => []
  | find :: rest =>
    if seen.any find.path.same then firstFinds seen rest
    else find :: firstFinds (find.path :: seen) rest

namespace Site

/-- The finds below a declared directory, none if it does not exist. -/
def finds (site : Site) (declared : DeclaredDir) : List Find :=
  if site.tree.isDir declared.dir then (site.sources declared.dir).map declared.find else []

/-- The new finds of each of the directories, when those at `seen` are known. -/
def harvestFrom (site : Site) (seen : List Path) : List DeclaredDir → List (DeclaredDir × List Find)
  | [] => []
  | declared :: rest =>
    let new := firstFinds seen (site.finds declared)
    (declared, new) :: site.harvestFrom (seen ++ new.map (·.path)) rest

/-- The new finds of each declared directory. -/
def harvest (site : Site) : List (DeclaredDir × List Find) :=
  site.harvestFrom [] site.layout.declaredDirs

/-- The record of a find. -/
def record (site : Site) (find : Find) : Record :=
  Record.ofContent find.category find.path
    (Priority.ofDocument find.category find.folder find.path find.depth) find.folder
    (site.url find.path) (site.content find.path)

/-- The records of every document in the declared directories. -/
def corpus (site : Site) : Corpus := ⟨(site.harvest.flatMap (·.2)).map site.record⟩

/-- What is said of a declared directory that does not exist. Additional ones may be missing. -/
def missingEvents (site : Site) (declared : DeclaredDir) : List Event :=
  if !declared.hasSections || site.tree.isDir declared.dir then []
  else if declared.category = .ai then
    [.debug .discovery s!"AI documentation directory not found at {declared.dir.text}"]
  else
    [.warn .discovery
      s!"{declared.category.label} documentation directory not found at {declared.dir.text}"]

/-- What happens on the walk below a declared directory: the source files that are `new` there are
read. -/
def harvestEvents (site : Site) (declared : DeclaredDir) (new : List Find) : List Event :=
  if site.tree.isDir declared.dir then
    (site.tree.steps site.config declared.dir).flatMap <| WalkStep.events fun p =>
      if new.any (·.path = p) then [.address p, .read p] else []
  else []

/-- What happens when the corpus is formed. -/
def corpusEvents (site : Site) : List Event :=
  site.harvest.flatMap (fun (declared, finds) =>
    site.missingEvents declared ++ site.harvestEvents declared finds)
  ++ site.corpus.groups.map fun (category, records) =>
    .info .discovery s!"discovered {records.length} {category.label} documentation files"

end Site

end DocAtlas
