import DocAtlas.Config.Reader
import DocAtlas.Fault
import DocAtlas.Layout
import DocAtlas.Log.Event
import DocAtlas.Tree.Source

/-! # Finding and opening a documentation

* `Project.locate` — the documentation root that belongs to a directory
* `Project.loadConfig` — the configuration in a documentation root
* `Project.resolveRoot` — a documentation root without symbolic links
* `Project.openDocs` — layout and configuration of a documentation root
-/

set_option autoImplicit false

namespace DocAtlas.Project

/-- What a step ends in, and what it logs. -/
structure Logged (α : Type) where
  result : Except Fault α
  log : List LogEntry := []

/-- One step after another, as long as they succeed. -/
def Logged.andThen {α β : Type} (first : Logged α) (next : α → Logged β) : Logged β :=
  match first.result with
  | .ok value =>
    let second := next value
    ⟨second.result, first.log ++ second.log⟩
  | .error fault => ⟨.error fault, first.log⟩

/-! ## The documentation root -/

/-- The names a documentation root has by convention, in order of preference. -/
def docsDirNames : List String := ["docs", "documentation", "doc"]

/-- The files that make a directory beside `docs` the root of a project. -/
def manifests : List String := ["setup.py", "pyproject.toml", "Cargo.toml"]

/-- Whether a directory looks like the root of a project with a documentation. -/
def isProjectRoot (tree : Tree) (dir : Path) : Bool :=
  let hasDocs := tree.isDir (dir.child "docs")
  let hasSource := tree.isDir (dir.child "src")
  (hasDocs && hasSource) || (tree.isDir (dir.child ".git") && hasSource) ||
    (hasDocs && manifests.any fun m => tree.isFile (dir.child m))

/-- The first of the conventional directories that exists in `dir`. -/
def conventionalDocs? (tree : Tree) (dir : Path) : Option (String × Path) :=
  (docsDirNames.map fun name => (name, dir.child name)).find? fun (_, p) => tree.isDir p

/-- The documentation root in the nearest project around `start`. -/
def locate (tree : Tree) (start : Path) : Logged Path :=
  let project? := start.ancestors.find? (isProjectRoot tree)
  let dir := project?.getD start
  let unknown := if project?.isSome then []
    else [⟨.warn, .paths, s!"could not determine repository root, using {start.text}"⟩]
  match conventionalDocs? tree dir with
  | some (name, p) =>
    let unusual := if name = "docs" then []
      else [⟨.warn, .paths, s!"using non-standard docs directory {p.text}"⟩]
    ⟨.ok p, unknown ++ unusual⟩
  | none => ⟨.error (.docsDirNotFound (dir.child "docs")), unknown⟩

/-! ## Opening it -/

/-- The configuration in a documentation root, the usual one if there is none. -/
def loadConfig (tree : Tree) (docs : Path) : Logged Config :=
  match tree.readText (docs.child Config.fileName) with
  | .ok text =>
    match Config.parse? text with
    | some config => ⟨.ok config, []⟩
    | none => ⟨.error .invalidConfig, []⟩
  | .error .notFound =>
    ⟨.ok {}, [⟨.debug, .config, s!"no {Config.fileName} in {docs.text}, using defaults"⟩]⟩
  | .error fault => ⟨.error (.ofTree fault), []⟩

/-- A documentation root without symbolic links. -/
def resolveRoot (tree : Tree) (docs : Path) : Except Fault Path :=
  if tree.isDir docs then (tree.canonical docs).mapError .ofTree else .error (.docsDirNotFound docs)

/-- The layout and configuration of a documentation root: the given one, or the one that belongs to
the working directory. -/
def openDocs (tree : Tree) (docs? : Option Path) : Logged (Layout × Config) :=
  let chosen : Logged Path := match docs?, tree.workDir with
    | some docs, _ => ⟨.ok docs, []⟩
    | none, .ok start => locate tree start
    | none, .error fault => ⟨.error (.ofTree fault), []⟩
  chosen.andThen fun docs =>
    if tree.isDir docs then
      (loadConfig tree docs).andThen fun config =>
        match resolveRoot tree docs with
        | .ok root =>
          ⟨.ok (Layout.ofRoot root config, config),
            [⟨.debug, .commands, s!"documentation root {root.text}"⟩]⟩
        | .error fault => ⟨.error fault, []⟩
    else ⟨.error (.docsDirNotFound docs), []⟩

end DocAtlas.Project
