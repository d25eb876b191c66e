import DocAtlas.Layout
import DocAtlas.Tree.Source
import DocAtlas.Tree.Walk

/-! # A documentation site

* `Site` — a file tree, the layout and configuration of the documentation in it, and the contents of
  its documents
* `Site.sources`, `Site.url` — the source files of a directory, the output address of a document
-/

set_option autoImplicit false

namespace DocAtlas

/-- The documentation in a file tree, as one run sees it. -/
structure Site where
  tree : Tree
  layout : Layout
  config : Config
  /-- The content of a document, none if it cannot be read. -/
  content : Path → Option String

namespace Site

/-- The documentation in a file tree as it is there. -/
def ofTree (tree : Tree) (layout : Layout) (config : Config) : Site :=
  ⟨tree, layout, config, tree.source?⟩

/-- The source files of a directory. -/
def sources (site : Site) (dir : Path) : List Path := site.tree.sources site.config dir

/-- What happens on a walk through the whole documentation, `met` being what happens at a source
file. -/
def walkEvents (site : Site) (met : Path → List Event) : List Event :=
  site.tree.walkEvents site.layout.root ++
    (site.tree.steps site.config site.layout.root).flatMap (WalkStep.events met)

/-- The source files of the whole documentation. -/
def allSources (site : Site) : List Path := site.sources site.layout.root

/-- The output address of a document. -/
def url (site : Site) (p : Path) : String := site.layout.urlFor p site.config.outputSuffix

/-- The path a reference names: below the root if it starts with a slash, else seen from the
directory `dir`. -/
def candidate (site : Site) (dir : Path) (reference : String) : Path :=
  match reference.toList with
  | '/' :: rest => (site.layout.root.join ⟨String.ofList rest⟩).normalize
  | _ => (dir.join ⟨reference⟩).normalize

/-- The directory that the references of a document are seen from. -/
def baseOf (site : Site) (p : Path) : Path := p.parent.getD site.layout.root

end Site

end DocAtlas
