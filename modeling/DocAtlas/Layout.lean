import DocAtlas.Category
import DocAtlas.Config.Basic

/-! # Layout of a documentation root

* `Layout` — the root and the directories declared under it, whether or not they exist
* `Layout.contains`, `Layout.excludes`, `Layout.isRelevant` — where a path stands in the layout
* `Layout.urlFor`, `Layout.referenceUrl` — output addresses of documents and of references
-/

set_option autoImplicit false

namespace DocAtlas

/-- A documentation root and the directories declared under it. -/
structure Layout where
  root : Path
  userDocs : Path
  autoDocs : Path
  aiDocs : Path
  autoRoots : List Path
  deriving DecidableEq, Repr

/-- A declared directory. -/
structure DeclaredDir where
  category : Category
  dir : Path
  /-- Whether the folders below the directory name sections; else its own name is the section. -/
  hasSections : Bool
  deriving DecidableEq, Repr

namespace Layout

/-- The layout of a configuration under a root. -/
def ofRoot (root : Path) (config : Config) : Layout where
  root := root
  userDocs := root.join ⟨config.userDocs⟩
  autoDocs := root.join ⟨config.autoDocs⟩
  aiDocs := root.join ⟨config.aiDocs⟩
  autoRoots := config.autoRoots.map fun r => root.join ⟨r⟩

/-- The directories of the three categories in the order they are searched. -/
def categoryDirs (layout : Layout) : List DeclaredDir :=
  [⟨.user, layout.userDocs, true⟩, ⟨.auto, layout.autoDocs, true⟩, ⟨.ai, layout.aiDocs, true⟩]

/-- Every declared directory in the order they are searched. -/
def declaredDirs (layout : Layout) : List DeclaredDir :=
  layout.categoryDirs ++ layout.autoRoots.map fun dir => ⟨.auto, dir, false⟩

/-- Whether a path lies in a declared directory. -/
def contains (layout : Layout) (p : Path) : Bool :=
  layout.declaredDirs.any fun declared => p.startsWith declared.dir

/-- The path below the root. A path outside the root stays as it is. -/
def relative (layout : Layout) (p : Path) : Path := (p.stripBase layout.root).getD p

/-- Whether a name below the root is passed over. -/
def excludes (layout : Layout) (config : Config) (p : Path) : Bool :=
  (layout.relative p).names.any config.excludes

/-- Whether a change to a path can matter: it is a source file or a configuration, and no name below
the root is passed over. -/
def isRelevant (layout : Layout) (config : Config) (p : Path) : Bool :=
  !layout.excludes config p && (p.fileName == some Config.fileName || config.supports p)

/-- The output address of a document: its path below the root with the output suffix as extension,
names only. -/
def urlFor (layout : Layout) (p : Path) (suffix : String) : String :=
  "/".intercalate ((layout.relative p).withExtension suffix).names

/-- The output address of the document that a path without extension refers to. -/
def referenceUrl (layout : Layout) (p : Path) (suffix : String) : String :=
  layout.urlFor ⟨p.text ++ "." ++ suffix⟩ suffix

end Layout

end DocAtlas
