import DocAtlas.Path.Extension
import DocAtlas.Text.Case

/-! # Project configuration

* `Config` — the settings of a project; their defaults are the values of `{}`
* `Config.excludes`, `Config.supports` — which names are passed over and which files are sources
* `Config.sectionFor` — the section of the contents a folder name belongs to
-/

set_option autoImplicit false

namespace DocAtlas

/-- The settings of a project. -/
structure Config where
  /-- The directory of hand-written documents. -/
  userDocs : String := "user_docs"
  /-- The directory of generated documents. -/
  autoDocs : String := "auto_docs"
  /-- The directory of machine-written prose. -/
  aiDocs : String := "ai_docs"
  /-- More directories of generated documents. -/
  autoRoots : List String := ["autoapi", "apidoc", "reference"]
  /-- The extensions of source files, without the dot. -/
  extensions : List String := ["md", "rst", "txt"]
  /-- The names that are passed over wherever they stand. -/
  ignore : List String :=
    ["build", ".venv", "venv", ".tox", ".git", "node_modules", "__pycache__"]
  /-- The root document without its extension. -/
  masterDoc : String := "index"
  /-- The extension of output addresses, without the dot. -/
  outputSuffix : String := "html"
  /-- Sections for folder names, before the usual ones. -/
  sections : List (String × String) := []
  deriving DecidableEq, Repr, Inhabited

namespace Config

/-- The name of the file a configuration is read from. -/
def fileName : String := ".docforge.toml"

/-- The section for a folder name that has none. -/
def fallbackSection : String := "reference"

/-- The usual sections for folder names. -/
def usualSections : List (String × String) :=
  [("advanced", "advanced"), ("api", "reference"), ("apidoc", "reference"),
   ("autoapi", "reference"), ("concepts", "concepts"), ("examples", "examples"),
   ("extracted", "reference"), ("faq", "user_guide"), ("getting_started", "getting_started"),
   ("guides", "user_guide"), ("installation", "getting_started"), ("introspected", "reference"),
   ("quickstart", "getting_started"), ("reference", "reference"), ("tutorials", "user_guide"),
   ("user_guide", "user_guide")]

/-- Whether an entry of this name is passed over, with all that lies below it. -/
def excludes (config : Config) (name : String) : Bool :=
  name.toList.head? == some '_' || config.ignore.contains name

/-- Whether a path has the extension of a source file, in whatever case. -/
def supports (config : Config) (p : Path) : Bool :=
  match p.extension with
  | none => false
  | some e => config.extensions.any fun x => Text.sameIgnoringCase x.toList e.toList

/-- The section of the contents for the documents of a folder. -/
def sectionFor (config : Config) (folder : String) : String :=
  match config.sections.lookup folder with
  | some key => key
  | none => (usualSections.lookup folder).getD fallbackSection

end Config

end DocAtlas
