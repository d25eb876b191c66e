import DocAtlas.Path.Basic

/-! # Issues

* `Issue` — an entry or reference that leads to no document
* `Issue.describe`, `Issue.label` — the words for it
-/

set_option autoImplicit false

namespace DocAtlas

/-- An entry or reference that leads to no document. -/
inductive Issue where
  /-- A toctree entry. -/
  | missingTarget (source : Path) (target : String)
  /-- A reference of a document. -/
  | unresolvedReference (source : Path) (target : String)
  deriving DecidableEq, Repr

namespace Issue

/-- The document the issue was found in. -/
def source : Issue → Path
  | missingTarget source _ => source
  | unresolvedReference source _ => source

def describe : Issue → String
  | missingTarget source target => s!"{source.text}: toctree entry `{target}` does not exist"
  | unresolvedReference source target => s!"{source.text}: reference `{target}` matches no document"

def label : Issue → String
  | missingTarget .. => "MISSING"
  | unresolvedReference .. => "UNRESOLVED"

end Issue

end DocAtlas
