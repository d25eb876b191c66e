import DocAtlas.Category
import DocAtlas.Issue
import DocAtlas.Markup.Title
import DocAtlas.Ordering.Stable
import DocAtlas.Sum

/-! # Tables of contents

* `Item`, `Section`, `Contents` — the entries of a table of contents by section
* `Contents.base` — the six sections every table starts with
* `Contents.push`, `Contents.touch`, `Contents.sort` — its construction
* `Contents.get?`, `Contents.total` — questions about it
* `ContentsReport` — a finished table with what was noticed on the way
-/

set_option autoImplicit false

namespace DocAtlas

/-- One entry of a table of contents. -/
structure Item where
  category : Category
  priority : Nat
  title : String
  url : String
  deriving DecidableEq, Repr, Inhabited

/-- The entries under one heading. -/
structure Section where
  key : String
  title : String
  items : List Item := []
  deriving DecidableEq, Repr, Inhabited

/-- The sections of a table of contents in order. -/
structure Contents where
  sections : List Section
  deriving DecidableEq, Repr, Inhabited

namespace Contents

/-- The keys and headings of the sections every table starts with. -/
def baseSections : List (String × String) :=
  [("getting_started", "Getting Started"), ("user_guide", "User Guide"), ("concepts", "Concepts"),
   ("reference", "API Reference"), ("examples", "Examples"), ("advanced", "Advanced Topics")]

def base : Contents := ⟨baseSections.map fun (key, title) => ⟨key, title, []⟩⟩

def get? (contents : Contents) (key : String) : Option Section :=
  contents.sections.find? (·.key == key)

/-- The table with a section for `key`: a new one comes last, with a heading made from the key. -/
def touch (contents : Contents) (key : String) : Contents :=
  if (contents.get? key).isSome then contents
  else ⟨contents.sections ++ [⟨key, Title.ofStem key, []⟩]⟩

/-- The table with an item at the end of the section for `key`. -/
def push (contents : Contents) (key : String) (item : Item) : Contents :=
  ⟨(contents.touch key).sections.map fun s =>
    if s.key = key then { s with items := s.items ++ [item] } else s⟩

/-- The items by ascending priority. Items of one priority keep their order. -/
def sortItems (items : List Item) : List Item := sortBy (fun i j => i.priority ≤ j.priority) items

/-- The table with the items of each section by ascending priority. -/
def sort (contents : Contents) : Contents :=
  ⟨contents.sections.map fun s => { s with items := sortItems s.items }⟩

/-- The number of items in all sections. -/
def total (contents : Contents) : Nat := sumOf (fun s => s.items.length) contents.sections

end Contents

/-- A finished table of contents. -/
structure ContentsReport where
  /-- Broken toctree entries, then references without a document. -/
  issues : List Issue
  /-- The orphans in the order they were found. -/
  orphans : List Path
  contents : Contents
  deriving DecidableEq, Repr

end DocAtlas
