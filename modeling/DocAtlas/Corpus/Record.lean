import DocAtlas.Category
import DocAtlas.Markup.Reference

/-! # Records of documents

* `Record` — what is known of one document
* `Record.ofContent` — the record of a document with the given content
-/

set_option autoImplicit false

namespace DocAtlas

/-- What is known of one document. -/
structure Record where
  category : Category
  /-- Whether the file is called `index`, in whatever case. -/
  isIndex : Bool
  path : Path
  /-- Its place within a section, lower first. -/
  priority : Nat
  references : TextSet
  /-- The folder its section is named for. -/
  folder : String
  title : String
  /-- Its output address. -/
  url : String
  deriving DecidableEq, Repr, Inhabited

namespace Record

/-- Whether the name a path ends in is `index`, in whatever case. -/
def isIndexPath (p : Path) : Bool :=
  match p.fileStem with
  | some stem => Text.sameIgnoringCase stem.toList "index".toList
  | none => false

/-- The first heading of a document, else the title made from its file name. -/
def titleOf (p : Path) (content : Option String) : String :=
  (content.bind (Title.find? (Markup.ofPath p))).getD (Title.ofPath p)

/-- The record of a document. One that cannot be read has no references. -/
def ofContent (category : Category) (path : Path) (priority : Nat) (folder url : String)
    (content : Option String) : Record where
  category := category
  isIndex := isIndexPath path
  path := path
  priority := priority
  references := (content.map (Reference.ofContent (Markup.ofPath path))).getD .empty
  folder := folder
  title := titleOf path content
  url := url

end Record

end DocAtlas
