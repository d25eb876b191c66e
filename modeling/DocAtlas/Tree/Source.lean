import DocAtlas.Text.Utf8
import DocAtlas.Tree.Basic

/-! # Texts in a file tree

* `Tree.readText` — the text of a file that has to be one
* `Tree.source?` — the text of a document, none if it cannot be read
* `Tree.sourceWarning?` — what is said of a document that cannot be read
-/

set_option autoImplicit false

namespace DocAtlas.Tree

/-- The text of a file. -/
def readText (tree : Tree) (p : Path) : Except TreeFault String := do
  match String.fromUTF8? (← tree.read p) with
  | some s => .ok s
  | none => .error .notText

/-- The text of a document, none if it cannot be read. -/
def source? (tree : Tree) (p : Path) : Option String := (tree.readText p).toOption

/-- What is said of a document that cannot be read. -/
def sourceWarning? (tree : Tree) (p : Path) : Option String :=
  match tree.read p with
  | .error fault => some s!"cannot read {p.text}: {fault.message}"
  | .ok bytes =>
    (Text.utf8Fault? bytes.data.toList).map fun fault =>
      s!"{p.text} is not valid UTF-8: {fault.message}"

end DocAtlas.Tree
