import DocAtlas.Markup.Pattern
import DocAtlas.Markup.Title
import DocAtlas.Ordering.TextSet

/-! # References of a document

* `Reference.written` — the targets of a document as they are written
* `Reference.isExternal` — targets outside the documentation
* `Reference.normalize` — a target without anchor and extension
* `Reference.ofContent` — the set of references of a document
-/

set_option autoImplicit false

namespace DocAtlas.Reference

open Text (trim)

/-- The patterns of a notation. -/
def patterns : Markup → List Markup.Pattern
  | .markdown =>
    [Markup.markdownLink, Markup.fenceInclude, Markup.docRole, Markup.templateInclude]
  | .rst => [Markup.rstLink, Markup.rstInclude, Markup.docRole, Markup.templateInclude]

/-- The targets in a document as they are written. -/
def written (markup : Markup) (content : List Char) : List (List Char) :=
  (patterns markup).flatMap fun pattern => Markup.scan pattern content

/-- The target in a text of the form `Title <target>`, any other text as it is. -/
def unwrap (s : List Char) : List Char :=
  if s.getLast? = some '>' then (Text.afterLast? '<' s.dropLast).getD s else s

/-- An anchor in the same document, a mail address or an address with a scheme. -/
def isExternal (target : List Char) : Bool :=
  target.head? == some '#' || "mailto:".toList.isPrefixOf target ||
    Text.contains "://".toList target

/-- A file name without what follows its last dot. A name that starts with its last dot keeps it,
and so do `..` followed by text and a name that ends in a dot. -/
def withoutExtension (file : List Char) : List Char :=
  match Text.splitAtLast '.' file with
  | some (stem, extension) => if stem ≠ [] ∧ stem ≠ ['.'] ∧ extension ≠ [] then stem else file
  | none => file

/-- A target without anchor and extension, none if nothing is left. -/
def normalize (target : List Char) : Option (List Char) :=
  let place := trim (target.takeWhile (· != '#'))
  let reference := match Text.splitAtLast '/' place with
    | some (folder, file) => folder ++ '/' :: withoutExtension file
    | none => withoutExtension place
  if reference = [] then none else some reference

/-- The reference a written target makes, none if it is external or empty. -/
def ofWritten (s : List Char) : Option String :=
  let target := unwrap s
  if isExternal target then none else (normalize target).map String.ofList

/-- The references of a document. -/
def ofContent (markup : Markup) (content : String) : TextSet :=
  TextSet.ofList ((written markup content.toList).filterMap ofWritten)

end DocAtlas.Reference
