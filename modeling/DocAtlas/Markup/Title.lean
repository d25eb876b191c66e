import DocAtlas.Path.Extension
import DocAtlas.Text.Blank
import DocAtlas.Text.Case
import DocAtlas.Text.Lines

/-! # Titles

* `Markup` — the two notations of documents
* `Title.ofStem`, `Title.ofPath` — a title made from a file name
* `Title.ofMarkdown`, `Title.ofRst`, `Title.find?` — the first heading of a document
-/

set_option autoImplicit false

namespace DocAtlas

open Text (lines trim trimStart trimEnd)

/-- The notation a document is written in. -/
inductive Markup where
  | markdown
  | rst
  deriving DecidableEq, Repr, Inhabited

/-- The notation for the extension of a path. -/
def Markup.ofPath (p : Path) : Markup :=
  let extension := (p.extension.getD "").toList
  if Text.sameIgnoringCase extension "md".toList
      || Text.sameIgnoringCase extension "markdown".toList then .markdown
  else .rst

namespace Title

/-! ## From file names -/

/-- A letter in upper case where it does not follow a letter, else in lower case. Underscores
become spaces. -/
def capitalized : (afterLetter : Bool) → List Char → List Char
  | _, [] => []
  | afterLetter, c :: rest =>
    if Text.isLetter c then
      (if afterLetter then Text.lowerChar c else Text.upperChar c) ++ capitalized true rest
    else
      (if c = '_' then ' ' else c) :: capitalized false rest

def ofStem (stem : String) : String := String.ofList (capitalized false stem.toList)

/-- The title made from the file name of a path. -/
def ofPath (p : Path) : String := ofStem (p.fileStem.getD "")

/-! ## Markdown -/

/-- The text of a line that is a heading of the first level. -/
def heading? : List Char → Option (List Char)
  | '#' :: c :: rest =>
    let title := trim (c :: rest)
    if Text.isBlank c ∧ title ≠ [] then some title else none
  | _ => none

/-- Whether a line opens or closes a code block. -/
def isCodeFence (line : List Char) : Bool :=
  ['\x60', '\x60', '\x60'].isPrefixOf (trimStart line) || ['~', '~', '~'].isPrefixOf (trimStart line)

/-- Whether a line opens or closes front matter. -/
def isFrontMatterMark (line : List Char) : Bool := trimEnd line == ['-', '-', '-']

/-- The first heading outside code blocks. -/
def headingOutsideCode : (inCode : Bool) → List (List Char) → Option (List Char)
  | _, [] => none
  | inCode, line :: rest =>
    if isCodeFence line then headingOutsideCode (!inCode) rest
    else if inCode then headingOutsideCode inCode rest
    else match heading? line with
      | some title => some title
      | none => headingOutsideCode inCode rest

/-- The lines behind front matter that has been opened. -/
def behindFrontMatter : List (List Char) → List (List Char)
  | [] => []
  | line :: rest => if isFrontMatterMark line then rest else behindFrontMatter rest

/-- The lines behind the front matter, which only the first line can open. -/
def withoutFrontMatter : List (List Char) → List (List Char)
  | [] => []
  | line :: rest => if isFrontMatterMark line then behindFrontMatter rest else line :: rest

/-- The first heading of a Markdown document. -/
def ofMarkdown (content : List Char) : Option (List Char) :=
  headingOutsideCode false (withoutFrontMatter (lines content))

/-! ## reStructuredText -/

/-- Whether a line holds nothing but `=` or nothing but `-`. -/
def isUnderline : List Char → Bool
  | [] => false
  | c :: rest => (c == '=' || c == '-') && rest.all (· == c)

/-- The first line that a long enough underline follows: at least four fifths as long. -/
def underlined : List (List Char) → Option (List Char)
  | line :: next :: rest =>
    let title := trim line
    if title ≠ [] ∧ isUnderline title = false ∧ isUnderline next = true
        ∧ title.length * 4 ≤ next.length * 5 then some title
    else underlined (next :: rest)
  | _ => none

/-- The first title of a reStructuredText document. -/
def ofRst (content : List Char) : Option (List Char) := underlined ((lines content).map trimEnd)

/-- The first title of a document. -/
def find? (markup : Markup) (content : String) : Option String :=
  match markup with
  | .markdown => (ofMarkdown content.toList).map String.ofList
  | .rst => (ofRst content.toList).map String.ofList

end Title

end DocAtlas
