import DocAtlas.Markup.Title
import DocAtlas.Text.Search

/-! # Toctree directives

* `Toctree.target?` — the document a line of a directive names
* `Toctree.ofMarkdown` — the targets in the fences of a Markdown document
* `Toctree.ofRst` — the targets in the directives of a reStructuredText document
* `Toctree.entries` — the targets of a document in order
-/

set_option autoImplicit false

namespace DocAtlas.Toctree

open Text (isBlank lines trim trimStart)

/-- The target in a text of the form `Title <target>`, any other text as it is. -/
def unwrap (s : List Char) : List Char :=
  if s.getLast? = some '>' then
    match Text.afterLast? '<' s.dropLast with
    | some target => trim target
    | none => s
  else s

/-- The document a line names: none for options, for the document itself, for patterns and for
addresses outside. -/
def target? (line : List Char) : Option (List Char) :=
  let line := trim line
  if line = [] ∨ line.head? = some ':' then none
  else
    let target := unwrap line
    if target = [] ∨ target = "self".toList ∨ Text.contains "://".toList target = true
        ∨ target.contains '*' = true ∨ target.contains '?' = true then none
    else some target

/-! ## Fences -/

/-- The mark of a line that opens a fence: three or more backquotes or colons. -/
def fenceMark? (line : List Char) : Option (List Char) :=
  match Text.before? "{toctree}".toList (trim line) with
  | some mark =>
    if 3 ≤ mark.length ∧ (mark.all (· == '\x60') = true ∨ mark.all (· == ':') = true) then some mark
    else none
  | none => none

/-- Where a line stands among the fences of a document. -/
inductive FenceState where
  | outside
  /-- In a fence that `mark` closes; `inOptions` tells whether an option block is open. -/
  | inside (mark : List Char) (inOptions : Bool)
  deriving DecidableEq

/-- The targets in the lines from one state on. -/
def fenceTargets : FenceState → List (List Char) → List (List Char)
  | _, [] => []
  | .outside, line :: rest =>
    match fenceMark? line with
    | some mark => fenceTargets (.inside mark false) rest
    | none => fenceTargets .outside rest
  | .inside mark inOptions, line :: rest =>
    if trim line = mark then fenceTargets .outside rest
    else if trim line = ['-', '-', '-'] then fenceTargets (.inside mark (!inOptions)) rest
    else if inOptions then fenceTargets (.inside mark inOptions) rest
    else match target? line with
      | some target => target :: fenceTargets (.inside mark inOptions) rest
      | none => fenceTargets (.inside mark inOptions) rest

def ofMarkdown (content : List Char) : List (List Char) := fenceTargets .outside (lines content)

/-! ## Directives -/

/-- Whether a line opens a directive. -/
def isDirective (line : List Char) : Bool := ".. toctree::".toList.isPrefixOf (trimStart line)

/-- Whether a line starts with a space or a tab. -/
def isIndented (line : List Char) : Bool := line.head? == some ' ' || line.head? == some '\t'

/-- The targets in the lines from one place on. -/
def directiveTargets : (inBlock : Bool) → List (List Char) → List (List Char)
  | _, [] => []
  | inBlock, line :: rest =>
    if isDirective line then directiveTargets true rest
    else if inBlock = false then directiveTargets false rest
    else if trim line = [] then directiveTargets true rest
    else if isIndented line = false then directiveTargets false rest
    else match target? line with
      | some target => target :: directiveTargets true rest
      | none => directiveTargets true rest

def ofRst (content : List Char) : List (List Char) := directiveTargets false (lines content)

/-- The targets of every directive in a document, in order. -/
def entries (markup : Markup) (content : String) : List String :=
  match markup with
  | .markdown => (ofMarkdown content.toList).map String.ofList
  | .rst => (ofRst content.toList).map String.ofList

end DocAtlas.Toctree
