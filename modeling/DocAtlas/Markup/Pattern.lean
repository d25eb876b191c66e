import DocAtlas.Text.Blank

/-! # Patterns of references

A pattern looks at the text from one place on. If it recognises a reference there, it gives the
target as written and the text behind the reference.

* `Pattern` — the type of patterns
* `scan` — the targets a pattern finds in a text, from left to right and without overlap
* `markdownLink`, `fenceInclude`, `docRole`, `rstLink`, `rstInclude`, `templateInclude` — the patterns
-/

set_option autoImplicit false

namespace DocAtlas.Markup

open Text (isBlank)

/-- A recogniser of references, told whether it looks at the start of a line. -/
abbrev Pattern := (atLineStart : Bool) → List Char → Option (List Char × List Char)

/-- The targets found from one place on, when the next `skip` characters belong to a reference that
was found already. -/
def scanFrom (pattern : Pattern) : (atLineStart : Bool) → (skip : Nat) → List Char → List (List Char)
  | _, _, [] => []
  | _, skip + 1, c :: rest => scanFrom pattern (c == '\n') skip rest
  | atLineStart, 0, c :: rest =>
    match pattern atLineStart (c :: rest) with
    | some (target, behind) =>
      target :: scanFrom pattern (c == '\n') (rest.length - behind.length) rest
    | none => scanFrom pattern (c == '\n') 0 rest

/-- The targets a pattern finds in a text. -/
def scan (pattern : Pattern) (s : List Char) : List (List Char) := scanFrom pattern true 0 s

/-! ## Parts of patterns -/

/-- The text behind `word`. -/
def expect (word : String) (s : List Char) : Option (List Char) :=
  if word.toList.isPrefixOf s then some (s.drop word.length) else none

/-- The text behind `word` if it starts with that. -/
def optional (word : String) (s : List Char) : List Char := (expect word s).getD s

/-- The text behind blanks. -/
def skipBlanks (s : List Char) : List Char := s.dropWhile isBlank

/-- The text behind at least one blank. -/
def expectBlanks (s : List Char) : Option (List Char) :=
  if (s.head?.map isBlank).getD false then some (skipBlanks s) else none

/-- The longest run of characters with a property, at least one, and the text behind it. -/
def expectRun (p : Char → Bool) (s : List Char) : Option (List Char × List Char) :=
  match s.takeWhile p with
  | [] => none
  | run => some (run, s.dropWhile p)

/-- The text behind blanks and a quoted title, if that comes first. -/
def optionalTitle (s : List Char) : List Char :=
  match expectBlanks s with
  | some ('"' :: rest) =>
    match rest.dropWhile (· != '"') with
    | '"' :: behind => behind
    | _ => s
  | _ => s

/-! ## The patterns -/

/-- A character of a link target. -/
def isLinkChar (c : Char) : Bool := c != ')' && c != '>' && !isBlank c

/-- `[text](target)`, also with the target between angle brackets and with a quoted title. -/
def markdownLink : Pattern := fun _ s => do
  let s ← expect "[" s
  let s ← expect "](" (s.dropWhile (· != ']'))
  let s := skipBlanks s
  let (target, s) ← (expectRun isLinkChar (optional "<" s)).or (expectRun isLinkChar s)
  let s ← expect ")" (skipBlanks (optionalTitle (optional ">" s)))
  some (target, s)

/-- A line that opens a fence with `{include}`, followed by the target. -/
def fenceInclude : Pattern := fun atLineStart s => do
  let s := skipBlanks s
  let s ← (expect "```" s).or (expect ":::" s)
  let s ← expectBlanks (← expect "{include}" s)
  if atLineStart then expectRun (!isBlank ·) s else none

/-- The target in the role `:doc:` or `{doc}`. -/
def docRole : Pattern := fun _ s => do
  let s ← (expect ":doc:`" s).or (expect "{doc}`" s)
  let (target, s) ← expectRun (· != '\x60') s
  some (target, ← expect "`" s)

/-- A target between angle brackets, behind a text in the same backquotes, and an underscore or two
behind them. -/
def rstLink : Pattern := fun _ s => do
  let s ← expect "`" s
  let s ← expect "<" (s.dropWhile fun c => c != '\x60' && c != '<')
  let (target, s) ← expectRun (fun c => c != '>' && c != '\x60') s
  let s ← expect ">`_" s
  some (target, optional "_" s)

/-- A line with the directive `include` or `literalinclude`, followed by the target. -/
def rstInclude : Pattern := fun atLineStart s => do
  let s ← expectBlanks (← expect ".." (skipBlanks s))
  let s ← expect "include::" (optional "literal" s)
  if atLineStart then expectRun (!isBlank ·) (skipBlanks s) else none

/-- A template's `include` with a quoted target. -/
def templateInclude : Pattern := fun _ s => do
  let isQuote := fun c => c == '"' || c == '\x27'
  let s ← expect "include" (skipBlanks (optional "-" (← expect "\x7b%" s)))
  let s ← expectBlanks s
  let s ← if (s.head?.map isQuote).getD false then some s.tail else none
  let (target, s) ← expectRun (!isQuote ·) s
  if (s.head?.map isQuote).getD false then some (target, s.tail) else none

end DocAtlas.Markup
