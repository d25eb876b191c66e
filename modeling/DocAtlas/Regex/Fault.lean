import DocAtlas.Text.Lines

/-! # Faults in regular expressions

* `Regex.Place`, `Regex.Span` — where something stands in the text of an expression
* `Regex.Cause`, `Regex.Fault` — what is wrong, and where
* `Regex.Fault.report` — the text of the expression with marks under the fault
-/

set_option autoImplicit false

namespace DocAtlas

namespace Regex

/-- A place in a text, its line and column counted from one. -/
structure Place where
  line : Nat := 1
  column : Nat := 1
  deriving DecidableEq, Repr

/-- The place behind a character. -/
def Place.after (place : Place) (c : Char) : Place :=
  if c = '\n' then ⟨place.line + 1, 1⟩ else ⟨place.line, place.column + 1⟩

/-- What stands between two places. -/
structure Span where
  first : Place
  last : Place
  deriving DecidableEq, Repr

/-- What is wrong with an expression. -/
inductive Cause where
  | groupUnclosed
  | groupUnopened
  | repetitionMissing
  | countEmpty
  | countTooLarge
  | countUnclosed
  | countOrder
  | classUnclosed
  | classRangeOrder
  | classRangeBound
  | classEscape
  | escapeUnknown
  | escapeUnfinished
  | hexEmpty
  | hexNoCharacter
  | hexDigit
  | boundaryUnclosed
  | boundaryUnknown
  | boundaryOrCountUnfinished
  | flagDangling
  | flagRepeated
  | negationRepeated
  | flagUnfinished
  | flagUnknown
  | nameRepeated
  | nameEmpty
  | nameCharacter
  | nameUnfinished
  | backreference
  | lookAround
  | propertyWritten
  | propertyUnknown
  | propertyValueUnknown
  | beyondAscii
  | brokenUtf8
  | nestTooDeep
  deriving DecidableEq, Repr

def Cause.message : Cause → String
  | groupUnclosed => "unclosed group"
  | groupUnopened => "unopened group"
  | repetitionMissing => "repetition operator missing expression"
  | countEmpty => "repetition quantifier expects a valid decimal"
  | countTooLarge => "decimal literal invalid"
  | countUnclosed => "unclosed counted repetition"
  | countOrder => "invalid repetition count range, the start must be <= the end"
  | classUnclosed => "unclosed character class"
  | classRangeOrder => "invalid character class range, the start must be <= the end"
  | classRangeBound => "invalid range boundary, must be a literal"
  | classEscape => "invalid escape sequence found in character class"
  | escapeUnknown => "unrecognized escape sequence"
  | escapeUnfinished => "incomplete escape sequence, reached end of pattern prematurely"
  | hexEmpty => "hexadecimal literal empty"
  | hexNoCharacter => "hexadecimal literal is not a Unicode scalar value"
  | hexDigit => "invalid hexadecimal digit"
  | boundaryUnclosed =>
    "special word boundary assertion is either unclosed or contains an invalid character"
  | boundaryUnknown =>
    "unrecognized special word boundary assertion, valid choices are: " ++
      "start, end, start-half or end-half"
  | boundaryOrCountUnfinished =>
    "found either the beginning of a special word boundary or a bounded repetition " ++
      "on a \\b with an opening brace, but no closing brace"
  | flagDangling => "dangling flag negation operator"
  | flagRepeated => "duplicate flag"
  | negationRepeated => "flag negation operator repeated"
  | flagUnfinished => "expected flag but got end of regex"
  | flagUnknown => "unrecognized flag"
  | nameRepeated => "duplicate capture group name"
  | nameEmpty => "empty capture group name"
  | nameCharacter => "invalid capture group character"
  | nameUnfinished => "unclosed capture group name"
  | backreference => "backreferences are not supported"
  | lookAround => "look-around, including look-ahead and look-behind, is not supported"
  | propertyWritten => "invalid Unicode character class"
  | propertyUnknown => "Unicode property not found"
  | propertyValueUnknown => "Unicode property value not found"
  | beyondAscii => "Unicode not allowed here"
  | brokenUtf8 => "pattern can match invalid UTF-8"
  | nestTooDeep => "exceed the maximum number of nested parentheses/brackets (250)"

/-- A cause, where it stands, and what it conflicts with. -/
structure Fault where
  cause : Cause
  span : Span
  other : Option Span := none
  deriving DecidableEq, Repr

/-! ## Report -/

/-- Marks under the spans of one line, `column` of its columns being passed; an empty span has one
mark. -/
def marksFrom : (column : Nat) → List Span → List Char
  | _, [] => []
  | column, span :: more =>
    let gap := span.first.column - 1 - column
    let width := max 1 (span.last.column - span.first.column)
    List.replicate gap ' ' ++ List.replicate width '^' ++ marksFrom (column + gap + width) more

/-- The line of marks under a line, behind a margin. -/
def marksUnder (margin : Nat) (spans : List Span) : List String :=
  if spans = [] then [] else [String.ofList (List.replicate margin ' ' ++ marksFrom 0 spans)]

/-- Whether a place comes before another one. -/
def Place.precedes (p q : Place) : Bool :=
  p.line < q.line || p.line == q.line && p.column < q.column

/-- The spans of a fault in the order in which they stand. -/
def Fault.spans (fault : Fault) : List Span :=
  match fault.other with
  | none => [fault.span]
  | some other =>
    if other.first.precedes fault.span.first then [other, fault.span] else [fault.span, other]

/-- The lines of a text, each behind a margin and with the marks of its spans under it. Lines have
numbers if there is more than one. -/
def annotated (text : List Char) (spans : List Span) : List String :=
  let lines := Text.lines text
  let count := lines.length + (if text.getLast? = some '\n' then 1 else 0)
  let width := if count ≤ 1 then 0 else (toString count).length
  (lines.zipIdx 1).flatMap fun (line, number) =>
    let margin :=
      if width = 0 then List.replicate 4 ' '
      else List.replicate (width - (toString number).length) ' ' ++ (toString number).toList ++
        [':', ' ']
    String.ofList (margin ++ line) ::
      marksUnder margin.length (spans.filter fun s => s.first.line = number)

/-- Where a span stands that goes over several lines. -/
def Span.described (span : Span) : String :=
  s!"on line {span.first.line} (column {span.first.column}) " ++
    s!"through line {span.last.line} (column {span.last.column - 1})"

/-- What is said of a fault in an expression: the expression with marks under the fault, then its
cause. -/
def Fault.report (text : String) (fault : Fault) : String :=
  let (inLine, spread) := fault.spans.partition fun s => s.first.line = s.last.line
  let annotated := annotated text.toList inLine
  let cause := s!"error: {fault.cause.message}"
  let divider := String.ofList (List.replicate 79 '~')
  String.intercalate "\n" ("regex parse error:" ::
    if text.toList.contains '\n' then
      [divider] ++ annotated ++ [divider] ++ spread.map Span.described ++ [cause]
    else annotated ++ [cause])

end Regex

end DocAtlas
