import DocAtlas.Regex.Escape

/-! # Bracketed sets

A bracketed set lists characters, ranges, classes and other bracketed sets. Two such lists can be
joined by `&&`, `--` and `~~`, from left to right.

* `Regex.SetPart` — a part of a bracketed set
* `Regex.SetOp`, `Regex.OpenBracket` — how two lists are joined, and a bracket not closed yet
* `Regex.readBrackets` — the set that starts with a bracket
-/

set_option autoImplicit false

namespace DocAtlas

open Text (CharSet)

namespace Regex

/-- A part of a bracketed set: its characters, where it stands, and the parts that lie in it. -/
structure SetPart where
  set : CharSet
  span : Span
  nest : Nest := {}

/-- How two lists are joined. -/
inductive SetOp where
  | inter
  | diff
  | symmDiff

def SetOp.apply : SetOp → CharSet → CharSet → CharSet
  | inter => .inter
  | diff => .diff
  | symmDiff => .symmDiff

/-- A bracket that is not closed yet. -/
structure OpenBracket where
  /-- What opens it. -/
  span : Span
  negated : Bool
  /-- The lists that are complete, and how the one that is read joins them. -/
  held : Option (SetPart × SetOp) := none
  /-- Where the list that is read starts. -/
  start : Place
  /-- What the list that is read holds so far, latest first. -/
  list : List SetPart := []

/-- The bracket with something more in its list. -/
def OpenBracket.add (bracket : OpenBracket) (part : SetPart) : OpenBracket :=
  { bracket with list := part :: bracket.list }

/-- The list that is read. With several members it is a part of its own. -/
def OpenBracket.listed (bracket : OpenBracket) : SetPart :=
  match bracket.list.reverse, bracket.list with
  | [part], _ => part
  | first :: _, last :: _ =>
    let span := ⟨first.span.first, last.span.last⟩
    { set := .unions (bracket.list.map (·.set)), span,
      nest := .inside span (.all (bracket.list.reverse.map (·.nest))) }
  | _, _ => { set := .none, span := ⟨bracket.start, bracket.start⟩ }

/-- All lists so far. -/
def OpenBracket.joined (bracket : OpenBracket) (flags : Flags) : SetPart :=
  let right := bracket.listed
  match bracket.held with
  | none => right
  | some (left, op) =>
    let span := ⟨left.span.first, right.span.last⟩
    { set := op.apply (flags.cased left.set) (flags.cased right.set), span,
      nest := .inside span (left.nest.beside right.nest) }

/-- The bracket with a new list, which joins those before. -/
def OpenBracket.next (bracket : OpenBracket) (flags : Flags) (op : SetOp) (start : Place) :
    OpenBracket :=
  { bracket with held := some (bracket.joined flags, op), start, list := [] }

/-! ## Items -/

/-- A character of a list. Without Unicode it has to be an ASCII character. -/
def asciiIfBytes (c : Char) (isByte : Bool) (span : Span) : Reader Char := do
  if !(← flags).unicode && 0x7F < c.toNat then
    note (if isByte then .brokenUtf8 else .beyondAscii) span
  return c

/-- One end of a range. -/
def readBound : Token × Span → Reader (Char × Bool × Span)
  | (.char c isByte, span) => return (c, isByte, span)
  | (_, span) => fail .classRangeBound span

/-- Whether a hyphen in front of a text stands for itself: it does before the end of the list and
before another hyphen. -/
def isPlainHyphen (spaced : Bool) (behind : List Char) : Bool :=
  let behind :=
    if spaced then
      match behind.dropWhile Text.isBlank with
      | '#' :: rest => rest.dropWhile Text.isBlank
      | rest => rest
    else behind
  behind.head? == some ']' || behind.head? == some '-'

/-- A character, a class, or a range in a list that starts with `c`. -/
def readItem (unclosed : Span) (c : Char) : Reader SetPart := do
  let first ← readToken c
  skipIdle
  match (← get).rest with
  | [] => fail .classUnclosed unclosed
  | d :: behind =>
    if d != '-' || isPlainHyphen (← flags).spaced behind then
      match first with
      | (.char c isByte, span) => return { set := .single (← asciiIfBytes c isByte span), span }
      | (.set set, span) => return { set, span }
      | (.look _, span) => fail .classEscape span
    else
      step
      match ← peek? with
      | none => fail .classUnclosed unclosed
      | some e =>
        let second ← readToken e
        let (a, aIsByte, aSpan) ← readBound first
        let (b, bIsByte, bSpan) ← readBound second
        let span := ⟨aSpan.first, bSpan.last⟩
        if b < a then fail .classRangeOrder span
        let a ← asciiIfBytes a aIsByte aSpan
        let b ← asciiIfBytes b bIsByte bSpan
        return { set := .span a b, span }

/-- The name between `[:` and `:]` at the front, whether it is negated, and its length with them. -/
def posixName? : List Char → Option (String × Bool × Nat)
  | '[' :: ':' :: rest =>
    let negated := rest.head? == some '^'
    let rest := if negated then rest.drop 1 else rest
    let name := rest.takeWhile (· != ':')
    if [':', ']'].isPrefixOf (rest.drop name.length) then
      some (String.ofList name, negated, name.length + 4 + negated.toNat)
    else none
  | _ => none

/-- The set with a name between `[:` and `:]`, if that comes next. -/
def readPosix? : Reader (Option SetPart) := do
  let start ← here
  match posixName? (← get).rest with
  | none => return none
  | some (name, negated, length) =>
    match CharSet.posix? name with
    | none => return none
    | some set =>
      skipMany length
      let span ← since start
      return some { set := ← negatedIf negated ((← flags).cased set) span, span }

/-! ## Brackets -/

/-- The hyphens that come next. -/
def readHyphens (start : Place) : Nat → Reader (List SetPart)
  | 0 => return []
  | fuel + 1 => do
    if (← peek?) != some '-' then return []
    let span ← nextSpan
    step
    if (← peek?).isNone then fail .classUnclosed ⟨start, start⟩
    return { set := .single '-', span } :: (← readHyphens start fuel)

/-- An opening bracket. Behind it hyphens stand for themselves, and so does a closing bracket. -/
def readOpening : Reader OpenBracket := do
  let start ← here
  let more : Reader Unit := do
    step
    if (← peek?).isNone then fail .classUnclosed (← since start)
  more
  let negated := (← peek?) == some '^'
  if negated then more
  let listStart ← here
  let hyphens ← readHyphens start (← remaining)
  let closing ←
    if hyphens.isEmpty && (← peek?) == some ']' then
      let span ← nextSpan
      more
      pure [{ set := .single ']', span : SetPart }]
    else pure []
  return { span := ← since start, negated, start := listStart, list := closing ++ hyphens.reverse }

/-- Closes a bracket. -/
def close (bracket : OpenBracket) : Reader SetPart := do
  skip
  let flags ← flags
  let span ← since bracket.span.first
  let joined := bracket.joined flags
  let set ← negatedIf bracket.negated (flags.cased joined.set) span
  return { set, span, nest := .inside span joined.nest }

/-- Reads on in a bracket that stands in others, nearest first. -/
def readLists : Nat → OpenBracket → List OpenBracket → Reader SetPart
  | 0, bracket, _ => fail .classUnclosed bracket.span
  | fuel + 1, bracket, outer => do
    skipIdle
    let join (op : SetOp) : Reader SetPart := do
      skipMany 2
      readLists fuel (bracket.next (← flags) op (← here)) outer
    match (← get).rest with
    | [] => fail .classUnclosed bracket.span
    | '[' :: _ =>
      match ← readPosix? with
      | some part => readLists fuel (bracket.add part) outer
      | none => readLists fuel (← readOpening) (bracket :: outer)
    | ']' :: _ =>
      let part ← close bracket
      match outer with
      | [] => return part
      | around :: outer => readLists fuel (around.add part) outer
    | '&' :: '&' :: _ => join .inter
    | '-' :: '-' :: _ => join .diff
    | '~' :: '~' :: _ => join .symmDiff
    | c :: _ => readLists fuel (bracket.add (← readItem bracket.span c)) outer

/-- The set that starts with the bracket that comes next. -/
def readBrackets : Reader SetPart := do
  readLists (← remaining) (← readOpening) []

end Regex

end DocAtlas
