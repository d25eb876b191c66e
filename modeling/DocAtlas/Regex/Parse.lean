import DocAtlas.Regex.Automaton
import DocAtlas.Regex.Brackets

/-! # Regular expressions from their text

* `Regex.readCount` — a repetition between braces
* `Regex.readFlags`, `Regex.readGroup` — what stands behind an opening parenthesis
* `Regex.OpenGroup`, `Regex.readFrom` — a group not closed yet, and the rest of the expression
* `Regex.Refusal` — why a text writes no expression
* `Regex.parse` — the expression that a text writes
-/

set_option autoImplicit false

namespace DocAtlas

open Text (CharSet)

namespace Regex

/-! ## Repetitions -/

/-- A number, with blanks around it. -/
def readNumber : Reader (Except Fault Nat) := do
  let fuel ← remaining
  let _ ← readWhile skip Text.isBlank fuel
  let start ← here
  let digits ← readWhile step Char.isDigit fuel
  let span ← since start
  let _ ← readWhile step Text.isBlank fuel
  let value := digits.foldl (fun n d => n * 10 + (d.toNat - '0'.toNat)) 0
  if digits = [] then return .error { cause := .countEmpty, span }
  else if 0xFFFFFFFF < value then return .error { cause := .countTooLarge, span }
  else return .ok value

/-- How often something is repeated, and whether many repetitions are preferred to few. -/
structure Repetition where
  least : Nat
  most : Option Nat
  greedy : Bool

/-- Passes over a question mark, and says whether many repetitions are preferred. -/
def readGreedy : Reader Bool := do
  let marked := (← peek?) == some '?'
  if marked then skip
  return marked == (← flags).fewFirst

/-- How often something is repeated, from the brace on. -/
def readCount : Reader Repetition := do
  let start ← here
  let unfinished : Reader Unit := do
    if (← peek?).isNone then fail .countUnclosed (← since start)
  step
  unfinished
  let least ← readNumber
  unfinished
  let (least, most) ←
    if (← peek?) = some ',' then do
      step
      unfinished
      if (← peek?) = some '\x7d' then pure (← least, none)
      else do
        let least ← least
        pure (least, some (← (← readNumber)))
    else do
      let count ← least
      pure (count, some count)
  if (← peek?) != some '\x7d' then fail .countUnclosed (← since start)
  step
  let greedy ← readGreedy
  if most.any (· < least) then fail .countOrder (← since start)
  return { least, most, greedy }

/-- How often something is repeated that stands before a sign. -/
def readRepetition (sign : Char) : Reader Repetition := do
  if sign = '\x7b' then readCount
  else
    skip
    let greedy ← readGreedy
    return if sign = '?' then { least := 0, most := some 1, greedy }
      else { least := (sign == '+').toNat, most := none, greedy }

/-! ## Groups -/

/-- The flags with one set or cleared; a letter that is none leaves them. -/
def Flags.set (flags : Flags) (letter : Char) (value : Bool) : Flags :=
  match letter with
  | 'i' => { flags with anyCase := value }
  | 'm' => { flags with byLine := value }
  | 's' => { flags with pointIsAny := value }
  | 'u' => { flags with unicode := value }
  | 'R' => { flags with returns := value }
  | 'U' => { flags with fewFirst := value }
  | 'x' => { flags with spaced := value }
  | _ => flags

/-- The flags with those before a hyphen set and those behind it cleared. -/
def Flags.change (flags : Flags) (letters : List Char) : Flags :=
  let cleared := (letters.dropWhile (· != '-')).drop 1
  cleared.foldl (·.set · false) ((letters.takeWhile (· != '-')).foldl (·.set · true) flags)

/-- The letters of flags up to a colon or a closing parenthesis; `read` stand before. -/
def readFlags : Nat → List (Char × Span) → Reader (List Char)
  | 0, _ => failHere .flagUnfinished
  | fuel + 1, read => do
    match ← peek? with
    | none => failHere .flagUnfinished
    | some c =>
      if c = ':' ∨ c = ')' then
        match read.getLast? with
        | some ('-', span) => fail .flagDangling span
        | _ => return read.map (·.1)
      else
        let span ← nextSpan
        if !"imsUuRx-".toList.contains c then fail .flagUnknown span
        match read.find? (·.1 == c) with
        | some (_, earlier) =>
          let cause := if c = '-' then Cause.negationRepeated else .flagRepeated
          throw { cause, span, other := some earlier }
        | none =>
          skip
          readFlags fuel (read ++ [(c, span)])

/-- The numbers that may stand in the name of a group. The last of them are newer than the general
categories. -/
def nameNumbers : CharSet :=
  Text.GeneralCategory.among Text.GeneralCategory.numbers ∪
    .ofRuns [(0x11DE0, 0x11DE9), (0x16FF4, 0x16FF6)]

/-- Whether a character may stand in the name of a group. -/
def isNameChar (isFirst : Bool) (c : Char) : Bool :=
  c == '_' || Text.isLetter c ||
    !isFirst && (c == '.' || c == '[' || c == ']' || nameNumbers.contains c)

/-- The name of a group up to its angle bracket. -/
def readName : Reader Unit := do
  let start ← here
  let first ← readWhile skip (isNameChar true) 1
  let more ← if first = [] then pure [] else readWhile skip (isNameChar false) (← remaining)
  let span ← since start
  match ← peek? with
  | none => failHere .nameUnfinished
  | some c =>
    if c != '>' then fail .nameCharacter (← nextSpan)
    skip
    if first = [] then fail .nameEmpty span
    let name := first ++ more
    match (← get).names.find? (·.1 == name) with
    | some (_, earlier) => throw { cause := .nameRepeated, span, other := some earlier }
    | none => modify fun scan => { scan with names := (name, span) :: scan.names }

/-- What an opening parenthesis starts. -/
inductive Opening where
  /-- A group, with its number if it has one. -/
  | group (index : Option Nat)
  /-- Flags for what follows in the group around. -/
  | flags

/-- A group with the next number. -/
def numberedGroup : Reader Opening := do
  let index := (← get).groups + 1
  modify fun scan => { scan with groups := index }
  return .group (some index)

/-- Reads what an opening parenthesis starts. -/
def readGroup : Reader Opening := do
  let start ← here
  let parenthesis ← nextSpan
  step
  for word in ["?=", "?!", "?<=", "?<!"] do
    if ← accept word then fail .lookAround (← since start)
  let inner ← since (← here)
  if (← accept "?P<") || (← accept "?<") then
    readName
    numberedGroup
  else if ← accept "?" then
    if (← peek?).isNone then fail .groupUnclosed parenthesis
    let letters ← readFlags (← remaining) []
    let closed := (← peek?) == some ')'
    skip
    if closed && letters = [] then fail .repetitionMissing inner
    modify fun scan => { scan with flags := scan.flags.change letters }
    return if closed then .flags else .group none
  else
    numberedGroup

/-! ## Expressions -/

/-- What a single character outside of brackets stands for. -/
def readPrimitive (c : Char) : Reader Regex := do
  let flags ← flags
  let start ← here
  if c = '.' then
    skip
    if !flags.unicode then note .brokenUtf8 (← since start)
    let ends := if flags.returns then CharSet.union (.single '\r') (.single '\n') else .single '\n'
    return ofSet (.compl (if flags.pointIsAny then .none else ends))
  else if c = '^' then
    skip
    return .look (if flags.byLine then .lineStart flags.returns else .textStart)
  else if c = '$' then
    skip
    return .look (if flags.byLine then .lineEnd flags.returns else .textEnd)
  else
    match ← readToken c with
    | (.char c isByte, span) =>
      if !flags.unicode && isByte && 0x7F < c.toNat then note .brokenUtf8 span
      return ofSet (flags.cased (.single c))
    | (.set set, _) => return ofSet set
    | (.look anchor, _) => return .look anchor

/-- A part of an expression: what it matches, and the parts that lie in it. -/
structure Part where
  regex : Regex
  nest : Nest := {}

/-- What stands in a group beside other things. -/
structure Item where
  start : Place
  /-- The part, none for flags: they match nothing and cannot be repeated. -/
  part : Option Part

/-- The items of a group and the alternatives before them, latest first. -/
structure Branches where
  /-- Where the first alternative starts. -/
  start : Place := {}
  earlier : List Part := []
  /-- Where the alternative starts that is read. -/
  latest : Place := {}
  items : List Item := []

/-- The items one behind the other, up to a place. -/
def Branches.current (branches : Branches) (finish : Place) : Part :=
  let parts := branches.items.reverse.filterMap (·.part)
  let nest := Nest.all (parts.map (·.nest))
  { regex := .concat (parts.map (·.regex)),
    nest := if branches.items.length ≤ 1 then nest else nest.inside ⟨branches.latest, finish⟩ }

def Branches.add (branches : Branches) (start : Place) (part : Option Part) : Branches :=
  { branches with items := ⟨start, part⟩ :: branches.items }

/-- The branches with a new alternative behind a sign at a place. -/
def Branches.next (branches : Branches) (sign : Span) : Branches :=
  { branches with
    earlier := branches.current sign.first :: branches.earlier, latest := sign.last, items := [] }

/-- What the branches make up, up to a place. -/
def Branches.part (branches : Branches) (finish : Place) : Part :=
  let current := branches.current finish
  if branches.earlier.isEmpty then current
  else
    let parts := (current :: branches.earlier).reverse
    { regex := .alternation (parts.map (·.regex)),
      nest := .inside ⟨branches.start, finish⟩ (.all (parts.map (·.nest))) }

/-- A group that is not closed yet. -/
structure OpenGroup where
  parenthesis : Span
  index : Option Nat
  /-- The flags around it. -/
  flags : Flags
  /-- What comes before it in the group around. -/
  around : Branches

/-- A group that is closed. -/
def OpenGroup.closed (opened : OpenGroup) (part : Part) (finish : Place) : Part :=
  { regex := opened.index.elim part.regex fun index => .group index part.regex,
    nest := .inside ⟨opened.parenthesis.first, finish⟩ part.nest }

/-- The rest of an expression. -/
def readFrom : Nat → Branches → List OpenGroup → Reader Part
  | 0, branches, _ => return branches.part (← here)
  | fuel + 1, branches, groups => do
    skipIdle
    let start ← here
    match ← peek? with
    | none =>
      match groups with
      | [] => return branches.part start
      | opened :: _ => fail .groupUnclosed opened.parenthesis
    | some '(' =>
      let flags ← flags
      let parenthesis ← nextSpan
      match ← readGroup with
      | .flags => readFrom fuel (branches.add start none) groups
      | .group index =>
        let inner ← here
        readFrom fuel { start := inner, latest := inner }
          (⟨parenthesis, index, flags, branches⟩ :: groups)
    | some ')' =>
      match groups with
      | [] => fail .groupUnopened (← nextSpan)
      | opened :: groups =>
        skip
        modify fun scan => { scan with flags := opened.flags }
        let part := opened.closed (branches.part start) (← here)
        readFrom fuel (opened.around.add opened.parenthesis.first (some part)) groups
    | some '|' =>
      let sign ← nextSpan
      skip
      readFrom fuel (branches.next sign) groups
    | some '[' =>
      let part ← readBrackets
      readFrom fuel (branches.add start (some ⟨ofSet part.set, part.nest⟩)) groups
    | some c =>
      if "?*+\x7b".toList.contains c then
        match branches.items with
        | ⟨first, some part⟩ :: items =>
          let times ← readRepetition c
          let part : Part :=
            { regex := part.regex.times times.least times.most times.greedy,
              nest := .inside ⟨first, ← here⟩ part.nest }
          readFrom fuel { branches with items := ⟨first, some part⟩ :: items } groups
        | _ => failHere .repetitionMissing
      else
        let r ← readPrimitive c
        readFrom fuel (branches.add start (some ⟨r, {}⟩)) groups

/-! ## Refusal -/

/-- Why a text writes no expression. -/
inductive Refusal where
  | faulty (fault : Fault)
  | tooLarge
  deriving DecidableEq, Repr

/-- What is said of a text that writes no expression. -/
def Refusal.report (text : String) : Refusal → String
  | faulty fault => fault.report text
  | tooLarge => s!"Compiled regex exceeds size limit of {Automaton.room} bytes."

/-- The expression that a text writes, else why it writes none. -/
def parse (text : String) : Except Refusal Regex :=
  let reader : Reader Part := do readFrom (← remaining) {} []
  match reader.run { rest := text.toList } with
  | .error fault => .error (.faulty fault)
  | .ok (part, scan) =>
    let tooDeep := part.nest.tooDeep?.map fun span => { cause := .nestTooDeep, span : Fault }
    match tooDeep <|> scan.late with
    | some fault => .error (.faulty fault)
    | none => if part.regex.isTooLarge then .error .tooLarge else .ok part.regex

end Regex

end DocAtlas
