import DocAtlas.Regex.Nest
import DocAtlas.Regex.Simplify
import DocAtlas.Text.Blank

/-! # Reading the text of a regular expression

* `Regex.Flags` — how what follows is to be understood
* `Regex.Scan`, `Regex.Reader` — how far an expression has been read, and what reads on
* `peek?`, `skip`, `skipIdle`, `step`, `readWhile` — the steps of a reader
-/

set_option autoImplicit false

namespace DocAtlas

namespace Regex

/-- How the expression is to be understood. -/
structure Flags where
  /-- Letters stand for themselves in any case. -/
  anyCase : Bool := false
  /-- `^` and `$` hold at every line. -/
  byLine : Bool := false
  /-- A point stands for line feeds as well. -/
  pointIsAny : Bool := false
  /-- Characters beyond ASCII are known. -/
  unicode : Bool := true
  /-- Carriage returns end lines as well. -/
  returns : Bool := false
  /-- Repetitions prefer few over many, unless a question mark says otherwise. -/
  fewFirst : Bool := false
  /-- Blanks and comments stand for nothing. -/
  spaced : Bool := false
  deriving DecidableEq, Repr

/-- How far an expression has been read. -/
structure Scan where
  rest : List Char
  place : Place := {}
  flags : Flags := {}
  /-- The names of groups, and where they stand. -/
  names : List (List Char × Span) := []
  /-- How many groups with a number there are. -/
  groups : Nat := 0
  /-- The first fault of a well-formed part. One of the form, wherever it stands, comes before. -/
  late : Option Fault := none

abbrev Reader := StateT Scan (Except Fault)

/-- The scan behind the next character. -/
def Scan.skip (scan : Scan) : Scan :=
  match scan.rest with
  | [] => scan
  | c :: rest => { scan with rest := rest, place := scan.place.after c }

/-- The number of characters at the front that are blank or belong to a comment. -/
def idleLength (inComment : Bool) : List Char → Nat
  | [] => 0
  | c :: rest =>
    if inComment then idleLength (c != '\n') rest + 1
    else if Text.isBlank c then idleLength false rest + 1
    else if c = '#' then idleLength true rest + 1
    else 0

/-! ## Steps -/

def peek? : Reader (Option Char) := return (← get).rest.head?

def here : Reader Place := return (← get).place

def flags : Reader Flags := return (← get).flags

/-- The number of steps in which the expression is read to its end. -/
def remaining : Reader Nat := return (← get).rest.length + 1

/-- Passes over the next character. -/
def skip : Reader Unit := modify Scan.skip

/-- Passes over some characters. -/
def skipMany : Nat → Reader Unit
  | 0 => pure ()
  | n + 1 => do skip; skipMany n

/-- Passes over blanks and comments where they stand for nothing. -/
def skipIdle : Reader Unit := do
  if (← flags).spaced then skipMany (idleLength false (← get).rest)

/-- Passes over the next character and what stands for nothing behind it. -/
def step : Reader Unit := do skip; skipIdle

/-- Passes over a word if it comes next. -/
def accept (word : String) : Reader Bool := do
  if word.toList.isPrefixOf (← get).rest then
    skipMany word.toList.length
    return true
  else return false

/-- The characters up to the first on which `p` is false, each of them passed by `pass`. -/
def readWhile (pass : Reader Unit) (p : Char → Bool) : Nat → Reader (List Char)
  | 0 => pure []
  | fuel + 1 => do
    match ← peek? with
    | some c => if p c then do pass; return c :: (← readWhile pass p fuel) else pure []
    | none => pure []

/-! ## Faults -/

/-- The span of the next character. -/
def nextSpan : Reader Span := do
  let scan ← get
  return ⟨scan.place, scan.skip.place⟩

/-- The span from a place up to here. -/
def since (start : Place) : Reader Span := return ⟨start, ← here⟩

def fail {α : Type} (cause : Cause) (span : Span) : Reader α := throw { cause, span }

/-- Fails at the place between two characters that is reached. -/
def failHere {α : Type} (cause : Cause) : Reader α := do fail cause (← since (← here))

/-- Notes a fault of a well-formed part. -/
def note (cause : Cause) (span : Span) : Reader Unit :=
  modify fun scan => { scan with late := scan.late <|> some { cause, span } }

end Regex

end DocAtlas
