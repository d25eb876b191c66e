import DocAtlas.Regex.Places
import DocAtlas.Regex.Scan
import DocAtlas.Text.Hex
import DocAtlas.Text.PropertyName

/-! # Escapes

* `Regex.Token` — what a character or an escape stands for
* `Regex.readEscape` — the token that starts with a backslash
* `Regex.readToken` — the token that comes next
-/

set_option autoImplicit false

namespace DocAtlas

open Text (CharSet GeneralCategory Property PropertyFault)

namespace Regex

/-- What a character or an escape stands for. -/
inductive Token where
  /-- A character, written as two hexadecimal digits if `isByte`. -/
  | char (c : Char) (isByte : Bool)
  | set (set : CharSet)
  | look (anchor : Anchor)

/-- The characters that have a meaning of their own. -/
def isMeta (c : Char) : Bool := "\\.+*?()|[]\x7b\x7d^$#&-~".toList.contains c

/-- The characters that stand for themselves behind a backslash: the ones with a meaning, and all
other ASCII characters but letters, digits and angle brackets. -/
def isEscapable (c : Char) : Bool :=
  isMeta c || c.toNat < 0x80 && !c.isAlphanum && c != '<' && c != '>'

/-- The set in its own case or, if asked for, in any. -/
def Flags.cased (flags : Flags) (set : CharSet) : CharSet :=
  if !flags.anyCase then set else if flags.unicode then set.anyCase else set.anyAsciiCase

/-- The complement if asked for. Without Unicode the parts of a longer character would belong to it,
which is a fault. -/
def negatedIf (negated : Bool) (set : CharSet) (span : Span) : Reader CharSet := do
  let set := if negated then .compl set else set
  if !(← flags).unicode && set.contains '\xff' then note .brokenUtf8 span
  return set

/-! ## Characters by their code -/

/-- As many hexadecimal digits as there have to be. -/
def readHexDigits : Nat → Reader (List Char)
  | 0 => pure []
  | n + 1 => do
    match ← peek? with
    | none => failHere .escapeUnfinished
    | some c =>
      if (Text.hexValue c).isNone then fail .hexDigit (← nextSpan)
      step
      return c :: (← readHexDigits n)

/-- A code between braces. -/
def readHexBraces : Reader Char := do
  let opening ← here
  let start := opening.after '\x7b'
  step
  let digits ← readWhile step (fun c => (Text.hexValue c).isSome) (← remaining)
  let finish ← here
  match ← peek? with
  | none => fail .escapeUnfinished (← since opening)
  | some c =>
    if c != '\x7d' then fail .hexDigit (← nextSpan)
    step
    if digits = [] then fail .hexEmpty (← since opening)
    match Text.coded digits with
    | some c => return c
    | none => fail .hexNoCharacter ⟨start, finish⟩

/-- A character by its code, from the letter that says how many digits there are. -/
def readHex (letter : Char) : Reader Token := do
  step
  match ← peek? with
  | none => failHere .escapeUnfinished
  | some '\x7b' => return .char (← readHexBraces) false
  | some _ =>
    let start ← here
    let count := if letter = 'x' then 2 else if letter = 'u' then 4 else 8
    let digits ← readHexDigits count
    match Text.coded digits with
    | some c => return .char c (letter = 'x')
    | none => fail .hexNoCharacter (← since start)

/-! ## Properties -/

/-- What comes before a word and what behind it, at its first place. -/
def cutAt? (word : List Char) : List Char → Option (List Char × List Char)
  | [] => none
  | c :: rest =>
    if word.isPrefixOf (c :: rest) then some ([], (c :: rest).drop word.length)
    else (cutAt? word rest).map fun (before, behind) => (c :: before, behind)

/-- The characters with the property that a text between braces names, and whether the ones without
it are meant. -/
def propertyOf (text : List Char) : Except PropertyFault CharSet × Bool :=
  match cutAt? ['!', '='] text with
  | some (name, value) => (CharSet.valued name value, true)
  | none =>
    match cutAt? [':'] text <|> cutAt? ['='] text with
    | some (name, value) => (CharSet.valued name value, false)
    | none => (CharSet.named text, false)

/-- The characters with a property, from the letter that asks for it; a capital asks for those
without. -/
def readProperty (start : Place) (letter : Char) : Reader Token := do
  step
  let text ← match ← peek? with
    | none => failHere .escapeUnfinished
    | some '\x7b' => do
      step
      let text ← readWhile step (· != '\x7d') (← remaining)
      if (← peek?).isNone then failHere .escapeUnfinished
      skip
      pure text
    | some c => do
      if c = '\\' then fail .propertyWritten (← nextSpan)
      step
      pure [c]
  let span ← since start
  if !(← flags).unicode then
    note .beyondAscii span
    return .set .none
  match propertyOf text with
  | (.ok set, negated) =>
    let set := (← flags).cased set
    return .set (if negated != (letter == 'P') then .compl set else set)
  | (.error fault, _) =>
    note (match fault with
      | .unknownName => .propertyUnknown
      | .unknownValue => .propertyValueUnknown) span
    return .set .none

/-! ## Classes and places -/

/-- The class with a letter: digits, spaces, or the characters of words. -/
def classSet (unicode : Bool) (letter : Char) : CharSet :=
  match letter.toLower with
  | 'd' => if unicode then GeneralCategory.decimalNumber.set else .digit
  | 's' => if unicode then Property.whiteSpace.set else .space
  | _ => wordSet unicode

/-- The edge of a word with a name. -/
def edge? : String → Option WordEdge
  | "start" => some .start
  | "end" => some .finish
  | "start-half" => some .startHalf
  | "end-half" => some .endHalf
  | _ => none

/-- The edge of a word that is named between braces. What starts otherwise between the braces is a
count, of which nothing is read here. -/
def readEdge (start : Place) : Reader WordEdge := do
  let isNameChar (c : Char) : Bool := c.isAlpha || c = '-'
  let before ← get
  match before.rest with
  | '\x7b' :: _ =>
    step
    let nameStart ← here
    match ← peek? with
    | none => fail .boundaryOrCountUnfinished (← since start)
    | some c =>
      if isNameChar c then
        let name ← readWhile step isNameChar (← remaining)
        let finish ← here
        if (← peek?) != some '\x7d' then fail .boundaryUnclosed (← since before.place)
        skip
        match edge? (String.ofList name) with
        | some edge => return edge
        | none => fail .boundaryUnknown ⟨nameStart, finish⟩
      else
        set before
        return .either
  | _ => return .either

/-- The control character with a letter. -/
def control? : Char → Option Char
  | 'a' => some '\x07'
  | 'f' => some '\x0c'
  | 't' => some '\t'
  | 'n' => some '\n'
  | 'r' => some '\r'
  | 'v' => some '\x0b'
  | _ => none

/-- What an escape of one letter stands for, the letter being passed. -/
def readLetter (start : Place) (c : Char) : Reader Token := do
  let unicode := (← flags).unicode
  if isEscapable c then return .char c false
  match control? c with
  | some control => return .char control false
  | none =>
    match c with
    | 'A' => return .look .textStart
    | 'z' => return .look .textEnd
    | 'b' => return .look (.word (← readEdge start) unicode)
    | 'B' => return .look (.word .neither unicode)
    | '<' => return .look (.word .start unicode)
    | '>' => return .look (.word .finish unicode)
    | _ => fail .escapeUnknown (← since start)

/-- The token that a backslash starts. -/
def readEscape : Reader Token := do
  let start ← here
  skip
  match ← peek? with
  | none => fail .escapeUnfinished (← since start)
  | some c =>
    if c.isDigit then fail .backreference ⟨start, (← nextSpan).last⟩
    else if c = 'x' ∨ c = 'u' ∨ c = 'U' then readHex c
    else if c = 'p' ∨ c = 'P' then readProperty start c
    else
      skip
      if "dDsSwW".toList.contains c then
        let span ← since start
        return .set (← negatedIf c.isUpper (classSet (← flags).unicode c) span)
      else readLetter start c

/-- The token that comes next, and where it stands. -/
def readToken (c : Char) : Reader (Token × Span) := do
  let start ← here
  let token ← if c = '\\' then readEscape else do
    skip
    pure (.char c false)
  return (token, ← since start)

end Regex

end DocAtlas
