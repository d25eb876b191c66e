import DocAtlas.Output.Yaml.Scalar
import DocAtlas.Text.Blank

/-! # Reading YAML

A reader for documents in block style. It knows mappings and lists at any depth, a list at the column of
its key, keys behind a question mark, empty lists and objects, and scalars without quotes, between
apostrophes, between quotes and over several lines. A scalar without quotes is a text only if it is no
word for nothing or for a truth value and no number. All else that YAML has, such as comments, anchors,
tags, directives and scalars that are folded, is refused: whatever is read reads the same elsewhere.

* `Yaml.Data`, `Yaml.Reader.resolve` — what a document and a scalar without quotes say
* `Yaml.Reader.plain?`, `Yaml.Reader.singleFrom`, `Yaml.Reader.doubleFrom`, `Yaml.Reader.literal?` —
  the four ways to write a scalar
* `Yaml.Reader.node`, `Yaml.Reader.items`, `Yaml.Reader.fields`, `Yaml.Reader.field` — blocks
* `Yaml.read` — what a document says, if it is one
-/

set_option autoImplicit false

namespace DocAtlas.Yaml

inductive Data where
  | null
  | flag (b : Bool)
  | integer (n : Int)
  /-- A number that is no integer, or none that 128 bits hold, as it is written. -/
  | float (s : String)
  | text (s : String)
  | list (items : List Data)
  | object (fields : List (Data × Data))

namespace Reader

/-! ## Scalars without quotes -/

def nullWords : List String := ["", "~", "null", "Null", "NULL"]

def trueWords : List String := ["true", "True", "TRUE"]

def falseWords : List String := ["false", "False", "FALSE"]

/-- The words for numbers beyond all bounds and for what is no number. -/
def boundlessWords : List String :=
  [".inf", ".Inf", ".INF", "+.inf", "+.Inf", "+.INF", "-.inf", "-.Inf", "-.INF", ".nan", ".NaN", ".NAN"]

/-- Whether a sign stands at the front, and what comes behind it. -/
def signed : List Char → Bool × List Char
  | '-' :: rest => (true, rest)
  | '+' :: rest => (false, rest)
  | s => (false, s)

/-- Two or more digits of which the first is a zero are no number. -/
def isPadded : List Char → Bool
  | '0' :: d :: rest => d.isDigit && rest.all Char.isDigit
  | _ => false

/-- The number that digits write, behind the mark of a base or in base ten. -/
def natural? : List Char → Option Nat
  | '0' :: 'x' :: rest => digitsValue? 16 rest
  | '0' :: 'o' :: rest => digitsValue? 8 rest
  | '0' :: 'b' :: rest => digitsValue? 2 rest
  | s => if isPadded s then none else digitsValue? 10 s

/-- An integer that 128 bits can hold. -/
def integer? (s : List Char) : Option Int :=
  let (negative, digits) := signed s
  match natural? digits with
  | none => none
  | some n =>
    if negative then if n ≤ Nat.pow 2 127 then some (-n) else none
    else if n < Nat.pow 2 128 then some n else none

/-- The digits behind a point, and what comes behind them. -/
def fraction : List Char → List Char × List Char
  | '.' :: rest => (rest.takeWhile Char.isDigit, rest.dropWhile Char.isDigit)
  | rest => ([], rest)

/-- Digits with or without a point, and possibly an exponent: the digits as a number, and the power of
ten it is multiplied with. -/
def decimal? (s : List Char) : Option (Nat × Int) := do
  let (behindPoint, rest) := fraction (s.dropWhile Char.isDigit)
  let mantissa ← digitsValue? 10 (s.takeWhile Char.isDigit ++ behindPoint)
  let exponent ← exponent? rest
  return (mantissa, exponent - behindPoint.length)

/-- Whether the nearest double of a decimal number is finite: the number is less than what lies half a
step above the greatest double. -/
def fitsDouble (mantissa : Nat) (exponent : Int) : Prop :=
  mantissa * Nat.pow 10 exponent.toNat <
    (Nat.pow 2 1024 - Nat.pow 2 970) * Nat.pow 10 (-exponent).toNat

instance (mantissa : Nat) (exponent : Int) : Decidable (fitsDouble mantissa exponent) :=
  inferInstanceAs (Decidable (_ < _))

def isFloat (s : List Char) : Bool :=
  if isPadded (signed s).2 then false
  else match decimal? (signed s).2 with
    | some (mantissa, exponent) => decide (fitsDouble mantissa exponent)
    | none => false

/-- What a scalar without quotes says. -/
def resolve (s : List Char) : Data :=
  let word := String.ofList s
  if nullWords.contains word then .null
  else if trueWords.contains word then .flag true
  else if falseWords.contains word then .flag false
  else match integer? s with
    | some n => .integer n
    | none => if boundlessWords.contains word || isFloat s then .float word else .text word

/-- The characters that no scalar without quotes starts with. -/
def reserved : List Char :=
  ['#', ',', '[', ']', '\x7b', '\x7d', '&', '*', '!', '|', '>', '\x27', '"', '%', '@', '\x60']

def startsPlain : List Char → Bool
  | [] => false
  | c :: rest =>
    if c = '-' ∨ c = '?' ∨ c = ':' then !endsOrGaps rest else !isGap c && !reserved.contains c

/-- The characters of a line up to a colon that ends a key or a comment. -/
def plainFrom (before : Char) : List Char → List Char × List Char
  | [] => ([], [])
  | c :: rest =>
    if isBreak c || (c == ':' && endsOrGaps rest) || (c == '#' && isGap before) then ([], c :: rest)
    else
      let (body, behind) := plainFrom c rest
      (c :: body, behind)

def isBlank (c : Char) : Bool := c == ' ' || c == '\t'

def plain? (text : List Char) : Option (Data × List Char) :=
  match text with
  | [] => none
  | c :: rest =>
    if startsPlain text then
      let (body, behind) := plainFrom c rest
      some (resolve (Text.dropEndWhile isBlank (c :: body)), behind)
    else none

/-! ## Scalars between apostrophes or quotes -/

/-- Whether a line starts with what begins or ends a document. -/
def isMarker (line : List Char) : Bool :=
  (['-', '-', '-'].isPrefixOf line || ['.', '.', '.'].isPrefixOf line) && endsOrGaps (line.drop 3)

/-- What blanks and line ends within a scalar stand for. A single line feed is a space; blanks beside
line ends are nothing. -/
def folded (blanks breaks : List Char) : List Char :=
  match breaks with
  | [] => blanks
  | c :: more => if c = '\n' then (if more = [] then [' '] else more) else breaks

/-- The characters up to an apostrophe that is not doubled, `blanks` and `breaks` being those met since
the last character that is neither. -/
def singleFrom (blanks breaks : List Char) : List Char → Option (List Char × List Char)
  | [] => none
  | c :: rest =>
    if isBreak c then
      if isMarker rest then none else singleFrom [] (breaks ++ [c]) rest
    else if isBlank c then singleFrom (blanks ++ [c]) breaks rest
    else if c = '\x27' then
      match rest with
      | '\x27' :: rest => do
        let (body, behind) ← singleFrom [] [] rest
        return (folded blanks breaks ++ '\x27' :: body, behind)
      | rest => some (folded blanks breaks, rest)
    else do
      let (body, behind) ← singleFrom [] [] rest
      return (folded blanks breaks ++ c :: body, behind)

theorem singleFrom_break {c : Char} {text : List Char} (hbreak : isBreak c = true)
    (hmarker : isMarker text = false) (blanks breaks : List Char) :
    singleFrom blanks breaks (c :: text) = singleFrom [] (breaks ++ [c]) text := by
  rw [singleFrom.eq_def]
  simp [hbreak, hmarker]

/-- What one character behind a backslash stands for. -/
def escaped? : Char → Option Char
  | '0' => some '\x00'
  | 'a' => some '\x07'
  | 'b' => some '\x08'
  | 't' => some '\t'
  | '\t' => some '\t'
  | 'n' => some '\n'
  | 'v' => some '\x0B'
  | 'f' => some '\x0C'
  | 'r' => some '\r'
  | 'e' => some '\x1B'
  | ' ' => some ' '
  | '"' => some '"'
  | '/' => some '/'
  | '\\' => some '\\'
  | 'N' => some '\u0085'
  | '_' => some '\u00A0'
  | 'L' => some '\u2028'
  | 'P' => some '\u2029'
  | _ => none

/-- The character with a code in hexadecimal digits. -/
def coded? (digits : List Char) : Option Char := do
  let n ← digitsValue? 16 digits
  if n.isValidChar then some (Char.ofNat n) else none

/-- The characters up to the closing quote. -/
def doubleFrom (blanks breaks : List Char) : List Char → Option (List Char × List Char)
  | [] => none
  | c :: rest =>
    if isBreak c then
      if isMarker rest then none else doubleFrom [] (breaks ++ [c]) rest
    else if isBlank c then doubleFrom (blanks ++ [c]) breaks rest
    else if c = '"' then some (folded blanks breaks, rest)
    else if c = '\\' then
      match rest with
      | 'x' :: d :: e :: rest => do
        let char ← coded? [d, e]
        let (body, behind) ← doubleFrom [] [] rest
        return (folded blanks breaks ++ char :: body, behind)
      | 'u' :: d :: e :: f :: g :: rest => do
        let char ← coded? [d, e, f, g]
        let (body, behind) ← doubleFrom [] [] rest
        return (folded blanks breaks ++ char :: body, behind)
      | 'U' :: d :: e :: f :: g :: h :: i :: j :: k :: rest => do
        let char ← coded? [d, e, f, g, h, i, j, k]
        let (body, behind) ← doubleFrom [] [] rest
        return (folded blanks breaks ++ char :: body, behind)
      | d :: rest => do
        let char ← escaped? d
        let (body, behind) ← doubleFrom [] [] rest
        return (folded blanks breaks ++ char :: body, behind)
      | [] => none
    else do
      let (body, behind) ← doubleFrom [] [] rest
      return (folded blanks breaks ++ c :: body, behind)

theorem doubleFrom_letter {c d : Char} (h : escaped? d = some c) (hd : d ∉ ['x', 'u', 'U'])
    (blanks text : List Char) :
    doubleFrom blanks [] ('\\' :: d :: text) =
      (doubleFrom [] [] text).map fun p => (blanks ++ c :: p.1, p.2) := by
  rw [doubleFrom.eq_def]
  dsimp only
  rw [if_neg (by decide), if_neg (by decide), if_neg (by decide), if_pos rfl]
  split
  · rename_i heq
    exact absurd (by rw [(List.cons.inj heq).1]; decide) hd
  · rename_i heq
    exact absurd (by rw [(List.cons.inj heq).1]; decide) hd
  · rename_i heq
    exact absurd (by rw [(List.cons.inj heq).1]; decide) hd
  · rename_i heq
    obtain ⟨rfl, rfl⟩ := List.cons.inj heq
    rw [h]
    cases doubleFrom [] [] text <;> rfl
  · rename_i heq
    cases heq

/-! ## Scalars over several lines -/

/-- What becomes of the line ends at the end of a scalar. -/
inductive Chomping where
  | strip
  | clip
  | keep
  deriving DecidableEq

def Chomping.ofSign? : Char → Option Chomping
  | '-' => some strip
  | '+' => some keep
  | _ => none

/-- The indentation a digit asks for. -/
def hint? (c : Char) : Option Nat :=
  if '1' ≤ c ∧ c ≤ '9' then some (c.toNat - 48) else none

/-- What stands behind the bar: a digit, a sign, or both in any order. -/
def header? : List Char → Option (Option Nat × Chomping)
  | [] => some (none, .clip)
  | [c] =>
    ((hint? c).map fun n => (some n, .clip)) <|>
      (Chomping.ofSign? c).map fun chomp => (none, chomp)
  | [c, d] =>
    (do return (some (← hint? c), ← Chomping.ofSign? d)) <|>
      (do return (some (← hint? d), ← Chomping.ofSign? c))
  | _ => none

/-- The column of the first character that is no space, in the first line that has one. A line of spaces
counts if it is longer. -/
def firstColumn (widest column : Nat) : List Char → Nat
  | [] => max widest column
  | c :: rest =>
    if c = ' ' then firstColumn widest (column + 1) rest
    else if isBreak c then firstColumn (max widest column) 0 rest
    else max widest column

/-- The lines from `indent` on: what they say up to the last character that ends no line, the line ends
behind it, and the first line that starts left of `indent`. So many spaces as `left` are still to be
passed over on the line that starts with `line`, and `breaks` are the line ends met since the last
character. -/
def literalFrom (indent left : Nat) (line breaks : List Char) :
    List Char → List Char × List Char × List Char
  | [] => ([], breaks, [])
  | c :: rest =>
    if isBreak c then literalFrom indent indent rest (breaks ++ [c]) rest
    else match left with
      | 0 =>
        let (body, ends, behind) := literalFrom indent 0 line [] rest
        (breaks ++ c :: body, ends, behind)
      | left + 1 => if c = ' ' then literalFrom indent left line breaks rest else ([], breaks, line)

theorem literalFrom_break {c : Char} (hbreak : isBreak c = true) (indent left : Nat)
    (line breaks text : List Char) :
    literalFrom indent left line breaks (c :: text) =
      literalFrom indent indent text (breaks ++ [c]) text := by
  rw [literalFrom.eq_def]
  exact if_pos hbreak

theorem literalFrom_char {c : Char} (hbreak : isBreak c = false) (indent : Nat)
    (line breaks text : List Char) :
    literalFrom indent 0 line breaks (c :: text) =
      (breaks ++ c :: (literalFrom indent 0 line [] text).1,
        (literalFrom indent 0 line [] text).2) := by
  rw [literalFrom.eq_def]
  exact if_neg (Bool.eq_false_iff.1 hbreak)

def Chomping.apply (chomp : Chomping) (body ends : List Char) : List Char :=
  match chomp with
  | strip => body
  | clip => if body = [] then [] else body ++ ends.take 1
  | keep => body ++ ends

/-- Where the lines of a scalar start: where a digit says, or where the first of them does. -/
def literalIndent (base : Nat) (lines : List Char) : Option Nat → Nat
  | some n => base - 1 + n
  | none => max (max (firstColumn 0 0 lines) base) 1

/-- A scalar over several lines from behind its bar on. Its lines start at `base` or further right. -/
def literal? (base : Nat) (text : List Char) : Option (List Char × List Char) := do
  let (hint, chomp) ← header? (text.takeWhile (!isGap ·))
  match (text.dropWhile (!isGap ·)).dropWhile (· == ' ') with
  | [] => none
  | c :: lines =>
    if isBreak c then
      let indent := literalIndent base lines hint
      let (body, ends, behind) := literalFrom indent indent lines [] lines
      return (chomp.apply body ends, behind)
    else none

/-! ## Blocks -/

/-- The number of spaces a line starts with. -/
def indentOf (line : List Char) : Nat := (line.takeWhile (· == ' ')).length

def skipSpaces (text : List Char) : List Char := text.dropWhile (· == ' ')

/-- Whether a text starts with a mark that stands alone. -/
def opens (mark : Char) (text : List Char) : Bool := text.head? == some mark && endsOrGaps text.tail

/-- What comes behind the end of a line. -/
def endLine? (text : List Char) : Option (List Char) :=
  match skipSpaces text with
  | [] => some []
  | c :: rest => if isBreak c then some rest else none

/-- A scalar that can stand before a colon, or an empty list or object. -/
def inline? : List Char → Option (Data × List Char)
  | '[' :: ']' :: rest => some (.list [], rest)
  | '\x7b' :: '\x7d' :: rest => some (.object [], rest)
  | '\x27' :: rest => do
    let (body, behind) ← singleFrom [] [] rest
    return (.text (String.ofList body), behind)
  | '"' :: rest => do
    let (body, behind) ← doubleFrom [] [] rest
    return (.text (String.ofList body), behind)
  | text => plain? text

/-- Whether a scalar can be a key without a question mark: it stands on one line and is not too long. -/
def fitsKey (written : List Char) : Bool := !written.any isBreak && decide (written.length ≤ 1024)

mutual

/-- The value that starts at a column, up to the end of its last line. The lines of a scalar start at
`base` or further right, and no list or object starts on the line of a key unless it is `compact`. -/
def node (steps base column : Nat) (compact : Bool) (text : List Char) :
    Option (Data × List Char) :=
  match steps with
  | 0 => none
  | steps + 1 =>
    if column = 0 ∧ isMarker text = true then none
    else if opens '-' text then
      if compact then do
        let (read, rest) ← items steps column text
        return (.list read, rest)
      else none
    else if opens '?' text then
      if compact then do
        let (read, rest) ← fields steps column text
        return (.object read, rest)
      else none
    else if text.head? = some '|' then do
      let (body, rest) ← literal? base text.tail
      return (.text (String.ofList body), rest)
    else do
      let (scalar, behind) ← inline? text
      if opens ':' (skipSpaces behind) then
        if compact then
          let (read, rest) ← fields steps column text
          return (.object read, rest)
        else none
      else
        let rest ← endLine? behind
        return (scalar, rest)
termination_by structural steps

/-- The items of a list whose dashes stand in a column, from the first dash on. -/
def items (steps column : Nat) (text : List Char) : Option (List Data × List Char) :=
  match steps with
  | 0 => none
  | steps + 1 => do
    let inside := skipSpaces text.tail
    let (item, rest) ← node steps (column + 1) (column + (text.length - inside.length)) true inside
    if rest = [] then return ([item], rest)
    else if indentOf rest = column ∧ opens '-' (skipSpaces rest) = true then
      let (more, rest) ← items steps column (skipSpaces rest)
      return (item :: more, rest)
    else if indentOf rest ≤ column then return ([item], rest)
    else none
termination_by structural steps

/-- The fields of an object whose keys stand in a column, from the first key on. -/
def fields (steps column : Nat) (text : List Char) : Option (List (Data × Data) × List Char) :=
  match steps with
  | 0 => none
  | steps + 1 => do
    let (read, rest) ← field steps column text
    if rest = [] then return ([read], rest)
    else if indentOf rest = column then
      let (more, rest) ← fields steps column (skipSpaces rest)
      return (read :: more, rest)
    else if indentOf rest < column then return ([read], rest)
    else none
termination_by structural steps

/-- One field of an object whose keys stand in a column. -/
def field (steps column : Nat) (text : List Char) : Option ((Data × Data) × List Char) :=
  match steps with
  | 0 => none
  | steps + 1 =>
    if column = 0 ∧ isMarker text = true then none
    else if opens '?' text then do
      let inside := skipSpaces text.tail
      let (key, below) ← node steps (column + 1) (column + (text.length - inside.length)) true inside
      let mark := skipSpaces below
      if indentOf below = column ∧ opens ':' mark = true then
        let inside := skipSpaces mark.tail
        let (value, rest) ←
          node steps (column + 1) (column + (mark.length - inside.length)) true inside
        return ((key, value), rest)
      else none
    else do
      let (key, behind) ← inline? text
      let mark := skipSpaces behind
      if opens ':' mark = true ∧ fitsKey (text.take (text.length - mark.length)) = true then
        match skipSpaces mark.tail with
        | [] => none
        | c :: below =>
          if isBreak c then
            let start := skipSpaces below
            if column < indentOf below then
              let (value, rest) ← node steps (column + 1) (indentOf below) true start
              return ((key, value), rest)
            else if indentOf below = column ∧ opens '-' start = true then
              let (read, rest) ← items steps column start
              return ((key, .list read), rest)
            else none
          else
            let (value, rest) ← node steps (column + 1) (column + 1) false (c :: below)
            return ((key, value), rest)
      else none
termination_by structural steps
end

/-! ## Documents -/

/-- The characters a document may have. A mark for the order of bytes is not expected. -/
def isAllowed (c : Char) : Bool :=
  let n := c.toNat
  n == 0x09 || n == 0x0A || n == 0x0D || (0x20 ≤ n && n ≤ 0x7E) || n == 0x85 ||
    (0xA0 ≤ n && n ≤ 0xD7FF) || (0xE000 ≤ n && n ≤ 0xFFFD && n != 0xFEFF) || 0xFFFF < n

/-- All line ends but the separators of lines and paragraphs are line feeds. -/
def unifyBreaks : List Char → List Char
  | [] => []
  | '\r' :: '\n' :: rest => '\n' :: unifyBreaks rest
  | c :: rest => (if c = '\r' ∨ c = '\u0085' then '\n' else c) :: unifyBreaks rest

end Reader

/-- What a document says. Every list, object, field and scalar has a character of its own, so the steps
are enough. -/
def read (text : String) : Option Data := do
  if text.toList.all Reader.isAllowed then
    let (read, rest) ←
      Reader.node (3 * text.length + 3) 0 0 true (Reader.unifyBreaks text.toList)
    if rest = [] then some read else none
  else none

end DocAtlas.Yaml
