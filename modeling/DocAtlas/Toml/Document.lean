import DocAtlas.Toml.Moment
import DocAtlas.Toml.Quoted

/-! # Documents of texts, lists and tables

The part of the TOML notation a configuration can use: every value is a string, a list of strings,
an inline table of strings or a moment. A document with any other value is refused as a whole.

* `Value`, `Statement` — what a document is made of
* `document` — the statements of a document in order
-/

set_option autoImplicit false

namespace DocAtlas.Toml

inductive Value where
  | text (s : String)
  | list (items : List String)
  | table (fields : List (String × String))
  | moment (m : Moment)
  deriving DecidableEq, Repr

/-- One line of a document. -/
inductive Statement where
  /-- A value for a key, given by the parts between its dots. -/
  | assign (key : List String) (value : Value)
  /-- The table that the assignments from here on belong to. -/
  | header (key : List String)
  deriving DecidableEq, Repr

/-- The text behind gaps, line ends and comments. A comment may not hold control characters. -/
def skipTrivia : (inComment : Bool) → List Char → Option (List Char)
  | _, [] => some []
  | _, '\n' :: rest => skipTrivia false rest
  | _, '\r' :: '\n' :: rest => skipTrivia false rest
  | true, c :: rest => if isPlain c then skipTrivia true rest else none
  | false, c :: rest =>
    if isGap c then skipTrivia false rest
    else if c = '#' then skipTrivia true rest
    else some (c :: rest)

/-- A character of a key without quotes. -/
def isBare (c : Char) : Bool := c.isAlphanum || c == '-' || c == '_'

/-- One part of a key: without quotes, or a string on one line. -/
def keyPart : List Char → Option (String × List Char)
  | '"' :: rest => (basic rest).map fun (s, rest) => (String.ofList s, rest)
  | '\x27' :: rest => (literal rest).map fun (s, rest) => (String.ofList s, rest)
  | s =>
    match s.takeWhile isBare with
    | [] => none
    | part => some (String.ofList part, s.dropWhile isBare)

/-- The parts of a key, `fuel` of them at most, and the text behind the gap that follows. -/
def key : (fuel : Nat) → List Char → Option (List String × List Char)
  | 0, _ => none
  | fuel + 1, s => do
    let (part, rest) ← keyPart (s.dropWhile isGap)
    match rest.dropWhile isGap with
    | '.' :: rest => (key fuel rest).map fun (parts, rest) => (part :: parts, rest)
    | rest => some ([part], rest)

/-- A string as a text. -/
def textValue (s : List Char) : Option (String × List Char) :=
  (quoted s).map fun (s, rest) => (String.ofList s, rest)

/-- The strings of a list behind its opening bracket, `fuel` of them at most. -/
def listItems : (fuel : Nat) → List Char → Option (List String × List Char)
  | 0, _ => none
  | fuel + 1, s => do
    match ← skipTrivia false s with
    | ']' :: rest => some ([], rest)
    | s =>
      let (item, rest) ← textValue s
      match ← skipTrivia false rest with
      | ',' :: rest => (listItems fuel rest).map fun (items, rest) => (item :: items, rest)
      | ']' :: rest => some ([item], rest)
      | _ => none

/-- The fields of an inline table behind its opening brace or a comma, `fuel` of them at most. -/
def tableFields : (fuel : Nat) → List Char → Option (List (String × String) × List Char)
  | 0, _ => none
  | fuel + 1, s => do
    let (name, rest) ← keyPart (s.dropWhile isGap)
    match rest.dropWhile isGap with
    | '=' :: rest =>
      let (value, rest) ← textValue (rest.dropWhile isGap)
      match rest.dropWhile isGap with
      | ',' :: rest =>
        (tableFields fuel rest).map fun (fields, rest) => ((name, value) :: fields, rest)
      | '\x7d' :: rest => some ([(name, value)], rest)
      | _ => none
    | _ => none

/-- A value, from its first character on. -/
def value (s : List Char) : Option (Value × List Char) :=
  match s with
  | '[' :: rest => (listItems s.length rest).map fun (items, rest) => (.list items, rest)
  | '\x7b' :: rest =>
    match rest.dropWhile isGap with
    | '\x7d' :: rest => some (.table [], rest)
    | rest => (tableFields s.length rest).map fun (fields, rest) => (.table fields, rest)
  | '"' :: _ => (textValue s).map fun (text, rest) => (.text text, rest)
  | '\x27' :: _ => (textValue s).map fun (text, rest) => (.text text, rest)
  | s => (Moment.read s).map fun (m, rest) => (.moment m, rest)

/-- One statement and the text behind it. -/
def statement (s : List Char) : Option (Statement × List Char) :=
  match s with
  | '[' :: rest => do
    match ← key s.length rest with
    | (parts, ']' :: rest) => some (.header parts, rest)
    | _ => none
  | s => do
    match ← key s.length s with
    | (parts, '=' :: rest) => (value (rest.dropWhile isGap)).map fun (v, rest) => (.assign parts v, rest)
    | _ => none

/-- Whether nothing but a comment comes before the end of the line. -/
def atLineEnd (s : List Char) : Bool :=
  match s.dropWhile isGap with
  | [] => true
  | '#' :: _ => true
  | '\n' :: _ => true
  | '\r' :: '\n' :: _ => true
  | _ => false

/-- The statements of a document, `fuel` of them at most, each on lines of its own. -/
def statements : (fuel : Nat) → List Char → Option (List Statement)
  | 0, _ => none
  | fuel + 1, s => do
    match ← skipTrivia false s with
    | [] => some []
    | s =>
      let (first, rest) ← statement s
      if atLineEnd rest then (statements fuel rest).map (first :: ·) else none

/-- The statements of a document, which may start with a byte order mark. -/
def document (s : List Char) : Option (List Statement) :=
  match s with
  | '\uFEFF' :: rest => statements s.length rest
  | s => statements (s.length + 1) s

end DocAtlas.Toml
