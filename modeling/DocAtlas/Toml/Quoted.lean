import DocAtlas.Text.Hex

/-! # Quoted strings

The four ways a string is written: between quotes or apostrophes, on one line or between three of
them on several lines. Each reader starts behind the opening mark and gives the string with the
text behind the closing mark.

* `basic`, `basicLines` — strings with escapes
* `literal`, `literalLines` — strings without
* `quoted` — any of the four
-/

set_option autoImplicit false

namespace DocAtlas.Toml

/-- A space or a tab. -/
def isGap (c : Char) : Bool := c == ' ' || c == '\t'

/-- A character that may stand for itself: a tab, or any that is no control character. -/
def isPlain (c : Char) : Bool := c == '\t' || (0x20 ≤ c.toNat && c.toNat != 0x7F)

/-- The text with `c` in front of what was read. -/
def push (c : Char) (read : Option (List Char × List Char)) : Option (List Char × List Char) :=
  read.map fun (s, rest) => (c :: s, rest)

/-- The character a letter behind a backslash stands for. -/
def escaped : Char → Option Char
  | 'b' => some '\x08'
  | 't' => some '\t'
  | 'n' => some '\n'
  | 'f' => some '\x0C'
  | 'r' => some '\r'
  | '"' => some '"'
  | '\\' => some '\\'
  | _ => none

/-- A string with escapes on one line. -/
def basic : List Char → Option (List Char × List Char)
  | '"' :: rest => some ([], rest)
  | '\\' :: 'u' :: a :: b :: c :: d :: rest => do push (← Text.coded [a, b, c, d]) (basic rest)
  | '\\' :: 'U' :: a :: b :: c :: d :: e :: f :: g :: h :: rest => do
    push (← Text.coded [a, b, c, d, e, f, g, h]) (basic rest)
  | '\\' :: e :: rest => do push (← escaped e) (basic rest)
  | c :: rest => if isPlain c && c != '\\' then push c (basic rest) else none
  | [] => none

/-- A string without escapes on one line. -/
def literal : List Char → Option (List Char × List Char)
  | [] => none
  | c :: rest =>
    if c = '\x27' then some ([], rest)
    else if isPlain c then push c (literal rest)
    else none

/-- A piece of a string with escapes on several lines. -/
inductive Piece where
  /-- A character written as itself. -/
  | plain (c : Char)
  /-- A character written by an escape. -/
  | escape (c : Char)
  /-- A backslash at the end of a line. -/
  | joined

/-- Whether nothing but gaps comes before the end of the line. -/
def endsLine (s : List Char) : Bool :=
  match s.dropWhile isGap with
  | '\n' :: _ => true
  | '\r' :: '\n' :: _ => true
  | _ => false

/-- The pieces of a string with escapes on several lines. Of more than three quotes at its end, up
to two belong to the string. -/
def pieces : List Char → Option (List Piece × List Char)
  | '"' :: '"' :: '"' :: '"' :: '"' :: rest => some ([.plain '"', .plain '"'], rest)
  | '"' :: '"' :: '"' :: '"' :: rest => some ([.plain '"'], rest)
  | '"' :: '"' :: '"' :: rest => some ([], rest)
  | '\r' :: '\n' :: rest => add (.plain '\n') (pieces rest)
  | '\n' :: rest => add (.plain '\n') (pieces rest)
  | '\\' :: 'u' :: a :: b :: c :: d :: rest => do
    add (.escape (← Text.coded [a, b, c, d])) (pieces rest)
  | '\\' :: 'U' :: a :: b :: c :: d :: e :: f :: g :: h :: rest => do
    add (.escape (← Text.coded [a, b, c, d, e, f, g, h])) (pieces rest)
  | '\\' :: e :: rest =>
    if endsLine (e :: rest) then add .joined (add (.plain e) (pieces rest))
    else do add (.escape (← escaped e)) (pieces rest)
  | c :: rest => if isPlain c && c != '\\' then add (.plain c) (pieces rest) else none
  | [] => none
where
  add (piece : Piece) (read : Option (List Piece × List Char)) : Option (List Piece × List Char) :=
    read.map fun (ps, rest) => (piece :: ps, rest)

/-- The string of the pieces: behind a joined line gaps and line ends are left out. -/
def joinLines : (skipping : Bool) → List Piece → List Char
  | _, [] => []
  | _, .joined :: rest => joinLines true rest
  | _, .escape c :: rest => c :: joinLines false rest
  | skipping, .plain c :: rest =>
    if skipping && (isGap c || c == '\n' || c == '\r') then joinLines true rest
    else c :: joinLines false rest

/-- The text without a line end at its front. -/
def dropLineEnd : List Char → List Char
  | '\n' :: rest => rest
  | '\r' :: '\n' :: rest => rest
  | s => s

/-- A string with escapes on several lines. -/
def basicLines (s : List Char) : Option (List Char × List Char) :=
  (pieces (dropLineEnd s)).map fun (ps, rest) => (joinLines false ps, rest)

/-- A string without escapes on several lines. -/
def literalBody : List Char → Option (List Char × List Char)
  | '\x27' :: '\x27' :: '\x27' :: '\x27' :: '\x27' :: rest => some (['\x27', '\x27'], rest)
  | '\x27' :: '\x27' :: '\x27' :: '\x27' :: rest => some (['\x27'], rest)
  | '\x27' :: '\x27' :: '\x27' :: rest => some ([], rest)
  | '\r' :: '\n' :: rest => push '\n' (literalBody rest)
  | '\n' :: rest => push '\n' (literalBody rest)
  | c :: rest => if isPlain c then push c (literalBody rest) else none
  | [] => none

def literalLines (s : List Char) : Option (List Char × List Char) := literalBody (dropLineEnd s)

/-- A string in any of the four ways, from its opening mark on. -/
def quoted : List Char → Option (List Char × List Char)
  | '"' :: '"' :: '"' :: rest => basicLines rest
  | '"' :: rest => basic rest
  | '\x27' :: '\x27' :: '\x27' :: rest => literalLines rest
  | '\x27' :: rest => literal rest
  | _ => none

end DocAtlas.Toml
