import DocAtlas.Text.Search

/-! # Texts as YAML scalars

* `isBreak`, `isPrintable` — the classes of characters a scalar is judged by
* `readsAsOther` — texts that would be read as something else than a text
* `Style`, `styleOf` — how a text is written
-/

set_option autoImplicit false

namespace DocAtlas.Yaml

/-! ## Classes of characters -/

/-- The characters that end a line. -/
def isBreak (c : Char) : Bool :=
  c == '\n' || c == '\r' || c == '\u0085' || c == '\u2028' || c == '\u2029'

/-- The characters that may be written as they are. -/
def isPrintable (c : Char) : Bool :=
  let n := c.toNat
  n == 0x0A || (0x20 ≤ n && n ≤ 0x7E) || (0xA0 ≤ n && n ≤ 0xD7FF) ||
    (0xE000 ≤ n && n ≤ 0xFFFD && n != 0xFEFF) || 0xFFFF < n

/-- A character that keeps what comes before and behind it apart. -/
def isGap (c : Char) : Bool := c == ' ' || c == '\t' || isBreak c || c == '\x00'

/-- Whether a text is at its end or goes on with a gap. -/
def endsOrGaps : List Char → Bool
  | [] => true
  | c :: _ => isGap c

/-! ## Texts that read as something else -/

/-- The value of a digit in a base. -/
def digitValue? (base : Nat) (c : Char) : Option Nat :=
  let value :=
    if '0' ≤ c ∧ c ≤ '9' then c.toNat - '0'.toNat
    else if 'a' ≤ c ∧ c ≤ 'f' then c.toNat - 'a'.toNat + 10
    else if 'A' ≤ c ∧ c ≤ 'F' then c.toNat - 'A'.toNat + 10
    else base
  if value < base then some value else none

/-- The number that digits of a base write, none without digits or with anything else. -/
def digitsValue? (base : Nat) (s : List Char) : Option Nat :=
  if s = [] then none
  else s.foldlM (fun n c => (digitValue? base c).map (n * base + ·)) 0

/-- The base a text such as `0x` announces, and what follows. -/
def announcedBase? : List Char → Option (Nat × List Char)
  | '0' :: 'x' :: rest => some (16, rest)
  | '0' :: 'o' :: rest => some (8, rest)
  | '0' :: 'b' :: rest => some (2, rest)
  | _ => none

/-- Whether a text with an announced base is a number of at most 128 bits. -/
def isBasedInteger (s : List Char) : Bool :=
  let (limit, digits) := match s with
    | '-' :: rest => (Nat.pow 2 127 + 1, rest)
    | '+' :: rest => (Nat.pow 2 128, rest)
    | s => (Nat.pow 2 128, s)
  match announcedBase? digits with
  | some (base, rest) =>
    match digitsValue? base rest with
    | some n => n < limit
    | none => false
  | none => false

/-- An optional sign and two or more digits of which the first is 0. -/
def hasIdleZero (s : List Char) : Bool :=
  let digits := match s with
    | '-' :: rest => rest
    | '+' :: rest => rest
    | s => s
  match digits with
  | '0' :: d :: rest => (d :: rest).all Char.isDigit
  | _ => false

/-- Whether `mantissa * 10 ^ exponent` rounds to a finite double. The mantissa has `digits` digits
at most, which settles the matter without any large power where the exponent is far off. -/
def isFinite (mantissa digits : Nat) (exponent : Int) : Bool :=
  if mantissa = 0 then true
  else if digits + exponent < 308 then true
  else if exponent > 310 then false
  else
    let limit := Nat.pow 2 1024 - Nat.pow 2 970
    if 0 ≤ exponent then mantissa * Nat.pow 10 exponent.toNat < limit
    else mantissa < limit * Nat.pow 10 (-exponent).toNat

/-- The exponent of a decimal number: nothing, or `e` with an optional sign and digits. -/
def exponent? : List Char → Option Int
  | [] => some 0
  | e :: rest =>
    if e = 'e' ∨ e = 'E' then
      match rest with
      | '-' :: digits => (digitsValue? 10 digits).map fun n => -(n : Int)
      | '+' :: digits => (digitsValue? 10 digits).map fun n => (n : Int)
      | digits => (digitsValue? 10 digits).map fun n => (n : Int)
    else none

/-- Whether a text without sign is a decimal number that a double can hold: digits with or without a
point, and possibly an exponent. -/
def isUnsignedDecimal (s : List Char) : Bool :=
  let whole := s.takeWhile Char.isDigit
  let behind := s.dropWhile Char.isDigit
  let (fraction, rest) := match behind with
    | '.' :: rest => (rest.takeWhile Char.isDigit, rest.dropWhile Char.isDigit)
    | rest => ([], rest)
  match digitsValue? 10 (whole ++ fraction), exponent? rest with
  | some mantissa, some exponent =>
    isFinite mantissa (whole ++ fraction).length (exponent - fraction.length)
  | _, _ => false

/-- Whether a text is a decimal number with an optional sign. -/
def isDecimal (s : List Char) : Bool :=
  match s with
  | '-' :: rest => isUnsignedDecimal rest
  | '+' :: rest => isUnsignedDecimal rest
  | s => isUnsignedDecimal s

/-- The words for nothing, for truth values and for numbers beyond all bounds. -/
def reservedWords : List String :=
  ["", "~", "null", "Null", "NULL", "true", "True", "TRUE", "false", "False", "FALSE",
   ".inf", ".Inf", ".INF", "+.inf", "+.Inf", "+.INF", "-.inf", "-.Inf", "-.INF",
   ".nan", ".NaN", ".NAN"]

/-- Whether a text without quotes would be read as something else than a text. -/
def readsAsOther (s : List Char) : Bool :=
  reservedWords.contains (String.ofList s) || isBasedInteger s || isDecimal s || hasIdleZero s

/-! ## Styles -/

/-- The ways to write a text. -/
inductive Style where
  | plain
  | single
  | double
  | literal
  deriving DecidableEq, Repr

/-- The characters that mean something at the front of a scalar. -/
def indicators : List Char :=
  ['#', ',', '[', ']', '\x7b', '\x7d', '&', '*', '!', '|', '>', '\x27', '"', '%', '@', '\x60']

/-- Whether a character of the first list is directly followed by one of the second. -/
def hasPair (p q : Char → Bool) (s : List Char) : Bool :=
  (s.zip s.tail).any fun (a, b) => p a && q b

def isSpace (c : Char) : Bool := c == ' '

def startsWith (p : Char → Bool) (s : List Char) : Bool := (s.head?.map p).getD false

def endsWith (p : Char → Bool) (s : List Char) : Bool := (s.getLast?.map p).getD false

/-- Whether a colon behind the first character ends a key, or a `#` begins a comment. -/
def hasInnerMark : (before : Char) → List Char → Bool
  | _, [] => false
  | before, c :: rest =>
    (c == ':' && endsOrGaps rest) || (c == '#' && isGap before) || hasInnerMark c rest

/-- Whether a text starts with or holds something that has a meaning outside quotes. -/
def hasMark (s : List Char) : Bool :=
  match s with
  | [] => false
  | c :: rest =>
    ['-', '-', '-'].isPrefixOf s || ['.', '.', '.'].isPrefixOf s || indicators.contains c ||
      ((c == '?' || c == ':' || c == '-') && endsOrGaps rest) || hasInnerMark c rest

/-- Whether nothing but escapes can write a text on several lines or with odd characters. -/
def needsEscapes (s : List Char) : Bool := s.any (!isPrintable ·) || hasPair isSpace isBreak s

def allowsPlain (s : List Char) : Bool :=
  !needsEscapes s && !s.any isBreak && !startsWith isSpace s && !endsWith isSpace s && !hasMark s

def allowsSingle (s : List Char) : Bool := !needsEscapes s && !hasPair isBreak isSpace s

def allowsLiteral (s : List Char) : Bool := !needsEscapes s && !endsWith isSpace s

/-- The style a text is written in: over several lines if it has a line feed, without quotes if it is
read as a text then, and between quotes where these are not allowed. -/
def styleOf (s : List Char) : Style :=
  let quoted := if allowsSingle s then Style.single else .double
  if s.contains '\n' then (if allowsLiteral s then .literal else .double)
  else if readsAsOther s then quoted
  else if allowsPlain s then .plain
  else quoted

end DocAtlas.Yaml
