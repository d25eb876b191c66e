import DocAtlas.Output.Value
import DocAtlas.Output.Yaml.Scalar

/-! # YAML

* `Yaml.scalar` — a text in the style it needs
* `Yaml.block` — a value in block style
* `Yaml.document` — a value as a document
-/

set_option autoImplicit false

namespace DocAtlas.Yaml

/-- The start of a line. -/
def margin (indent : Nat) : List Char := List.replicate indent ' '

/-! ## Scalars -/

/-- The lines of a text with a margin before the first character of each; `atStart` tells whether the
text stands at the start of a line. -/
def withMargins (indent : Nat) : (atStart : Bool) → List Char → List Char
  | _, [] => []
  | atStart, c :: rest =>
    if isBreak c then c :: withMargins indent true rest
    else (if atStart then margin indent else []) ++ c :: withMargins indent false rest

def hexDigit (n : Nat) : Char := (Nat.digitChar n).toUpper

/-- The hexadecimal digits of a number, `width` of them. -/
def hexDigits : (width n : Nat) → List Char
  | 0, _ => []
  | width + 1, n => hexDigits width (n / 16) ++ [hexDigit (n % 16)]

/-- A character between double quotes. -/
def escape (c : Char) : List Char :=
  if c = '"' then ['\\', '"']
  else if c = '\\' then ['\\', '\\']
  else if isPrintable c && !isBreak c then [c]
  else if c = '\x00' then ['\\', '0']
  else if c = '\x07' then ['\\', 'a']
  else if c = '\x08' then ['\\', 'b']
  else if c = '\t' then ['\\', 't']
  else if c = '\n' then ['\\', 'n']
  else if c = '\x0B' then ['\\', 'v']
  else if c = '\x0C' then ['\\', 'f']
  else if c = '\r' then ['\\', 'r']
  else if c = '\x1B' then ['\\', 'e']
  else if c = '\u0085' then ['\\', 'N']
  else if c = '\u2028' then ['\\', 'L']
  else if c = '\u2029' then ['\\', 'P']
  else if c.toNat ≤ 0xFF then '\\' :: 'x' :: hexDigits 2 c.toNat
  else '\\' :: 'u' :: hexDigits 4 c.toNat

def doubleQuoted (s : List Char) : List Char := '"' :: s.flatMap escape ++ ['"']

/-- A text between apostrophes, which are doubled within. Its further lines have a margin. -/
def singleQuoted (indent : Nat) (s : List Char) : List Char :=
  let doubled := s.flatMap fun c => if c = '\x27' then ['\x27', '\x27'] else [c]
  '\x27' :: withMargins indent false doubled ++
    (if endsWith isBreak s then margin indent else []) ++ ['\x27']

/-- What tells a reader how many line ends belong to the end of the text. -/
def chomping (s : List Char) : List Char :=
  match s.reverse with
  | [] => ['-']
  | [c] => if isBreak c then ['+'] else ['-']
  | c :: d :: _ => if isBreak c then (if isBreak d then ['+'] else []) else ['-']

/-- A text over several lines, each with a margin. -/
def literal (indent : Nat) (s : List Char) : List Char :=
  let hint := if startsWith (fun c => isSpace c || isBreak c) s then ['2'] else []
  '|' :: hint ++ chomping s ++ '\n' :: withMargins indent true s

/-- A text in the style it needs; its further lines belong to `indent`. -/
def scalar (indent : Nat) (s : String) : List Char :=
  match styleOf s.toList with
  | .plain => s.toList
  | .single => singleQuoted indent s.toList
  | .double => doubleQuoted s.toList
  | .literal => literal indent s.toList

/-- A text as the end of a line: a text over several lines may have ended it itself. -/
def scalarLine (indent : Nat) (s : String) : List Char :=
  if styleOf s.toList = .literal ∧ endsWith isBreak s.toList = true then scalar indent s
  else scalar indent s ++ ['\n']

/-- Whether a key can stand on one line before a colon. -/
def isSimpleKey (key : String) : Bool := !key.toList.any isBreak && key.utf8ByteSize ≤ 128

/-! ## Blocks -/

mutual

/-- A value from the place on where it starts, up to the end of its last line. Its further lines
belong to `indent`. -/
def block (indent : Nat) : Value → List Char
  | .text s => scalarLine indent s
  | .number n => Nat.toDigits 10 n ++ ['\n']
  | .flag true => "true\n".toList
  | .flag false => "false\n".toList
  | .list [] => "[]\n".toList
  | .list (item :: rest) => '-' :: ' ' :: block (indent + 2) item ++ items indent rest
  | .object [] => ['\x7b', '\x7d', '\n']
  | .object (field :: rest) => entry indent field ++ fields indent rest

/-- Items of a list on lines of their own. -/
def items (indent : Nat) : List Value → List Char
  | [] => []
  | item :: rest => margin indent ++ '-' :: ' ' :: block (indent + 2) item ++ items indent rest

/-- A field of an object without the margin of its first line. A list below a simple key has the
margin of the key. -/
def entry (indent : Nat) : String × Value → List Char
  | (key, value) =>
    if isSimpleKey key then
      scalar (indent + 2) key ++ ':' :: (match value with
        | .list (item :: rest) =>
          '\n' :: margin indent ++ '-' :: ' ' :: block (indent + 2) item ++ items indent rest
        | .object (field :: rest) =>
          '\n' :: margin (indent + 2) ++ entry (indent + 2) field ++ fields (indent + 2) rest
        | value => ' ' :: block (indent + 2) value)
    else
      '?' :: ' ' :: scalarLine (indent + 2) key ++ margin indent ++ ':' :: ' ' ::
        block (indent + 2) value

/-- Fields of an object on lines of their own. -/
def fields (indent : Nat) : List (String × Value) → List Char
  | [] => []
  | field :: rest => margin indent ++ entry indent field ++ fields indent rest

end

/-- A value as a document. -/
def document (value : Value) : String := String.ofList (block 0 value)

end DocAtlas.Yaml
