import DocAtlas.Output.Value

/-! # JSON

* `Json.quote` — a text between quotes
* `Json.render` — a value over several lines, two spaces for each level
* `Json.document` — a value as a document
-/

set_option autoImplicit false

namespace DocAtlas.Json

/-- A character within quotes: quotes, backslashes and control characters are escaped. -/
def escape (c : Char) : List Char :=
  match c with
  | '"' => ['\\', '"']
  | '\\' => ['\\', '\\']
  | '\x08' => ['\\', 'b']
  | '\t' => ['\\', 't']
  | '\n' => ['\\', 'n']
  | '\x0C' => ['\\', 'f']
  | '\r' => ['\\', 'r']
  | c =>
    if c.toNat < 0x20 then
      ['\\', 'u', '0', '0', Nat.digitChar (c.toNat / 16), Nat.digitChar (c.toNat % 16)]
    else [c]

/-- A text between quotes. -/
def quote (s : String) : List Char := '"' :: s.toList.flatMap escape ++ ['"']

/-- The start of a line at a level. -/
def newline (level : Nat) : List Char := '\n' :: List.replicate (2 * level) ' '

mutual

/-- A value whose first line belongs to `level`. -/
def render (level : Nat) : Value → List Char
  | .text s => quote s
  | .number n => Nat.toDigits 10 n
  | .flag true => "true".toList
  | .flag false => "false".toList
  | .list [] => ['[', ']']
  | .list (item :: rest) =>
    '[' :: renderItems (level + 1) (item :: rest) ++ newline level ++ [']']
  | .object [] => ['\x7b', '\x7d']
  | .object (field :: rest) =>
    '\x7b' :: renderFields (level + 1) (field :: rest) ++ newline level ++ ['\x7d']

/-- Items on lines of their own, a comma behind all but the last. -/
def renderItems (level : Nat) : List Value → List Char
  | [] => []
  | [item] => newline level ++ render level item
  | item :: rest => newline level ++ render level item ++ ',' :: renderItems level rest

/-- Fields on lines of their own, a comma behind all but the last. -/
def renderFields (level : Nat) : List (String × Value) → List Char
  | [] => []
  | [(key, value)] => newline level ++ quote key ++ ':' :: ' ' :: render level value
  | (key, value) :: rest =>
    newline level ++ quote key ++ ':' :: ' ' :: render level value ++ ',' :: renderFields level rest

end

/-- A value as a document that ends its last line. -/
def document (value : Value) : String := String.ofList (render 0 value ++ ['\n'])

end DocAtlas.Json
