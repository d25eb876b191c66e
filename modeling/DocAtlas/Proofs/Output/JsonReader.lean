import DocAtlas.Text.Blank

/-! # Reading JSON

A reader for all of JSON: blanks between any two marks, every escape in a text, fractions, exponents and
signs. It knows nothing of how reports are written. Objects keep the order of their fields, and a key
that is repeated keeps all its values.

* `Json.Data` — what a document says
* `Json.textBody`, `Json.number?`, `Json.value` — texts, numbers and values at the start of some text
* `Json.read` — what a document says, if it is one
* `Json.Data.Keyed` — no object repeats a key
-/

set_option autoImplicit false

namespace DocAtlas.Json

/-- A number as it is written: digits, and the power of ten they are multiplied with. -/
structure Number where
  negative : Bool := false
  digits : Nat
  exponent : Int := 0
  deriving DecidableEq, Repr

inductive Data where
  | null
  | flag (b : Bool)
  | number (n : Number)
  | text (s : String)
  | list (items : List Data)
  | object (fields : List (String × Data))

/-! ## Marks -/

def isBlank (c : Char) : Bool := c == ' ' || c == '\t' || c == '\n' || c == '\r'

def skipBlank (text : List Char) : List Char := text.dropWhile isBlank

def hexDigit? (c : Char) : Option Nat :=
  if '0' ≤ c ∧ c ≤ '9' then some (c.toNat - 48)
  else if 'a' ≤ c ∧ c ≤ 'f' then some (c.toNat - 87)
  else if 'A' ≤ c ∧ c ≤ 'F' then some (c.toNat - 55)
  else none

/-- The number that four hexadecimal digits make. -/
def unit? (a b c d : Char) : Option Nat := do
  let a ← hexDigit? a
  let b ← hexDigit? b
  let c ← hexDigit? c
  let d ← hexDigit? d
  return 0x1000 * a + 0x100 * b + 0x10 * c + d

/-! ## Texts -/

/-- What one character behind a backslash stands for. -/
def escaped? : Char → Option Char
  | '"' => some '"'
  | '\\' => some '\\'
  | '/' => some '/'
  | 'b' => some '\x08'
  | 'f' => some '\x0C'
  | 'n' => some '\n'
  | 'r' => some '\r'
  | 't' => some '\t'
  | _ => none

/-- The character that two units stand for together. -/
def paired? (high low : Nat) : Option Char :=
  if 0xD800 ≤ high ∧ high < 0xDC00 ∧ 0xDC00 ≤ low ∧ low < 0xE000 then
    some (Char.ofNat (0x10000 + 0x400 * (high - 0xD800) + (low - 0xDC00)))
  else none

/-- Whether a unit is half of a pair. -/
def isHalf (unit : Nat) : Bool := decide (0xD800 ≤ unit ∧ unit < 0xE000)

/-- The characters up to the closing quote, and what comes behind it. Control characters have to be
escaped, and half of a pair stands for nothing. -/
def textBody : List Char → Option (List Char × List Char)
  | [] => none
  | c :: rest =>
    if c = '"' then some ([], rest)
    else if c = '\\' then
      match rest with
      | [] => none
      | 'u' :: a :: b :: c :: d :: rest =>
        match unit? a b c d with
        | none => none
        | some unit =>
          if isHalf unit then
            match rest with
            | '\\' :: 'u' :: e :: f :: g :: h :: rest => do
              let char ← paired? unit (← unit? e f g h)
              let (body, rest) ← textBody rest
              return (char :: body, rest)
            | _ => none
          else do
            let (body, rest) ← textBody rest
            return (Char.ofNat unit :: body, rest)
      | c :: rest => do
        let char ← escaped? c
        let (body, rest) ← textBody rest
        return (char :: body, rest)
    else if c.toNat < 0x20 then none
    else do
      let (body, rest) ← textBody rest
      return (c :: body, rest)

/-! ## Numbers -/

def digitsOf (text : List Char) : List Char := text.takeWhile Char.isDigit

def behindDigits (text : List Char) : List Char := text.dropWhile Char.isDigit

/-- The digits behind a point, if there is one. -/
def fraction? : List Char → Option (List Char × List Char)
  | '.' :: rest => if digitsOf rest = [] then none else some (digitsOf rest, behindDigits rest)
  | rest => some ([], rest)

/-- The exponent behind a mark, if there is one. -/
def exponent? : List Char → Option (Int × List Char)
  | c :: rest =>
    if c == 'e' || c == 'E' then
      let (negative, rest) := match rest with
        | '-' :: rest => (true, rest)
        | '+' :: rest => (false, rest)
        | rest => (false, rest)
      if digitsOf rest = [] then none
      else
        let size : Int := Nat.ofDigitChars 10 (digitsOf rest) 0
        some (if negative then -size else size, behindDigits rest)
    else some (0, c :: rest)
  | [] => some (0, [])

/-- A number without its sign. No zero stands before other digits. -/
def unsigned? (negative : Bool) (text : List Char) : Option (Number × List Char) :=
  let whole := digitsOf text
  if whole = [] ∨ whole.head? = some '0' ∧ whole ≠ ['0'] then none
  else do
    let (fraction, rest) ← fraction? (behindDigits text)
    let (exponent, rest) ← exponent? rest
    return (⟨negative, Nat.ofDigitChars 10 (whole ++ fraction) 0, exponent - fraction.length⟩, rest)

def number? : List Char → Option (Number × List Char)
  | '-' :: rest => unsigned? true rest
  | rest => unsigned? false rest

/-! ## Values -/

mutual

/-- The value at the start of a text. A value within a value takes one of the `steps`, and so does an
item behind an item. -/
def value (steps : Nat) (text : List Char) : Option (Data × List Char) :=
  match steps with
  | 0 => none
  | steps + 1 =>
    match skipBlank text with
    | '"' :: rest => do
      let (body, rest) ← textBody rest
      return (.text (String.ofList body), rest)
    | '[' :: rest =>
      match skipBlank rest with
      | ']' :: rest => some (.list [], rest)
      | _ => do
        let (read, rest) ← items steps rest
        return (.list read, rest)
    | '\x7b' :: rest =>
      match skipBlank rest with
      | '\x7d' :: rest => some (.object [], rest)
      | _ => do
        let (read, rest) ← fields steps rest
        return (.object read, rest)
    | 't' :: 'r' :: 'u' :: 'e' :: rest => some (.flag true, rest)
    | 'f' :: 'a' :: 'l' :: 's' :: 'e' :: rest => some (.flag false, rest)
    | 'n' :: 'u' :: 'l' :: 'l' :: rest => some (.null, rest)
    | rest => do
      let (number, rest) ← number? rest
      return (.number number, rest)

/-- The items up to the end of a list. -/
def items (steps : Nat) (text : List Char) : Option (List Data × List Char) :=
  match steps with
  | 0 => none
  | steps + 1 => do
    let (item, rest) ← value steps text
    match skipBlank rest with
    | ',' :: rest =>
      let (more, rest) ← items steps rest
      return (item :: more, rest)
    | ']' :: rest => return ([item], rest)
    | _ => none

/-- The fields up to the end of an object. -/
def fields (steps : Nat) (text : List Char) : Option (List (String × Data) × List Char) :=
  match steps with
  | 0 => none
  | steps + 1 =>
    match skipBlank text with
    | '"' :: rest => do
      let (key, rest) ← textBody rest
      match skipBlank rest with
      | ':' :: rest =>
        let (read, rest) ← value steps rest
        match skipBlank rest with
        | ',' :: rest =>
          let (more, rest) ← fields steps rest
          return ((String.ofList key, read) :: more, rest)
        | '\x7d' :: rest => return ([(String.ofList key, read)], rest)
        | _ => none
      | _ => none
    | _ => none

end

/-! Blanks in front of a value, an item or a field do not matter. -/

theorem value_congr {s t : List Char} (h : skipBlank s = skipBlank t) (steps : Nat) :
    value steps s = value steps t := by
  cases steps with
  | zero => rw [value, value]
  | succ steps => rw [value, value, h]

theorem items_congr {s t : List Char} (h : skipBlank s = skipBlank t) (steps : Nat) :
    items steps s = items steps t := by
  cases steps with
  | zero => rw [items, items]
  | succ steps => rw [items, items, value_congr h]

theorem fields_congr {s t : List Char} (h : skipBlank s = skipBlank t) (steps : Nat) :
    fields steps s = fields steps t := by
  cases steps with
  | zero => rw [fields, fields]
  | succ steps => rw [fields, fields, h]

/-- What a document says. Every value and every item has a character of its own, so the steps are
enough. -/
def read (text : String) : Option Data := do
  let (read, rest) ← value (2 * text.length + 1) text.toList
  if skipBlank rest = [] then some read else none

example : (read " [ 1, -2.50E+1 , null ]\r\n").isSome = true := by decide +kernel

example : (read "[1,]").isNone = true ∧ (read "01").isNone = true := by decide +kernel

/-! ## Keys -/

/-- No object, at whatever depth, repeats a key. -/
inductive Data.Keyed : Data → Prop where
  | null : Keyed .null
  | flag (b : Bool) : Keyed (.flag b)
  | number (n : Number) : Keyed (.number n)
  | text (s : String) : Keyed (.text s)
  | list {items : List Data} (inside : ∀ item ∈ items, item.Keyed) : Keyed (.list items)
  | object {fields : List (String × Data)} (keys : (fields.map (·.1)).Nodup)
      (inside : ∀ field ∈ fields, field.2.Keyed) : Keyed (.object fields)

namespace Data

/-! ## Parts -/

def text? : Data → Option String
  | text s => some s
  | _ => none

def flag? : Data → Option Bool
  | flag b => some b
  | _ => none

/-- A number without a sign, a fraction or an exponent. -/
def natural? : Data → Option Nat
  | number ⟨false, n, 0⟩ => some n
  | _ => none

/-- What half of a pair stands for alone is no text. -/
example : (read "\"\\ud83d\\ude00\"").bind text? = some "😀" ∧ (read "\"\\ud83d\"").isNone = true := by
  decide +kernel

def list? : Data → Option (List Data)
  | list items => some items
  | _ => none

def fields? : Data → Option (List (String × Data))
  | object fields => some fields
  | _ => none

/-- The first value of a key. -/
def field? (data : Data) (key : String) : Option Data := do
  let fields ← data.fields?
  let field ← fields.find? (·.1 == key)
  return field.2

end Data

end DocAtlas.Json
