/-! # Text without terminal controls

A terminal takes some characters as orders: control characters, and sequences that an escape starts.
What is meant to be read is the rest.

* `ControlSequence` — what kind of sequence a character stands in
* `ControlSequence.next` — the kind the next character stands in
* `ControlSequence.shows` — the characters that are no orders
* `withoutControls` — what is meant to be read of a text
-/

set_option autoImplicit false

namespace DocAtlas.Text

/-- What kind of sequence a character stands in. -/
inductive ControlSequence where
  /-- None. -/
  | none
  /-- An escape was read. -/
  | escape
  /-- An escape and a character from `' '` to `'/'` were read. -/
  | designation
  /-- A control sequence, which a character from `'@'` to `'~'` ends. -/
  | control
  /-- A device control string was opened. -/
  | deviceStart
  /-- The numbers that open a device control string. -/
  | deviceNumbers
  /-- Characters from `' '` to `'/'` behind them. -/
  | deviceDesignation
  /-- A string for the device or the application, which U+009C ends. -/
  | deviceText
  /-- A command for the system, which a bell ends. -/
  | system
  deriving DecidableEq, Repr

namespace ControlSequence

/-- Whether a code point lies between two characters. -/
def isWithin (n : Nat) (first last : Char) : Bool := first.toNat ≤ n && n ≤ last.toNat

/-- The bytes of a character behind its first one. -/
def laterBytes (c : Char) : List UInt8 := (String.singleton c).toUTF8.toList.drop 1

/-- The kind of sequence behind a character. -/
def next (sequence : ControlSequence) (c : Char) : ControlSequence :=
  if c = '\x18' || c = '\x1a' then none
  else if c = '\x1b' then escape
  else
    let n := c.toNat
    match sequence with
    | none => none
    | escape =>
      if c = '[' then control
      else if c = ']' then system
      else if c = 'P' then deviceStart
      else if c = 'X' || c = '^' || c = '_' then deviceText
      else if isWithin n ' ' '/' then designation
      else if isWithin n '0' '~' then none
      else escape
    | designation => if isWithin n '0' '~' then none else designation
    | control => if isWithin n '@' '~' then none else control
    | deviceStart =>
      if isWithin n ' ' '/' then deviceDesignation
      else if isWithin n '0' '?' then deviceNumbers
      else if isWithin n '@' '~' then deviceText
      else deviceStart
    | deviceNumbers =>
      if isWithin n ' ' '/' then deviceDesignation
      else if isWithin n '<' '~' then deviceText
      else deviceNumbers
    | deviceDesignation => if isWithin n '0' '~' then deviceText else deviceDesignation
    | deviceText => if (laterBytes c).contains 0x9c then none else deviceText
    | system => if c = '\x07' then none else system

/-- The controls that move on in the text. -/
def isSpacing (c : Char) : Bool := c = '\t' || c = '\n' || c = '\x0c' || c = '\r'

/-- Whether a character in a sequence of a kind is meant to be read. -/
def shows (sequence : ControlSequence) (c : Char) : Bool :=
  match sequence with
  | none => (' '.toNat ≤ c.toNat && c != '\x7f') || isSpacing c
  | escape | designation | control => isSpacing c
  | deviceStart | deviceNumbers | deviceDesignation | deviceText | system => false

end ControlSequence

/-- What is meant to be read of a text behind the start of a sequence. A sequence in which a spacing
control stands is interrupted (`inside = false`): what follows is read, up to the next control
character, with which the sequence goes on. -/
def withoutControlsIn (sequence : ControlSequence) (inside : Bool) : List Char → List Char
  | [] => []
  | c :: rest =>
    if (if inside then sequence else .none).shows c then
      c :: withoutControlsIn (if c.toNat < 0x80 then sequence else .none) false rest
    else
      withoutControlsIn (sequence.next c) true rest

/-- What is meant to be read of a text. -/
def withoutControls (s : String) : String := String.ofList (withoutControlsIn .none true s.toList)

end DocAtlas.Text
