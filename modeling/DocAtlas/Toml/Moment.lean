/-! # Dates and times

* `Date`, `Clock`, `Moment` — a day, a time of day, and what a document can give of both
* `Moment.text` — the usual spelling of a moment
* `Moment.read` — the moment at the front of a text
-/

set_option autoImplicit false

namespace DocAtlas.Toml

structure Date where
  year : Nat
  month : Nat
  day : Nat
  deriving DecidableEq, Repr

structure Clock where
  hour : Nat
  minute : Nat
  second : Nat
  /-- The digits behind the point, without zeros at their end. -/
  fraction : List Char
  deriving DecidableEq, Repr

/-- A day, a time of day or both. With both there may be a distance to universal time. -/
inductive Moment where
  | day (date : Date)
  | time (clock : Clock)
  | both (date : Date) (clock : Clock)
  | universal (date : Date) (clock : Clock)
  /-- A time that is `minutes` ahead of universal time. -/
  | shifted (date : Date) (clock : Clock) (minutes : Int)
  deriving DecidableEq, Repr

/-! ## Spelling -/

/-- A number with at least `width` digits. -/
def padded (width n : Nat) : String :=
  let digits := toString n
  String.ofList (List.replicate (width - digits.length) '0') ++ digits

def Date.text (date : Date) : String :=
  s!"{padded 4 date.year}-{padded 2 date.month}-{padded 2 date.day}"

def Clock.text (clock : Clock) : String :=
  let whole := s!"{padded 2 clock.hour}:{padded 2 clock.minute}:{padded 2 clock.second}"
  if clock.fraction = [] then whole else s!"{whole}.{String.ofList clock.fraction}"

/-- The distance to universal time. None at all is written as one ahead of it. -/
def shiftText (minutes : Int) : String :=
  let distance := s!"{padded 2 (minutes.natAbs / 60)}:{padded 2 (minutes.natAbs % 60)}"
  if minutes < 0 then s!"-{distance}" else s!"+{distance}"

def Moment.text : Moment → String
  | day date => date.text
  | time clock => clock.text
  | both date clock => s!"{date.text}T{clock.text}"
  | universal date clock => s!"{date.text}T{clock.text}Z"
  | shifted date clock minutes => s!"{date.text}T{clock.text}{shiftText minutes}"

/-! ## Reading -/

/-- The number that the first `width` characters write, none unless all of them are digits and the
number lies between the bounds. -/
def number (width least greatest : Nat) (s : List Char) : Option (Nat × List Char) :=
  let front := s.take width
  let n := front.foldl (fun n c => n * 10 + (c.toNat - '0'.toNat)) 0
  if front.length = width ∧ front.all Char.isDigit = true ∧ least ≤ n ∧ n ≤ greatest then
    some (n, s.drop width)
  else none

/-- The text behind `mark`. -/
def behind (mark : Char) : List Char → Option (List Char)
  | c :: rest => if c = mark then some rest else none
  | [] => none

def isLeapYear (year : Nat) : Bool := year % 4 == 0 && (year % 100 != 0 || year % 400 == 0)

/-- The number of days in a month. -/
def daysIn (year month : Nat) : Nat :=
  if month = 2 then (if isLeapYear year then 29 else 28)
  else if month = 4 ∨ month = 6 ∨ month = 9 ∨ month = 11 then 30
  else 31

def Date.read (s : List Char) : Option (Date × List Char) := do
  let (year, s) ← number 4 0 9999 s
  let (month, s) ← number 2 1 12 (← behind '-' s)
  let (day, s) ← number 2 1 (daysIn year month) (← behind '-' s)
  some (⟨year, month, day⟩, s)

/-- The digits behind a point, of which nine count, without zeros at their end. -/
def fractionDigits : List Char → Option (List Char × List Char)
  | '.' :: rest =>
    let digits := rest.takeWhile Char.isDigit
    if digits = [] then none
    else some (((digits.take 9).reverse.dropWhile (· == '0')).reverse, rest.dropWhile Char.isDigit)
  | s => some ([], s)

def Clock.read (s : List Char) : Option (Clock × List Char) := do
  let (hour, s) ← number 2 0 23 s
  let (minute, s) ← number 2 0 59 (← behind ':' s)
  let (second, s) ← number 2 0 60 (← behind ':' s)
  let (fraction, s) ← fractionDigits s
  some (⟨hour, minute, second, fraction⟩, s)

/-- The minutes by which a time is ahead, written as hours and minutes. -/
def shift (sign : Int) (s : List Char) : Option (Int × List Char) := do
  let (hours, s) ← number 2 0 23 s
  let (minutes, s) ← number 2 0 59 (← behind ':' s)
  some (sign * (hours * 60 + minutes), s)

/-- The moment of a day and a time of day, with the distance to universal time if that follows. -/
def Moment.join (date : Date) (clock : Clock) : List Char → Option (Moment × List Char)
  | 'Z' :: rest => some (universal date clock, rest)
  | 'z' :: rest => some (universal date clock, rest)
  | '+' :: rest => (shift 1 rest).map fun (minutes, rest) => (shifted date clock minutes, rest)
  | '-' :: rest => (shift (-1) rest).map fun (minutes, rest) => (shifted date clock minutes, rest)
  | s => some (both date clock, s)

/-- Whether a character parts a day from a time of day. -/
def partsTime (c : Char) : Bool := c == 'T' || c == 't' || c == ' '

/-- The moment at the front of a text. A day that no time follows stands alone. -/
def Moment.read (s : List Char) : Option (Moment × List Char) :=
  match Date.read s with
  | none => (Clock.read s).map fun (clock, rest) => (time clock, rest)
  | some (date, rest) =>
    match rest with
    | c :: next =>
      if partsTime c then
        match Clock.read next with
        | some (clock, rest) => join date clock rest
        | none => some (day date, rest)
      else some (day date, rest)
    | [] => some (day date, [])

end DocAtlas.Toml
