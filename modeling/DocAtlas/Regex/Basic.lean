import DocAtlas.Text.CharSet

/-! # Regular expressions

* `Regex.Anchor` — what has to be true of a place between two characters
* `Regex` — regular expressions
* `Regex.minLength`, `Regex.maxLength` — how many bytes an expression matches
* `Regex.reversed` — the same expression for texts that are read from the end
-/

set_option autoImplicit false

namespace DocAtlas

open Text (CharSet)

namespace Regex

/-- How a place lies to the words around it. -/
inductive WordEdge where
  /-- On one side is a word. -/
  | either
  | neither
  | start
  | finish
  /-- No word ends here. -/
  | startHalf
  /-- No word starts here. -/
  | endHalf
  deriving DecidableEq, Repr

/-- What has to be true of a place. -/
inductive Anchor where
  | textStart
  | textEnd
  /-- A line starts; with `returns` a carriage return may end the line before. -/
  | lineStart (returns : Bool)
  | lineEnd (returns : Bool)
  /-- Words consist of ASCII characters unless `unicode` is set. -/
  | word (edge : WordEdge) (unicode : Bool)
  deriving DecidableEq, Repr

end Regex

/-- A regular expression. -/
inductive Regex where
  /-- These characters, one behind the other. -/
  | text (chars : List Char)
  /-- One character of a set. -/
  | one (set : CharSet)
  | look (anchor : Regex.Anchor)
  | cat (r s : Regex)
  | either (r s : Regex)
  /-- At least `least` times, and at most `most` times if there is a limit. -/
  | repeated (r : Regex) (least : Nat) (most : Option Nat) (greedy : Bool)
  /-- A group with a number. -/
  | group (index : Nat) (r : Regex)
  deriving DecidableEq, Repr

namespace Regex

/-- The expression that matches at every place, without a character. -/
def empty : Regex := text []

/-! ## Lengths -/

/-- The number of bytes of a character. -/
def byteCount (n : Nat) : Nat :=
  if n < 0x80 then 1 else if n < 0x800 then 2 else if n < 0x10000 then 3 else 4

/-- The number of bytes of a text. -/
def byteLength (chars : List Char) : Nat := chars.foldl (fun n c => n + byteCount c.toNat) 0

/-- The least number of bytes that an expression matches behind `n` others, if it can match. -/
def minLengthFrom : Regex → Nat → Option Nat
  | text chars, n => some (n + byteLength chars)
  | one set, n => set.runs.head?.map fun run => n + byteCount run.1
  | look _, n => some n
  | cat r s, n => (minLengthFrom r n).bind (minLengthFrom s)
  | either r s, n => do return min (← minLengthFrom r n) (← minLengthFrom s n)
  | repeated r least _ _, n => (minLengthFrom r 0).map (n + · * least)
  | group _ r, n => minLengthFrom r n

/-- The greatest number of bytes that an expression matches behind `n` others, if there is one. -/
def maxLengthFrom : Regex → Nat → Option Nat
  | text chars, n => some (n + byteLength chars)
  | one set, n => set.runs.getLast?.map fun run => n + byteCount run.2
  | look _, n => some n
  | cat r s, n => (maxLengthFrom r n).bind (maxLengthFrom s)
  | either r s, n => do return max (← maxLengthFrom r n) (← maxLengthFrom s n)
  | repeated r _ most _, n => do return n + (← maxLengthFrom r 0) * (← most)
  | group _ r, n => maxLengthFrom r n

/-- The least number of bytes that an expression matches, if it can match. -/
def minLength (r : Regex) : Option Nat := minLengthFrom r 0

/-- The greatest number of bytes that an expression matches, if there is one. -/
def maxLength (r : Regex) : Option Nat := maxLengthFrom r 0

/-! ## Views -/

/-- The parts of an expression that stand one behind the other, latest first, in front of others. -/
def itemsOnto : Regex → List Regex → List Regex
  | text [], later => later
  | cat r s, later => itemsOnto s (r :: later)
  | r, later => r :: later

/-- The parts of an expression that stand one behind the other. -/
def items (r : Regex) : List Regex := (itemsOnto r []).reverse

/-- The expressions of which any can match, latest first, in front of others. -/
def alternativesOnto : Regex → List Regex → List Regex
  | either r s, later => alternativesOnto s (r :: later)
  | r, later => r :: later

/-- The expressions of which any can match. -/
def alternatives (r : Regex) : List Regex := (alternativesOnto r []).reverse

/-- An expression read from the end, in front of another one. The characters of a text stay in
order. -/
def reversedOnto : Regex → Option Regex → Regex
  | cat r s, behind => reversedOnto s (some (reversedOnto r behind))
  | either r s, behind => before (either (reversedOnto r none) (reversedOnto s none)) behind
  | repeated r least most greedy, behind =>
    before (repeated (reversedOnto r none) least most greedy) behind
  | group index r, behind => before (group index (reversedOnto r none)) behind
  | r, behind => before r behind
where
  before (r : Regex) (behind : Option Regex) : Regex := behind.elim r (cat r)

/-- The expression read from the end. -/
def reversed (r : Regex) : Regex := reversedOnto r none

end Regex

end DocAtlas
