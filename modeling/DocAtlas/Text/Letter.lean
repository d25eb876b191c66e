import DocAtlas.Text.CasedTable
import DocAtlas.Text.LetterTable

/-! # Letters

* `isLetter` — the characters with the property Alphabetic
* `isCased`, `isCaseIgnorable` — the properties that decide where a word ends for a final sigma
-/

set_option autoImplicit false

namespace DocAtlas.Text

/-- Whether a code point lies in one of the runs. -/
def inRanges (ranges : List (Nat × Nat)) (n : Nat) : Bool :=
  ranges.any fun (first, last) => first ≤ n && n ≤ last

/-- The characters with the property Alphabetic. -/
def isLetter (c : Char) : Bool := inRanges letterRanges c.toNat

/-- The characters with the property Cased. -/
def isCased (c : Char) : Bool := inRanges casedRanges c.toNat

/-- The characters with the property Case_Ignorable. -/
def isCaseIgnorable (c : Char) : Bool := inRanges caseIgnorableRanges c.toNat

end DocAtlas.Text
