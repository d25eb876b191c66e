import DocAtlas.Text.CategoryTable
import DocAtlas.Text.CharSet

/-! # General categories

* `GeneralCategory` — what kind of sign a character is
* `GeneralCategory.set`, `GeneralCategory.among` — the characters of one kind, and of several
* `GeneralCategory.letters`, `marks`, … — kinds that belong together
-/

set_option autoImplicit false

namespace DocAtlas.Text

/-- What kind of sign a character is: each has exactly one. -/
inductive GeneralCategory where
  | upperLetter
  | lowerLetter
  | titleLetter
  | modifierLetter
  | otherLetter
  | bareMark
  | spacingMark
  | enclosingMark
  | decimalNumber
  | letterNumber
  | otherNumber
  | connectorPunctuation
  | dashPunctuation
  | openPunctuation
  | closePunctuation
  | initialPunctuation
  | finalPunctuation
  | otherPunctuation
  | mathSymbol
  | currencySymbol
  | modifierSymbol
  | otherSymbol
  | spaceSeparator
  | lineSeparator
  | paragraphSeparator
  | control
  | format
  | privateUse
  | unassigned
  deriving DecidableEq, Repr

/-- The runs that a stretch consists of. -/
def Stretch.runs (s : Stretch) : List (Nat × Nat) :=
  if s.step = 1 then [(s.first, s.last)]
  else (List.range ((s.last - s.first) / s.step + 1)).map fun i =>
    (s.first + i * s.step, s.first + i * s.step)

namespace GeneralCategory

/-- The code points of a category; those of `unassigned` are the rest. -/
def stretches : GeneralCategory → List Stretch
  | upperLetter => upperLetters
  | lowerLetter => lowerLetters
  | titleLetter => titleLetters
  | modifierLetter => modifierLetters
  | otherLetter => otherLetters
  | bareMark => bareMarks
  | spacingMark => spacingMarks
  | enclosingMark => enclosingMarks
  | decimalNumber => decimalNumbers
  | letterNumber => letterNumbers
  | otherNumber => otherNumbers
  | connectorPunctuation => Text.connectorPunctuation
  | dashPunctuation => Text.dashPunctuation
  | openPunctuation => Text.openPunctuation
  | closePunctuation => Text.closePunctuation
  | initialPunctuation => Text.initialPunctuation
  | finalPunctuation => Text.finalPunctuation
  | otherPunctuation => Text.otherPunctuation
  | mathSymbol => mathSymbols
  | currencySymbol => currencySymbols
  | modifierSymbol => modifierSymbols
  | otherSymbol => otherSymbols
  | spaceSeparator => spaceSeparators
  | lineSeparator => lineSeparators
  | paragraphSeparator => paragraphSeparators
  | control => controls
  | format => formats
  | privateUse => Text.privateUse
  | unassigned => []

def casedLetters : List GeneralCategory := [upperLetter, lowerLetter, titleLetter]

def letters : List GeneralCategory := casedLetters ++ [modifierLetter, otherLetter]

def marks : List GeneralCategory := [bareMark, spacingMark, enclosingMark]

def numbers : List GeneralCategory := [decimalNumber, letterNumber, otherNumber]

/-- The punctuation that comes in pairs. -/
def pairedPunctuation : List GeneralCategory :=
  [openPunctuation, closePunctuation, initialPunctuation, finalPunctuation]

def punctuation : List GeneralCategory :=
  [connectorPunctuation, dashPunctuation, otherPunctuation] ++ pairedPunctuation

def symbols : List GeneralCategory := [mathSymbol, currencySymbol, modifierSymbol, otherSymbol]

def separators : List GeneralCategory := [spaceSeparator, lineSeparator, paragraphSeparator]

/-- The categories of the characters that a standard has given a meaning. -/
def assigned : List GeneralCategory :=
  letters ++ marks ++ numbers ++ punctuation ++ symbols ++ separators ++
    [control, format, privateUse]

/-- The characters of all the given categories but `unassigned`. -/
def gathered (categories : List GeneralCategory) : CharSet :=
  .ofRuns (categories.flatMap fun category => category.stretches.flatMap Stretch.runs)

/-- The characters of a category. -/
def set (category : GeneralCategory) : CharSet :=
  match category with
  | unassigned => .compl (gathered assigned)
  | category => gathered [category]

/-- The characters of some categories. -/
def among (categories : List GeneralCategory) : CharSet := .unions (categories.map set)

/-- The characters that a standard has given a meaning. -/
def assignedSet : CharSet := gathered assigned

end GeneralCategory

end DocAtlas.Text
