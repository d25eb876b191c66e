import DocAtlas.Text.CaseVariants
import DocAtlas.Text.PropertyTable

/-! # Properties of characters

* `Property` — what is true of some characters
* `Property.set` — the characters of which it is true
* `wordSet` — the characters of which words consist
-/

set_option autoImplicit false

namespace DocAtlas.Text

/-- What is true of some characters. -/
inductive Property where
  | asciiHexDigit
  | alphabetic
  | bidiControl
  | bidiMirrored
  | caseIgnorable
  | cased
  | changesWhenCasefolded
  | changesWhenCasemapped
  | changesWhenLowercased
  | changesWhenTitlecased
  | changesWhenUppercased
  | dash
  | defaultIgnorable
  | deprecated
  | diacritic
  | emoji
  | emojiComponent
  | emojiModifier
  | emojiModifierBase
  | emojiPresentation
  | extendedPictographic
  | extender
  | graphemeBase
  | graphemeExtend
  | graphemeLink
  | hexDigit
  | idCompatMathContinue
  | idCompatMathStart
  | idContinue
  | idStart
  | ideographic
  | idsBinaryOperator
  | idsTrinaryOperator
  | idsUnaryOperator
  | joinControl
  | logicalOrderException
  | lowercase
  | math
  | modifierCombiningMark
  | noncharacter
  | otherAlphabetic
  | otherDefaultIgnorable
  | otherGraphemeExtend
  | otherIdContinue
  | otherIdStart
  | otherLowercase
  | otherMath
  | otherUppercase
  | patternSyntax
  | patternWhiteSpace
  | prependedConcatenationMark
  | quotationMark
  | radical
  | regionalIndicator
  | sentenceTerminal
  | softDotted
  | terminalPunctuation
  | unifiedIdeograph
  | uppercase
  | variationSelector
  | whiteSpace
  | xidContinue
  | xidStart
  deriving DecidableEq, Repr

namespace Property

open CharSet (between ofRuns)
open GeneralCategory (among)

/-- Letters, and the numbers that are letters. -/
def letterLike : CharSet := among (.letterNumber :: GeneralCategory.letters)

/-- The characters with the property Alphabetic. -/
def alphabeticSet : CharSet := letterLike ∪ ofRuns Text.otherAlphabetic

def lowercaseSet : CharSet := among [.lowerLetter] ∪ ofRuns Text.otherLowercase

def uppercaseSet : CharSet := among [.upperLetter] ∪ ofRuns Text.otherUppercase

def graphemeExtendSet : CharSet :=
  among [.bareMark, .enclosingMark] ∪ ofRuns Text.otherGraphemeExtend

def idStartSet : CharSet :=
  (letterLike ∪ ofRuns Text.otherIdStart) \ ofRuns (Text.patternSyntax ++ patternBlanks)

def idContinueSet : CharSet :=
  idStartSet ∪ among [.bareMark, .spacingMark, .decimalNumber, .connectorPunctuation] ∪
    ofRuns Text.otherIdContinue

/-- The formats that are shown, unlike the others. -/
def shownFormats : List (Nat × Nat) :=
  [(0x600, 0x605), (0x6DD, 0x6DD), (0x70F, 0x70F), (0x890, 0x891), (0x8E2, 0x8E2),
   (0xFFF9, 0xFFFB), (0x110BD, 0x110BD), (0x110CD, 0x110CD), (0x13430, 0x1343F)]

def defaultIgnorableSet : CharSet :=
  (among [.format] ∪ ofRuns (variationSelectors ++ Text.otherDefaultIgnorable)) \
    ofRuns shownFormats

/-- The punctuation that stands within words. -/
def wordPunctuation : List (Nat × Nat) :=
  [(0x27, 0x27), (0x2E, 0x2E), (0x3A, 0x3A), (0xB7, 0xB7), (0x387, 0x387), (0x55F, 0x55F),
   (0x5F4, 0x5F4), (0x2018, 0x2019), (0x2024, 0x2024), (0x2027, 0x2027), (0xFE13, 0xFE13),
   (0xFE52, 0xFE52), (0xFE55, 0xFE55), (0xFF07, 0xFF07), (0xFF0E, 0xFF0E), (0xFF1A, 0xFF1A)]

/-- The letters that titles keep, though they have an uppercase form. -/
def untitled : List (Nat × Nat) := [(0x10D0, 0x10FA), (0x10FD, 0x10FF)]

/-- The characters that are two capitals, of which titles keep the first. -/
def digraphs : List (Nat × Nat) :=
  [(0x1C4, 0x1C4), (0x1C7, 0x1C7), (0x1CA, 0x1CA), (0x1F1, 0x1F1)]

def titled : CharSet :=
  (uppered \ (among [.titleLetter] ∪ ofRuns untitled)) ∪ ofRuns digraphs

/-- The characters with the property White_Space. -/
def blanks : List (Nat × Nat) :=
  [(0x09, 0x0D), (0x20, 0x20), (0x85, 0x85), (0xA0, 0xA0), (0x1680, 0x1680), (0x2000, 0x200A),
   (0x2028, 0x2029), (0x202F, 0x202F), (0x205F, 0x205F), (0x3000, 0x3000)]

/-- The characters of which a property is true. -/
def set : Property → CharSet
  | asciiHexDigit => .hex
  | alphabetic => alphabeticSet
  | bidiControl => ofRuns bidiControls
  | bidiMirrored => ofRuns mirrored
  | caseIgnorable =>
    among [.bareMark, .enclosingMark, .format, .modifierLetter, .modifierSymbol] ∪
      ofRuns wordPunctuation
  | cased => lowercaseSet ∪ uppercaseSet ∪ among [.titleLetter]
  | changesWhenCasefolded => (lowered \ between 0x13A0 0x13F5) ∪ ofRuns foldedOnly
  | changesWhenCasemapped => lowered ∪ uppered ∪ titled
  | changesWhenLowercased => lowered
  | changesWhenTitlecased => titled
  | changesWhenUppercased => uppered
  | dash => ofRuns dashes
  | defaultIgnorable => defaultIgnorableSet
  | deprecated => ofRuns deprecatedChars
  | diacritic => ofRuns diacritics
  | emoji => ofRuns Text.emoji
  | emojiComponent => ofRuns emojiComponents
  | emojiModifier => between 0x1F3FB 0x1F3FF
  | emojiModifierBase => ofRuns emojiBases
  | emojiPresentation => ofRuns shownEmoji
  | extendedPictographic => ofRuns pictographs
  | extender => ofRuns extenders
  | graphemeBase =>
    .compl (among [.control, .format, .unassigned, .privateUse, .lineSeparator,
      .paragraphSeparator] ∪ graphemeExtendSet)
  | graphemeExtend => graphemeExtendSet
  | graphemeLink => ofRuns graphemeLinks
  | hexDigit => ofRuns hexDigits
  | idCompatMathContinue => ofRuns mathContinue
  | idCompatMathStart => ofRuns mathStart
  | idContinue => idContinueSet
  | idStart => idStartSet
  | ideographic => ofRuns ideographs
  | idsBinaryOperator => ofRuns binaryDescriptors
  | idsTrinaryOperator => between 0x2FF2 0x2FF3
  | idsUnaryOperator => between 0x2FFE 0x2FFF
  | joinControl => between 0x200C 0x200D
  | logicalOrderException => ofRuns logicalExceptions
  | lowercase => lowercaseSet
  | math => among [.mathSymbol] ∪ ofRuns Text.otherMath
  | modifierCombiningMark => ofRuns combiningModifiers
  | noncharacter => ofRuns noncharacters
  | otherAlphabetic => ofRuns Text.otherAlphabetic
  | otherDefaultIgnorable => ofRuns Text.otherDefaultIgnorable
  | otherGraphemeExtend => ofRuns Text.otherGraphemeExtend
  | otherIdContinue => ofRuns Text.otherIdContinue
  | otherIdStart => ofRuns Text.otherIdStart
  | otherLowercase => ofRuns Text.otherLowercase
  | otherMath => ofRuns Text.otherMath
  | otherUppercase => ofRuns Text.otherUppercase
  | patternSyntax => ofRuns Text.patternSyntax
  | patternWhiteSpace => ofRuns patternBlanks
  | prependedConcatenationMark => ofRuns prependedMarks
  | quotationMark => ofRuns quotationMarks
  | radical => ofRuns radicals
  | regionalIndicator => between 0x1F1E6 0x1F1FF
  | sentenceTerminal => ofRuns sentenceTerminals
  | softDotted => ofRuns Text.softDotted
  | terminalPunctuation => ofRuns (sentenceTerminals ++ otherTerminals)
  | unifiedIdeograph => ofRuns unifiedIdeographs
  | uppercase => uppercaseSet
  | variationSelector => ofRuns variationSelectors
  | whiteSpace => ofRuns blanks
  | xidContinue => idContinueSet \ ofRuns unstableContinue
  | xidStart => idStartSet \ ofRuns unstableStart

end Property

/-- The characters of which words consist: letters, marks, digits, connecting punctuation and the
two joiners. -/
def wordSet : CharSet :=
  Property.alphabeticSet ∪
    GeneralCategory.among (GeneralCategory.marks ++ [.decimalNumber, .connectorPunctuation]) ∪
      Property.joinControl.set

end DocAtlas.Text
