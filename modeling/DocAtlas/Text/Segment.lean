import DocAtlas.Text.Property
import DocAtlas.Text.ScriptTable

/-! # Boundaries in texts

What a character means for where a text can be cut.

* `GraphemeBreak`, `GraphemeBreak.set` — between what a reader takes for single characters
* `WordBreak`, `WordBreak.set` — between words
* `SentenceBreak`, `SentenceBreak.set` — between sentences
-/

set_option autoImplicit false

namespace DocAtlas.Text

open CharSet (between ofRuns single)
open GeneralCategory (among)
open Property (alphabeticSet graphemeExtendSet)

/-- What a character means for the boundaries between what a reader takes for single characters. -/
inductive GraphemeBreak where
  | carriageReturn
  | lineFeed
  | control
  | extend
  | joiner
  | regionalIndicator
  | prepend
  | spacingMark
  | leadingConsonant
  | vowel
  | trailingConsonant
  | openSyllable
  | closedSyllable
  deriving DecidableEq, Repr

/-- What a character means for the boundaries between words. -/
inductive WordBreak where
  | carriageReturn
  | lineFeed
  | newline
  | extend
  | joiner
  | regionalIndicator
  | format
  | katakana
  | hebrewLetter
  | letter
  | singleQuote
  | doubleQuote
  | middleAny
  | middleLetter
  | middleNumber
  | numeric
  | connector
  | space
  deriving DecidableEq, Repr

/-- What a character means for the boundaries between sentences. -/
inductive SentenceBreak where
  | carriageReturn
  | lineFeed
  | separator
  | extend
  | format
  | space
  | lower
  | upper
  | letter
  | numeric
  | fullStop
  | continuation
  | terminal
  | close
  deriving DecidableEq, Repr

/-! ## Graphemes -/

namespace GraphemeBreak

/-- The letters that come before what they belong to. -/
def prependedLetters : List (Nat × Nat) :=
  [(0xD4E, 0xD4E), (0x111C2, 0x111C3), (0x113D1, 0x113D1), (0x1193F, 0x1193F), (0x11941, 0x11941),
   (0x11A84, 0x11A89), (0x11D46, 0x11D46), (0x11F02, 0x11F02)]

/-- The spacing marks that stand on their own. -/
def detachedMarks : List (Nat × Nat) :=
  [(0x102B, 0x102C), (0x1038, 0x1038), (0x1062, 0x1064), (0x1067, 0x106D), (0x1083, 0x1083),
   (0x1087, 0x108C), (0x108F, 0x108F), (0x109A, 0x109C), (0x1A61, 0x1A61), (0x1A63, 0x1A64),
   (0xAA7B, 0xAA7B), (0xAA7D, 0xAA7D), (0x11720, 0x11721)]

/-- The formats that mark what comes before them. -/
def tags : CharSet := between 0xE0020 0xE007F

/-- The syllables without a trailing consonant, every 28th of all. -/
def openSyllables : CharSet := ofRuns (Stretch.runs ⟨0xAC00, 0xD788, 28⟩)

def extendSet : CharSet := graphemeExtendSet ∪ Property.emojiModifier.set

def prependSet : CharSet := ofRuns (prependedMarks ++ prependedLetters)

/-- The characters with a meaning. -/
def set : GraphemeBreak → CharSet
  | carriageReturn => single '\r'
  | lineFeed => single '\n'
  | control =>
    (among [.lineSeparator, .paragraphSeparator, .control, .format] ∪
      (among [.unassigned] ∩ Property.defaultIgnorableSet)) \
        (.ofChars ['\r', '\n'] ∪ between 0x200C 0x200D ∪ ofRuns prependedMarks ∪ tags)
  | extend => extendSet
  | joiner => between 0x200D 0x200D
  | regionalIndicator => Property.regionalIndicator.set
  | prepend => prependSet
  | spacingMark =>
    (among [.spacingMark] \ (graphemeExtendSet ∪ ofRuns detachedMarks)) ∪
      ofRuns [(0xE33, 0xE33), (0xEB3, 0xEB3)]
  | leadingConsonant => ofRuns [(0x1100, 0x115F), (0xA960, 0xA97C)]
  | vowel => ofRuns [(0x1160, 0x11A7), (0xD7B0, 0xD7C6), (0x16D63, 0x16D63), (0x16D67, 0x16D6A)]
  | trailingConsonant => ofRuns [(0x11A8, 0x11FF), (0xD7CB, 0xD7FB)]
  | openSyllable => openSyllables
  | closedSyllable => between 0xAC00 0xD7A3 \ openSyllables

end GraphemeBreak

/-! ## Words -/

namespace WordBreak

/-- The letters of scripts that put no blanks between words. -/
def unspacedLetters : List (Nat × Nat) :=
  [(0xE01, 0xE30), (0xE32, 0xE33), (0xE40, 0xE46), (0xE81, 0xE82), (0xE84, 0xE84), (0xE86, 0xE8A),
   (0xE8C, 0xEA3), (0xEA5, 0xEA5), (0xEA7, 0xEB0), (0xEB2, 0xEB3), (0xEBD, 0xEBD), (0xEC0, 0xEC4),
   (0xEC6, 0xEC6), (0xEDC, 0xEDF), (0x1000, 0x102A), (0x103F, 0x103F), (0x1050, 0x1055),
   (0x105A, 0x105D), (0x1061, 0x1061), (0x1065, 0x1066), (0x106E, 0x1070), (0x1075, 0x1081),
   (0x108E, 0x108E), (0x1780, 0x17B3), (0x17D7, 0x17D7), (0x17DC, 0x17DC), (0x1950, 0x196D),
   (0x1970, 0x1974), (0x1980, 0x19AB), (0x19B0, 0x19C9), (0x1A20, 0x1A54), (0x1AA7, 0x1AA7),
   (0xA9E0, 0xA9E4), (0xA9E6, 0xA9EF), (0xA9FA, 0xA9FE), (0xAA60, 0xAA76), (0xAA7A, 0xAA7A),
   (0xAA7E, 0xAAAF), (0xAAB1, 0xAAB1), (0xAAB5, 0xAAB6), (0xAAB9, 0xAABD), (0xAAC0, 0xAAC0),
   (0xAAC2, 0xAAC2), (0xAADB, 0xAADD), (0x11700, 0x1171A), (0x11740, 0x11746)]

/-- What stands for a letter without being one. -/
def letterSigns : List (Nat × Nat) :=
  [(0xB8, 0xB8), (0x2C2, 0x2C5), (0x2D2, 0x2D7), (0x2DE, 0x2DF), (0x2E5, 0x2EB), (0x2ED, 0x2ED),
   (0x2EF, 0x2FF), (0x55A, 0x55C), (0x55E, 0x55E), (0x58A, 0x58A), (0x5F3, 0x5F3), (0x70F, 0x70F),
   (0xA708, 0xA716), (0xA720, 0xA721), (0xA789, 0xA78A), (0xAB5B, 0xAB5B)]

/-- The numbers and signs of numbers that are no decimal numbers. -/
def numberSigns : List (Nat × Nat) :=
  [(0x600, 0x605), (0x66B, 0x66B), (0x6DD, 0x6DD), (0x890, 0x891), (0x8E2, 0x8E2), (0x19DA, 0x19DA),
   (0x110BD, 0x110BD), (0x110CD, 0x110CD)]

/-- The signs of a syllabary that belong to no single script, or to none. -/
def katakanaSigns : List (Nat × Nat) :=
  [(0x3031, 0x3035), (0x309B, 0x309C), (0x30A0, 0x30A0), (0x30FC, 0x30FC), (0xFF70, 0xFF70)]

def middleLetters : List (Nat × Nat) :=
  [(0x3A, 0x3A), (0xB7, 0xB7), (0x387, 0x387), (0x55F, 0x55F), (0x5F4, 0x5F4), (0x2027, 0x2027),
   (0xFE13, 0xFE13), (0xFE55, 0xFE55), (0xFF1A, 0xFF1A)]

def middleNumbers : List (Nat × Nat) :=
  [(0x2C, 0x2C), (0x3B, 0x3B), (0x37E, 0x37E), (0x589, 0x589), (0x60C, 0x60D), (0x66C, 0x66C),
   (0x7F8, 0x7F8), (0x2044, 0x2044), (0xFE50, 0xFE50), (0xFE54, 0xFE54), (0xFF0C, 0xFF0C),
   (0xFF1B, 0xFF1B)]

/-- What stands within words and within numbers. -/
def middles : List (Nat × Nat) :=
  [(0x2E, 0x2E), (0x2018, 0x2019), (0x2024, 0x2024), (0xFE52, 0xFE52), (0xFF07, 0xFF07),
   (0xFF0E, 0xFF0E)]

def extendSet : CharSet := GraphemeBreak.extendSet ∪ among [.spacingMark]

def katakanaSet : CharSet := ofRuns (katakanaScript ++ katakanaSigns)

def hebrewSet : CharSet := ofRuns hebrewScript ∩ among [.otherLetter]

def numericSet : CharSet := among [.decimalNumber] ∪ ofRuns numberSigns

/-- The formats within words. -/
def formatSet : CharSet :=
  among [.format] \ (between 0x200C 0x200D ∪ GraphemeBreak.prependSet ∪ GraphemeBreak.tags)

/-- The characters with a meaning. -/
def set : WordBreak → CharSet
  | carriageReturn => single '\r'
  | lineFeed => single '\n'
  | newline => ofRuns [(0xB, 0xC), (0x85, 0x85), (0x2028, 0x2029)]
  | extend => extendSet
  | joiner => between 0x200D 0x200D
  | regionalIndicator => Property.regionalIndicator.set
  | format => formatSet \ between 0x200B 0x200B
  | katakana => katakanaSet
  | hebrewLetter => hebrewSet
  | letter =>
    (alphabeticSet \ .unions [ofRuns ideographs, katakanaSet, ofRuns hiraganaScript, extendSet,
      hebrewSet, numericSet, ofRuns unspacedLetters]) ∪ ofRuns letterSigns
  | singleQuote => single '\x27'
  | doubleQuote => single '"'
  | middleAny => ofRuns middles
  | middleLetter => ofRuns middleLetters
  | middleNumber => ofRuns middleNumbers
  | numeric => numericSet
  | connector => among [.connectorPunctuation] ∪ between 0x202F 0x202F
  | space =>
    ofRuns [(0x20, 0x20), (0x1680, 0x1680), (0x2000, 0x2006), (0x2008, 0x200A), (0x205F, 0x205F),
      (0x3000, 0x3000)]

end WordBreak

/-! ## Sentences -/

namespace SentenceBreak

/-- Quotes and ornaments that close a sentence and are no paired punctuation. -/
def closingSigns : List (Nat × Nat) :=
  [(0x22, 0x22), (0x27, 0x27), (0x275B, 0x2760), (0x2E00, 0x2E01), (0x2E06, 0x2E08),
   (0x2E0B, 0x2E0B), (0x1F676, 0x1F678)]

def continuations : List (Nat × Nat) :=
  [(0x2C, 0x2D), (0x3A, 0x3B), (0x37E, 0x37E), (0x55D, 0x55D), (0x60C, 0x60D), (0x7F8, 0x7F8),
   (0x1802, 0x1802), (0x1808, 0x1808), (0x2013, 0x2014), (0x3001, 0x3001), (0xFE10, 0xFE11),
   (0xFE13, 0xFE14), (0xFE31, 0xFE32), (0xFE50, 0xFE51), (0xFE54, 0xFE55), (0xFE58, 0xFE58),
   (0xFE63, 0xFE63), (0xFF0C, 0xFF0D), (0xFF1A, 0xFF1B), (0xFF64, 0xFF64)]

def fullStops : List (Nat × Nat) :=
  [(0x2E, 0x2E), (0x2024, 0x2024), (0xFE52, 0xFE52), (0xFF0E, 0xFF0E)]

def separators : List (Nat × Nat) := [(0x85, 0x85), (0x2028, 0x2029)]

def extendSet : CharSet := graphemeExtendSet ∪ among [.spacingMark] ∪ between 0x200D 0x200D

def lowerSet : CharSet :=
  Property.lowercaseSet \ (graphemeExtendSet ∪ ofRuns Property.untitled)

def upperSet : CharSet :=
  (Property.uppercaseSet ∪ among [.titleLetter]) \ ofRuns [(0x1C90, 0x1CBA), (0x1CBD, 0x1CBF)]

/-- The characters with a meaning. -/
def set : SentenceBreak → CharSet
  | carriageReturn => single '\r'
  | lineFeed => single '\n'
  | separator => ofRuns separators
  | extend => extendSet
  | format => WordBreak.formatSet ∪ between 0x70F 0x70F
  | space => ofRuns Property.blanks \ (.ofChars ['\r', '\n'] ∪ ofRuns separators)
  | lower => lowerSet
  | upper => upperSet
  | letter => (alphabeticSet \ .unions [lowerSet, upperSet, extendSet]) ∪ between 0x5F3 0x5F3
  | numeric => WordBreak.numericSet ∪ between 0x66C 0x66C
  | fullStop => ofRuns fullStops
  | continuation => ofRuns continuations
  | terminal => ofRuns sentenceTerminals \ ofRuns fullStops
  | close => among GeneralCategory.pairedPunctuation ∪ ofRuns closingSigns

end SentenceBreak

end DocAtlas.Text
