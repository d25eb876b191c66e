import DocAtlas.Text.AgeTable
import DocAtlas.Text.Segment

/-! # Names of properties

* `PropertyFault` — why a name stands for no characters
* `propertyNames`, `categoryNames`, … — what there are names for
* `plainName` — a name without what does not tell names apart
* `CharSet.named`, `CharSet.valued` — the characters that a name stands for, alone or with a value
-/

set_option autoImplicit false

namespace DocAtlas.Text

/-- Why a name stands for no characters. -/
inductive PropertyFault where
  | unknownName
  | unknownValue
  deriving DecidableEq, Repr

/-! ## Properties without values -/

/-- The names of the properties that are true of some characters. -/
def propertyNames : List (List String × Property) :=
  [(["ahex", "asciihexdigit"], .asciiHexDigit), (["alpha", "alphabetic"], .alphabetic),
   (["bidic", "bidicontrol"], .bidiControl), (["bidim", "bidimirrored"], .bidiMirrored),
   (["ci", "caseignorable"], .caseIgnorable), (["cased"], .cased),
   (["cwcf", "changeswhencasefolded"], .changesWhenCasefolded),
   (["cwcm", "changeswhencasemapped"], .changesWhenCasemapped),
   (["cwl", "changeswhenlowercased"], .changesWhenLowercased),
   (["cwt", "changeswhentitlecased"], .changesWhenTitlecased),
   (["cwu", "changeswhenuppercased"], .changesWhenUppercased), (["dash"], .dash),
   (["di", "defaultignorablecodepoint"], .defaultIgnorable), (["dep", "deprecated"], .deprecated),
   (["dia", "diacritic"], .diacritic), (["emoji"], .emoji),
   (["ecomp", "emojicomponent"], .emojiComponent), (["emod", "emojimodifier"], .emojiModifier),
   (["ebase", "emojimodifierbase"], .emojiModifierBase),
   (["epres", "emojipresentation"], .emojiPresentation),
   (["extpict", "extendedpictographic"], .extendedPictographic), (["ext", "extender"], .extender),
   (["grbase", "graphemebase"], .graphemeBase), (["grext", "graphemeextend"], .graphemeExtend),
   (["grlink", "graphemelink"], .graphemeLink), (["hex", "hexdigit"], .hexDigit),
   (["idcompatmathcontinue"], .idCompatMathContinue), (["idcompatmathstart"], .idCompatMathStart),
   (["idc", "idcontinue"], .idContinue), (["ids", "idstart"], .idStart),
   (["ideo", "ideographic"], .ideographic), (["idsb", "idsbinaryoperator"], .idsBinaryOperator),
   (["idst", "idstrinaryoperator"], .idsTrinaryOperator),
   (["idsu", "idsunaryoperator"], .idsUnaryOperator), (["joinc", "joincontrol"], .joinControl),
   (["loe", "logicalorderexception"], .logicalOrderException),
   (["lower", "lowercase"], .lowercase), (["math"], .math),
   (["mcm", "modifiercombiningmark"], .modifierCombiningMark),
   (["nchar", "noncharactercodepoint"], .noncharacter),
   (["oalpha", "otheralphabetic"], .otherAlphabetic),
   (["odi", "otherdefaultignorablecodepoint"], .otherDefaultIgnorable),
   (["ogrext", "othergraphemeextend"], .otherGraphemeExtend),
   (["oidc", "otheridcontinue"], .otherIdContinue), (["oids", "otheridstart"], .otherIdStart),
   (["olower", "otherlowercase"], .otherLowercase), (["omath", "othermath"], .otherMath),
   (["oupper", "otheruppercase"], .otherUppercase), (["patsyn", "patternsyntax"], .patternSyntax),
   (["patws", "patternwhitespace"], .patternWhiteSpace),
   (["pcm", "prependedconcatenationmark"], .prependedConcatenationMark),
   (["qmark", "quotationmark"], .quotationMark), (["radical"], .radical),
   (["ri", "regionalindicator"], .regionalIndicator),
   (["sterm", "sentenceterminal"], .sentenceTerminal), (["sd", "softdotted"], .softDotted),
   (["term", "terminalpunctuation"], .terminalPunctuation),
   (["uideo", "unifiedideograph"], .unifiedIdeograph), (["upper", "uppercase"], .uppercase),
   (["vs", "variationselector"], .variationSelector),
   (["space", "whitespace", "wspace"], .whiteSpace), (["xidc", "xidcontinue"], .xidContinue),
   (["xids", "xidstart"], .xidStart)]

/-! ## General categories -/

/-- The names of the general categories and of what they make up together. -/
def categoryNames : List (List String × List GeneralCategory) :=
  [(["any"], .unassigned :: GeneralCategory.assigned), (["assigned"], GeneralCategory.assigned),
   (["l", "letter"], GeneralCategory.letters),
   (["lc", "casedletter"], GeneralCategory.casedLetters),
   (["lu", "uppercaseletter"], [.upperLetter]), (["ll", "lowercaseletter"], [.lowerLetter]),
   (["lt", "titlecaseletter"], [.titleLetter]), (["lm", "modifierletter"], [.modifierLetter]),
   (["lo", "otherletter"], [.otherLetter]),
   (["m", "mark", "combiningmark"], GeneralCategory.marks), (["mn", "nonspacingmark"], [.bareMark]),
   (["mc", "spacingmark"], [.spacingMark]), (["me", "enclosingmark"], [.enclosingMark]),
   (["n", "number"], GeneralCategory.numbers),
   (["nd", "decimalnumber", "digit"], [.decimalNumber]), (["nl", "letternumber"], [.letterNumber]),
   (["no", "othernumber"], [.otherNumber]),
   (["p", "punctuation", "punct"], GeneralCategory.punctuation),
   (["pc", "connectorpunctuation"], [.connectorPunctuation]),
   (["pd", "dashpunctuation"], [.dashPunctuation]), (["ps", "openpunctuation"], [.openPunctuation]),
   (["pe", "closepunctuation"], [.closePunctuation]),
   (["pi", "initialpunctuation"], [.initialPunctuation]),
   (["pf", "finalpunctuation"], [.finalPunctuation]),
   (["po", "otherpunctuation"], [.otherPunctuation]), (["s", "symbol"], GeneralCategory.symbols),
   (["sm", "mathsymbol"], [.mathSymbol]), (["sc", "currencysymbol"], [.currencySymbol]),
   (["sk", "modifiersymbol"], [.modifierSymbol]), (["so", "othersymbol"], [.otherSymbol]),
   (["z", "separator"], GeneralCategory.separators), (["zs", "spaceseparator"], [.spaceSeparator]),
   (["zl", "lineseparator"], [.lineSeparator]), (["zp", "paragraphseparator"], [.paragraphSeparator]),
   (["c", "other"], [.control, .format, .privateUse, .unassigned]),
   (["cc", "control", "cntrl"], [.control]), (["cf", "format"], [.format]),
   (["co", "privateuse"], [.privateUse]), (["cn", "unassigned"], [.unassigned])]

/-- The names of the general category and of the scripts that no character has. -/
def emptyNames : List String :=
  ["cs", "surrogate", "hrkt", "katakanaorhiragana", "zzzz", "unknown"]

/-! ## Boundaries -/

def graphemeNames : List (List String × GraphemeBreak) :=
  [(["cr"], .carriageReturn), (["lf"], .lineFeed), (["cn", "control"], .control),
   (["ex", "extend"], .extend), (["zwj"], .joiner), (["ri", "regionalindicator"], .regionalIndicator),
   (["pp", "prepend"], .prepend), (["sm", "spacingmark"], .spacingMark), (["l"], .leadingConsonant),
   (["v"], .vowel), (["t"], .trailingConsonant), (["lv"], .openSyllable), (["lvt"], .closedSyllable)]

def wordNames : List (List String × WordBreak) :=
  [(["cr"], .carriageReturn), (["lf"], .lineFeed), (["nl", "newline"], .newline),
   (["extend"], .extend), (["zwj"], .joiner), (["ri", "regionalindicator"], .regionalIndicator),
   (["fo", "format"], .format), (["ka", "katakana"], .katakana),
   (["hl", "hebrewletter"], .hebrewLetter), (["le", "aletter"], .letter),
   (["sq", "singlequote"], .singleQuote), (["dq", "doublequote"], .doubleQuote),
   (["mb", "midnumlet"], .middleAny), (["ml", "midletter"], .middleLetter),
   (["mn", "midnum"], .middleNumber), (["nu", "numeric"], .numeric),
   (["ex", "extendnumlet"], .connector), (["wsegspace"], .space)]

def sentenceNames : List (List String × SentenceBreak) :=
  [(["cr"], .carriageReturn), (["lf"], .lineFeed), (["se", "sep"], .separator),
   (["ex", "extend"], .extend), (["fo", "format"], .format), (["sp"], .space),
   (["lo", "lower"], .lower), (["up", "upper"], .upper), (["le", "oletter"], .letter),
   (["nu", "numeric"], .numeric), (["at", "aterm"], .fullStop), (["sc", "scontinue"], .continuation),
   (["st", "sterm"], .terminal), (["cl", "close"], .close)]

/-! ## Other properties -/

/-- The names of the properties whose values are known. -/
def valuedNames : List (List String) :=
  [["gc", "generalcategory"], ["sc", "script"], ["scx", "scriptextensions"], ["age"],
   ["gcb", "graphemeclusterbreak"], ["wb", "wordbreak"], ["sb", "sentencebreak"]]

/-- The names of properties of which nothing is known. -/
def bareNames : List String :=
  ["bc", "bidiclass", "bidimirroringglyph", "bidipairedbracket", "bidipairedbrackettype", "blk",
   "block", "bmg", "bpb", "bpt", "canonicalcombiningclass", "casefolding", "ccc", "ce", "cf",
   "changeswhennfkccasefolded", "compex", "compositionexclusion", "cwkcf", "decompositionmapping",
   "decompositiontype", "dm", "dt", "ea", "eastasianwidth", "equideo", "equivalentunifiedideograph",
   "expandsonnfc", "expandsonnfd", "expandsonnfkc", "expandsonnfkd", "fcnfkc", "fcnfkcclosure",
   "fullcompositionexclusion", "hangulsyllabletype", "hst", "hyphen", "incb", "indicconjunctbreak",
   "indicpositionalcategory", "indicsyllabiccategory", "inpc", "insc", "isc", "jamoshortname", "jg",
   "joininggroup", "joiningtype", "jsn", "jt", "lb", "lc", "linebreak", "lowercasemapping", "na",
   "na1", "name", "namealias", "nfcqc", "nfcquickcheck", "nfdqc", "nfdquickcheck", "nfkccasefold",
   "nfkccf", "nfkcqc", "nfkcquickcheck", "nfkcscf", "nfkcsimplecasefold", "nfkdqc",
   "nfkdquickcheck", "nt", "numerictype", "numericvalue", "nv", "ocomment", "scf", "sfc",
   "simplecasefolding", "simplelowercasemapping", "simpletitlecasemapping",
   "simpleuppercasemapping", "slc", "stc", "suc", "tc", "titlecasemapping", "uc", "unicode1name",
   "unicoderadicalstroke", "uppercasemapping", "urs", "verticalorientation", "vo", "xonfc", "xonfd",
   "xonfkc", "xonfkd", "kehcat", "kehdesc", "kehhg", "kehifao", "kehjsesh", "kehnomirror",
   "kehnorotate"]

/-- The names of properties of ideographs. They can also be written behind `cjk`. -/
def ideographNames : List String :=
  ["kaccountingnumeric", "kcompatibilityvariant", "kiicore", "kirggsource", "kirghsource",
   "kirgjsource", "kirgkpsource", "kirgksource", "kirgmsource", "kirgssource", "kirgtsource",
   "kirguksource", "kirgusource", "kirgvsource", "kmandarin", "kothernumeric", "kprimarynumeric",
   "krsunicode", "ktotalstrokes", "kunihancore2020"]

/-! ## Look-up -/

/-- What a name stands for in a list. -/
def lookUp {α : Type} (names : List (List String × α)) (name : String) : Option α :=
  (names.find? fun entry => entry.1.contains name).map (·.2)

/-- A name without what does not tell names apart: a leading `is`, spaces, underscores, hyphens,
case, and characters beyond ASCII. `isc` is a name of its own. -/
def plainName (name : List Char) : String :=
  let marked := (name.take 2).map Char.toLower == ['i', 's']
  let kept := (if marked then name.drop 2 else name).filter fun c =>
    c.toNat < 0x80 && c != ' ' && c != '_' && c != '-'
  let plain := String.ofList (kept.map Char.toLower)
  if marked && plain == "c" then "isc" else plain

/-- Whether a plain name is the name of a property. -/
def isPropertyName (name : String) : Bool :=
  (lookUp propertyNames name).isSome || valuedNames.any (·.contains name) ||
    bareNames.contains name || ideographNames.any fun k => name == k || name == "cj" ++ k

namespace CharSet

/-- The characters of a general category. -/
def ofCategory? (name : String) : Option CharSet :=
  if name = "ascii" then some ascii
  else (lookUp categoryNames name).map GeneralCategory.among

def ofScript? (name : String) : Option CharSet := (lookUp scripts name).map ofRuns

/-- The characters that are used with a script. -/
def ofScriptExtended? (name : String) : Option CharSet := do
  let (names, runs) ← scripts.find? fun entry => entry.1.contains name
  let shared := scriptExtensions.map fun (first, last, _) => (first, last)
  let here := scriptExtensions.filter fun (_, _, codes) => names.any (codes.splitOn " ").contains
  some ((ofRuns runs \ ofRuns shared) ∪ ofRuns (here.map fun (first, last, _) => (first, last)))

/-- The characters that are no newer than a version. -/
def ofAge? (name : String) : Option CharSet := do
  let newer := ages.dropWhile fun entry => !entry.1.contains name
  if newer = [] then failure
  some (ofRuns ((ages.take (ages.length - newer.length + 1)).flatMap (·.2)))

/-- The characters that a name stands for: a property, a general category or a script. -/
def named (name : List Char) : Except PropertyFault CharSet :=
  let name := plainName name
  let set? := (lookUp propertyNames name).map Property.set <|> ofCategory? name <|> ofScript? name
  match set? with
  | some set => .ok set
  | Option.none => .error (if emptyNames.contains name then .unknownValue else .unknownName)

/-- The characters for which the property with a name has a value. -/
def valued (name value : List Char) : Except PropertyFault CharSet :=
  let name := plainName name
  let value := plainName value
  let set? :=
    match (valuedNames.find? (·.contains name)).bind List.head? with
    | some "gc" => ofCategory? value
    | some "sc" => ofScript? value
    | some "scx" => ofScriptExtended? value
    | some "age" => ofAge? value
    | some "gcb" => (lookUp graphemeNames value).map GraphemeBreak.set
    | some "wb" => (lookUp wordNames value).map WordBreak.set
    | some "sb" => (lookUp sentenceNames value).map SentenceBreak.set
    | _ => Option.none
  match set? with
  | some set => .ok set
  | Option.none => .error (if isPropertyName name then .unknownValue else .unknownName)

end CharSet

end DocAtlas.Text
