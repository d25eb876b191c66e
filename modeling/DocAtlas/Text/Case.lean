import DocAtlas.Text.CaseTable
import DocAtlas.Text.Letter

/-! # Upper and lower case

* `lowerChar`, `upperChar` — the full mapping of one character, which may have several
* `lowercase` — the full mapping of a text, with its final sigmas
* `sameIgnoringCase` — equality up to the case of ASCII letters
-/

set_option autoImplicit false

namespace DocAtlas.Text

/-- The image of `n` under the first run that holds it, else `n`. -/
def caseImage (runs : List CaseRun) (n : Nat) : Nat :=
  match runs.find? fun r => r.first ≤ n && n ≤ r.last && (n - r.first) % r.step == 0 with
  | some r => r.image + (n - r.first)
  | none => n

/-- The mapping of one code point: an expansion if it has one, else the image under the runs. -/
def caseMapping (expansions : List (Nat × List Nat)) (runs : List CaseRun) (n : Nat) : List Char :=
  match expansions.lookup n with
  | some images => images.map Char.ofNat
  | none => [Char.ofNat (caseImage runs n)]

/-- The full lowercase mapping of one character. -/
def lowerChar (c : Char) : List Char :=
  if c.toNat < 0x80 then [c.toLower] else caseMapping lowerExpansions lowerRuns c.toNat

/-- The full uppercase mapping of one character. -/
def upperChar (c : Char) : List Char :=
  if c.toNat < 0x80 then [c.toUpper] else caseMapping upperExpansions upperRuns c.toNat

/-- Whether a cased character stands at the front, behind characters without case of their own. -/
def startsCased (s : List Char) : Bool :=
  match s.dropWhile isCaseIgnorable with
  | [] => false
  | c :: _ => isCased c

/-- The lowercase form of `c` between `before`, nearest character first, and `behind`: a sigma that
ends a word has a form of its own. -/
def lowerWithin (before : List Char) (c : Char) (behind : List Char) : List Char :=
  if c = 'Σ' then
    if startsCased before && !startsCased behind then ['ς'] else ['σ']
  else
    lowerChar c

/-- The lowercase form of a text that stands behind `before`, nearest character first. -/
def lowercaseAfter (before : List Char) : List Char → List Char
  | [] => []
  | c :: rest => lowerWithin before c rest ++ lowercaseAfter (c :: before) rest

/-- The lowercase form of a text. -/
def lowercase (s : List Char) : List Char := lowercaseAfter [] s

/-- Equality up to the case of ASCII letters. -/
def sameIgnoringCase (s t : List Char) : Bool := s.map Char.toLower == t.map Char.toLower

end DocAtlas.Text
