import DocAtlas.Text.Case
import DocAtlas.Text.GeneralCategory

/-! # The same character in another case

* `caseVariants` — the characters that differ from one by case alone
* `CharSet.anyCase`, `CharSet.anyAsciiCase` — the members of a set and what differs from them so
* `lowered`, `uppered` — the characters that have a lowercase or uppercase form of their own
-/

set_option autoImplicit false

namespace DocAtlas.Text

/-- The characters that differ by case alone, where they are not just a character with its own
lowercase and uppercase form. -/
def caseClusters : List (List Nat) :=
  [[0x4B, 0x6B, 0x212A], [0x53, 0x73, 0x17F], [0xB5, 0x39C, 0x3BC], [0xC5, 0xE5, 0x212B],
   [0xDF, 0x1E9E], [0x131], [0x1C4, 0x1C5, 0x1C6], [0x1C7, 0x1C8, 0x1C9], [0x1CA, 0x1CB, 0x1CC],
   [0x1F1, 0x1F2, 0x1F3], [0x345, 0x399, 0x3B9, 0x1FBE], [0x390, 0x1FD3], [0x392, 0x3B2, 0x3D0],
   [0x395, 0x3B5, 0x3F5], [0x398, 0x3B8, 0x3D1, 0x3F4], [0x39A, 0x3BA, 0x3F0],
   [0x3A0, 0x3C0, 0x3D6], [0x3A1, 0x3C1, 0x3F1], [0x3A3, 0x3C2, 0x3C3], [0x3A6, 0x3C6, 0x3D5],
   [0x3A9, 0x3C9, 0x2126], [0x3B0, 0x1FE3], [0x412, 0x432, 0x1C80], [0x414, 0x434, 0x1C81],
   [0x41E, 0x43E, 0x1C82], [0x421, 0x441, 0x1C83], [0x422, 0x442, 0x1C84, 0x1C85],
   [0x42A, 0x44A, 0x1C86], [0x462, 0x463, 0x1C87], [0x1C88, 0xA64A, 0xA64B],
   [0x1E60, 0x1E61, 0x1E9B], [0x1FB3, 0x1FBC], [0x1FC3, 0x1FCC], [0x1FF3, 0x1FFC],
   [0xFB05, 0xFB06]]

/-- A mapping that gives a single character. -/
def onlyOne (image : List Char) : List Char := if image.length = 1 then image else []

/-- The characters that differ from one by case alone, with itself. From U+1F80 to U+1FAF the two
forms of a letter are eight places apart. -/
def caseVariants (c : Char) : List Char :=
  let n := c.toNat
  match caseClusters.find? (·.contains n) with
  | some cluster => cluster.map Char.ofNat
  | none =>
    if 0x1F80 ≤ n ∧ n ≤ 0x1FAF then [c, Char.ofNat (n ^^^ 8)]
    else c :: (onlyOne (lowerChar c) ++ onlyOne (upperChar c))

/-! ## Sets -/

/-- The code points of a run and their images. -/
def CaseRun.pairs (run : CaseRun) : List (Nat × Nat) :=
  (List.range ((run.last - run.first) / run.step + 1)).map fun i =>
    (run.first + i * run.step, run.image + i * run.step)

/-- The characters that runs and expansions map, as far as they and their images are assigned. -/
def mapped (runs : List CaseRun) (expansions : List (Nat × List Nat)) : CharSet :=
  let pairs := (runs.flatMap CaseRun.pairs).filter fun (n, image) =>
    CharSet.inRuns GeneralCategory.assignedSet.runs n &&
      CharSet.inRuns GeneralCategory.assignedSet.runs image
  .ofRuns ((pairs.map (·.1) ++ expansions.map (·.1)).map fun n => (n, n))

/-- The characters that have a lowercase form of their own. -/
def lowered : CharSet := mapped lowerRuns lowerExpansions

/-- The characters that have an uppercase form of their own. -/
def uppered : CharSet := mapped upperRuns upperExpansions

/-- The characters that differ from others by case alone. -/
def caseChanging : List Char :=
  caseClusters.flatMap (·.map Char.ofNat) ++ (List.range' 0x1F80 0x30).map Char.ofNat ++
    (lowerRuns.flatMap CaseRun.pairs ++ upperRuns.flatMap CaseRun.pairs).map (Char.ofNat ·.1)

/-- The assigned characters that differ from an assigned one by case alone. -/
def assignedVariants (c : Char) : List Char :=
  let isAssigned := GeneralCategory.assignedSet.contains
  if isAssigned c then (caseVariants c).filter isAssigned else []

/-- The members of a set and what differs from one of them by case alone. Of a large set the
characters are tried that differ from any. -/
def CharSet.anyCase (s : CharSet) : CharSet :=
  let changing := if s.size ≤ 0x400 then s.members else caseChanging.filter s.contains
  s ∪ .ofChars (changing.flatMap assignedVariants)

/-- The members of a set and what differs from one of them by the case of an ASCII letter. -/
def CharSet.anyAsciiCase (s : CharSet) : CharSet :=
  let letters := (List.range 0x80).map Char.ofNat
  s ∪ .ofChars ((letters.filter s.contains).flatMap fun c => [c.toLower, c.toUpper])

end DocAtlas.Text
