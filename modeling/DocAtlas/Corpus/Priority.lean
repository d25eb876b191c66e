import DocAtlas.Category
import DocAtlas.Path.Extension
import DocAtlas.Text.Case

/-! # Priorities

* `Priority.ofDocument` — the place of a document within its section, from 0 to 100

The sum is formed in the range of signed 32-bit numbers: what leaves the range stops at its end.
-/

set_option autoImplicit false

namespace DocAtlas.Priority

/-- The folders whose documents come first. -/
def importantFolders : List String :=
  ["getting_started", "installation", "introduction", "overview", "quickstart"]

def importantBonus : Int := 10

def indexBonus : Int := 20

/-- What each folder below the section costs. -/
def depthPenalty : Int := 2

/-- The least and the greatest number of the range. -/
def least : Int := -2147483648

def greatest : Int := 2147483647

/-- The number of the range that is nearest to `n`. -/
def saturate (n : Int) : Int := max least (min greatest n)

/-- Whether a path ends in the name of an entry page. -/
def isEntryPage (p : Path) : Bool :=
  let stem := Text.lowercase (p.fileStem.getD "").toList
  stem == "index".toList || stem == "readme".toList

/-- The place of a document within its section, `depth` being the number of folders between it and
the folder of the section. -/
def ofDocument (category : Category) (folder : String) (p : Path) (depth : Nat) : Nat :=
  let base : Int := category.basePriority
  let byFolder := if importantFolders.contains folder then saturate (base - importantBonus) else base
  let byName := if isEntryPage p then saturate (byFolder - indexBonus) else byFolder
  let penalty := saturate (saturate depth * depthPenalty)
  (max 0 (min 100 (saturate (byName + penalty)))).toNat

end DocAtlas.Priority
