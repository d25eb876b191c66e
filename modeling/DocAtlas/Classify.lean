import DocAtlas.Config.Basic
import DocAtlas.Sum
import DocAtlas.Text.Search

/-! # Classifying documents

* `Classify.sectionKeywords` — the words that speak for a section
* `Classify.ofStem?` — the section a file name speaks for
* `Classify.scores` — how much a content speaks for each section
* `Classify.sectionOf` — the section of a document
-/

set_option autoImplicit false

namespace DocAtlas.Classify

/-- The words that speak for each section. The first of several sections wins. -/
def sectionKeywords : List (String × List String) :=
  [("getting_started",
      ["installation", "quickstart", "setup", "introduction", "overview", "begin"]),
   ("user_guide", ["guide", "how to", "usage", "tutorial"]),
   ("concepts", ["concept", "architecture", "design", "principles"]),
   ("reference", ["api", "reference", "class", "function"]),
   ("examples", ["example", "sample", "demo"]),
   ("advanced", ["advanced", "expert", "internals", "deep dive"])]

/-- The score of a word in a file name. -/
def nameScore : Nat := 2

/-- The number of characters at the front that count as the lead. -/
def leadLength : Nat := 500

/-- The weight of a word that starts in the lead. -/
def leadWeight : Nat := 3

/-- The first section with a word in the file name, and its score. -/
def ofStem? (stem : String) : Option (String × Nat) :=
  (sectionKeywords.find? fun (_, words) =>
      words.any fun word => Text.contains word.toList stem.toList).map
    fun (key, _) => (key, nameScore)

/-- The occurrences of a word, those that start in the lead with more weight. -/
def weigh (word : String) (content : List Char) : Nat :=
  sumOf (fun place => if place < leadLength then leadWeight else 1)
    (Text.occurrences word.toList content)

/-- The score of each section for a content, in whatever case it is written. -/
def scores (content : String) : List (String × Nat) :=
  let lowered := Text.lowercase content.toList
  sectionKeywords.map fun (key, words) =>
    (key, sumOf (weigh · lowered) words)

/-- The first section with the greatest score, none if every score is zero. -/
def best? (scores : List (String × Nat)) : Option (String × Nat) :=
  scores.foldl (fun best scored =>
    if (best.map (·.2)).getD 0 < scored.2 then some scored else best) none

/-- The section of a document: the one its file name speaks for, else the one its content speaks for
most. -/
def sectionOf (stem : String) (content : Option String) : String :=
  match ofStem? stem with
  | some (found, _) => found
  | none => ((content.bind fun c => best? (scores c)).map (·.1)).getD Config.fallbackSection

end DocAtlas.Classify
