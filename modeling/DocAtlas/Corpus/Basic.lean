import DocAtlas.Corpus.Record

/-! # The corpus

* `Corpus` — the records of one discovery, kept by category
* `Corpus.push`, `Corpus.ofCategory`, `Corpus.groups`, `Corpus.records` — its parts
-/

set_option autoImplicit false

namespace DocAtlas

/-- The records of one discovery, in the order they were found. -/
structure Corpus where
  found : List Record := []
  deriving DecidableEq, Repr, Inhabited

namespace Corpus

def push (corpus : Corpus) (record : Record) : Corpus := ⟨corpus.found ++ [record]⟩

/-- The records of one category. -/
def ofCategory (corpus : Corpus) (category : Category) : List Record :=
  corpus.found.filter (·.category == category)

/-- The categories that are reported: orphans only if there are any. -/
def categories (corpus : Corpus) : List Category :=
  Category.all.filter fun c => c != .orphan || !(corpus.ofCategory c).isEmpty

/-- The records of each reported category. -/
def groups (corpus : Corpus) : List (Category × List Record) :=
  corpus.categories.map fun c => (c, corpus.ofCategory c)

/-- Every record, category by category. -/
def records (corpus : Corpus) : List Record := corpus.groups.flatMap (·.2)

def size (corpus : Corpus) : Nat := corpus.found.length

end Corpus

end DocAtlas
