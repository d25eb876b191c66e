import DocAtlas.Issue
import DocAtlas.Ordering.TextSet
import DocAtlas.Path.Order
import DocAtlas.Sum

/-! # Links between documents

* `DocumentLinks` — the addresses one document links to
* `Links` — the links of many documents, by ascending source
* `Links.add`, `Links.put`, `Links.total` — their construction and number
-/

set_option autoImplicit false

namespace DocAtlas

/-- The addresses one document links to. -/
structure DocumentLinks where
  source : Path
  urls : TextSet
  deriving DecidableEq, Repr

/-- The links of documents, by ascending source. -/
abbrev Links := List DocumentLinks

namespace Links

/-- The links with those of one document changed, which starts without any. -/
def update (source : Path) (change : TextSet → TextSet) : Links → Links
  | [] => [⟨source, change .empty⟩]
  | l :: rest =>
    if source.same l.source then ⟨l.source, change l.urls⟩ :: rest
    else if source.lt l.source then ⟨source, change .empty⟩ :: l :: rest
    else l :: update source change rest

/-- The links with one more. -/
def add (links : Links) (source : Path) (url : String) : Links :=
  update source (·.insert url) links

/-- The links with those of one document replaced. -/
def put (links : Links) (source : Path) (urls : TextSet) : Links :=
  update source (fun _ => urls) links

/-- The number of links. -/
def total (links : Links) : Nat := sumOf (fun l => l.urls.size) links

end Links

/-- The links of a corpus and the references that lead nowhere. -/
structure LinkReport where
  links : Links := []
  issues : List Issue := []
  deriving DecidableEq, Repr

end DocAtlas
