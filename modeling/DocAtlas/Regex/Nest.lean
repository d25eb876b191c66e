import DocAtlas.Regex.Fault

/-! # Nested parts of an expression

* `Regex.Nest` — the first part at each depth
* `Regex.Nest.beside`, `Regex.Nest.inside` — the parts of two neighbours, and of what holds them
* `Regex.Nest.tooDeep?` — the first part that lies too deep
-/

set_option autoImplicit false

namespace DocAtlas.Regex

/-- Of the parts of an expression the first one at each depth, from the outermost on. -/
structure Nest where
  spans : List Span := []
  deriving DecidableEq, Repr

namespace Nest

/-- How deep parts may lie. -/
def limit : Nat := 250

/-- The parts of two neighbours. -/
def beside (nest later : Nest) : Nest :=
  if later.spans.length ≤ nest.spans.length then nest
  else ⟨nest.spans ++ later.spans.drop nest.spans.length⟩

/-- The parts of some neighbours. -/
def all (nests : List Nest) : Nest := nests.foldl beside {}

/-- A part that holds others. What lies too deep in it already is of no interest any more. -/
def inside (span : Span) (nest : Nest) : Nest := ⟨(span :: nest.spans).take (limit + 1)⟩

/-- The first part that lies too deep. -/
def tooDeep? (nest : Nest) : Option Span := nest.spans[limit]?

theorem length_inside_le (span : Span) (nest : Nest) :
    (inside span nest).spans.length ≤ limit + 1 :=
  List.length_take_le _ _

end Nest

end DocAtlas.Regex
