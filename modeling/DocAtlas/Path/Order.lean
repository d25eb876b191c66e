import DocAtlas.Path.Basic

/-! # The order of paths

Paths are compared component by component: `/` comes first, then `.`, then `..`, then names in the
order of their code points.

* `Path.key` — a list of lists of numbers in which the order of paths is the order of lists
* `Path.lt`, `Path.le` — the order
-/

set_option autoImplicit false

namespace DocAtlas

/-- A list of numbers in which the order of components is the order of lists. -/
def Component.key : Component → List Nat
  | .root => [0]
  | .current => [1]
  | .parent => [2]
  | .normal name => 3 :: name.toList.map Char.toNat

namespace Path

/-- The keys of the components. -/
def key (p : Path) : List (List Nat) := p.components.map Component.key

def lt (p q : Path) : Bool := decide (p.key < q.key)

def le (p q : Path) : Bool := !q.lt p

end Path

end DocAtlas
