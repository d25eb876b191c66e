/-! # Stable sorting

* `sortBy` — a list in ascending order, elements of one rank in the order they had
-/

set_option autoImplicit false

namespace DocAtlas

variable {α : Type}

/-- `x` put in front of the first element that does not rank below it. -/
def insertBy (le : α → α → Bool) (x : α) : List α → List α
  | [] => [x]
  | y :: rest => if le x y then x :: y :: rest else y :: insertBy le x rest

/-- The list in ascending order. Elements of one rank keep their order. -/
def sortBy (le : α → α → Bool) (xs : List α) : List α := xs.foldr (insertBy le) []

theorem insertBy_perm (le : α → α → Bool) (x : α) (xs : List α) :
    (insertBy le x xs).Perm (x :: xs) := by
  induction xs with
  | nil => exact .refl _
  | cons y rest ih =>
    simp only [insertBy]
    split
    · exact .refl _
    · exact (ih.cons y).trans (.swap x y rest)

theorem sortBy_perm (le : α → α → Bool) (xs : List α) : (sortBy le xs).Perm xs := by
  induction xs with
  | nil => exact .refl _
  | cons x rest ih => exact (insertBy_perm le x _).trans (ih.cons x)

end DocAtlas
