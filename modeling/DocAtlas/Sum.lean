/-! # Sums over lists

* `sumOf` — the sum of a number for each element
-/

set_option autoImplicit false

namespace DocAtlas

variable {α : Type}

/-- The sum of a number for each element of a list. -/
def sumOf (f : α → Nat) : List α → Nat
  | [] => 0
  | x :: rest => f x + sumOf f rest

@[simp] theorem sumOf_nil (f : α → Nat) : sumOf f [] = 0 := rfl

@[simp] theorem sumOf_cons (f : α → Nat) (x : α) (rest : List α) :
    sumOf f (x :: rest) = f x + sumOf f rest := rfl

@[simp] theorem sumOf_append (f : α → Nat) (xs ys : List α) :
    sumOf f (xs ++ ys) = sumOf f xs + sumOf f ys := by
  induction xs with
  | nil => simp
  | cons x rest ih => simp [ih, Nat.add_assoc]

theorem sumOf_congr {f g : α → Nat} {xs : List α} (h : ∀ x ∈ xs, f x = g x) :
    sumOf f xs = sumOf g xs := by
  induction xs with
  | nil => rfl
  | cons x rest ih => rw [sumOf_cons, sumOf_cons, h x (by simp), ih fun y hy => h y (by simp [hy])]

theorem sumOf_le_sumOf {f g : α → Nat} {xs : List α} (h : ∀ x ∈ xs, f x ≤ g x) :
    sumOf f xs ≤ sumOf g xs := by
  induction xs with
  | nil => exact Nat.le_refl 0
  | cons x rest ih => exact Nat.add_le_add (h x (by simp)) (ih fun y hy => h y (by simp [hy]))

theorem sumOf_le_of_isPrefix (f : α → Nat) {xs ys : List α} (h : xs <+: ys) :
    sumOf f xs ≤ sumOf f ys := by
  obtain ⟨more, rfl⟩ := h
  rw [sumOf_append]
  exact Nat.le_add_right _ _

end DocAtlas
