import DocAtlas.Ordering.Stable
import Mathlib.Data.List.Pairwise

/-! # What stable sorting keeps

* `pairwise_sortBy` — the sorted list is in order
* `sortBy_eq_of_perm` — what is sorted may come in any order
* `sortBy_map` — sorting and taking images may be exchanged
* `sortBy_of_pairwise` — a list in order is left as it is
* `filter_sortBy` — sorting and leaving elements out may be exchanged
* `sortBy_append` — what ranks above all the rest stays behind it
* `IsStableSort`, `IsStableSort.unique` — what it is to be sorted with ties in order
* `sortBy_sortBy_append` — it does not matter whether the front was sorted before
-/

set_option autoImplicit false

namespace DocAtlas

variable {α : Type} {le : α → α → Bool}

/-! ## Order -/

theorem mem_insertBy {x y : α} {xs : List α} : y ∈ insertBy le x xs ↔ y = x ∨ y ∈ xs := by
  rw [(insertBy_perm le x xs).mem_iff, List.mem_cons]

theorem mem_sortBy {x : α} {xs : List α} : x ∈ sortBy le xs ↔ x ∈ xs :=
  (sortBy_perm le xs).mem_iff

theorem sortBy_cons (x : α) (xs : List α) : sortBy le (x :: xs) = insertBy le x (sortBy le xs) := rfl

theorem pairwise_or {R : α → α → Prop} {xs : List α} (h : xs.Pairwise R) {a b : α}
    (ha : a ∈ xs) (hb : b ∈ xs) (hne : a ≠ b) : R a b ∨ R b a := by
  have hsymm : Std.Symm fun x y => R x y ∨ R y x := ⟨fun _ _ hr => hr.symm⟩
  have hor : xs.Pairwise fun x y => R x y ∨ R y x := h.imp fun hr => Or.inl hr
  exact hor.forall ha hb hne

section Total

variable (htotal : ∀ a b, le a b = true ∨ le b a = true)
  (htrans : ∀ a b c, le a b = true → le b c = true → le a c = true)

include htotal htrans in
theorem pairwise_insertBy {x : α} {xs : List α} (h : xs.Pairwise fun a b => le a b = true) :
    (insertBy le x xs).Pairwise fun a b => le a b = true := by
  induction xs with
  | nil => simp [insertBy]
  | cons y rest ih =>
    obtain ⟨hy, hrest⟩ := List.pairwise_cons.1 h
    rw [insertBy]
    split
    · rename_i hxy
      refine List.pairwise_cons.2 ⟨fun z hz => ?_, h⟩
      rcases List.mem_cons.1 hz with rfl | hz
      · exact hxy
      · exact htrans x y z hxy (hy z hz)
    · rename_i hxy
      refine List.pairwise_cons.2 ⟨fun z hz => ?_, ih hrest⟩
      rcases mem_insertBy.1 hz with rfl | hz
      · exact (htotal y z).resolve_right hxy
      · exact hy z hz

include htotal htrans in
theorem pairwise_sortBy (xs : List α) : (sortBy le xs).Pairwise fun a b => le a b = true := by
  induction xs with
  | nil => exact List.Pairwise.nil
  | cons x rest ih => exact pairwise_insertBy htotal htrans ih

/-- A sorted list tells what was sorted, not how it was ordered, where no two elements rank alike. -/
theorem sortBy_eq_of_perm (htotal : ∀ a b, le a b = true ∨ le b a = true)
    (htrans : ∀ a b c, le a b = true → le b c = true → le a c = true) {xs ys : List α}
    (hperm : xs.Perm ys) (hanti : ∀ a ∈ xs, ∀ b ∈ xs, le a b = true → le b a = true → a = b) :
    sortBy le xs = sortBy le ys := by
  have hsorted : (sortBy le xs).Perm (sortBy le ys) :=
    ((sortBy_perm le xs).trans hperm).trans (sortBy_perm le ys).symm
  refine List.Perm.eq_of_pairwise (fun a b ha hb => ?_) (pairwise_sortBy htotal htrans xs)
    (pairwise_sortBy htotal htrans ys) hsorted
  exact hanti a (mem_sortBy.1 ha) b (hperm.mem_iff.2 (mem_sortBy.1 hb))

end Total

/-! ## Images -/

section Map

variable {β : Type} {le' : β → β → Bool} {f : α → β}

theorem insertBy_map {x : α} {xs : List α} (h : ∀ y ∈ xs, le' (f x) (f y) = le x y) :
    insertBy le' (f x) (xs.map f) = (insertBy le x xs).map f := by
  induction xs with
  | nil => rfl
  | cons y rest ih =>
    rw [List.map_cons, insertBy, insertBy, h y (by simp), ih fun z hz => h z (by simp [hz])]
    split
    · rfl
    · rfl

/-- Elements are sorted as their images are, if these rank alike. -/
theorem sortBy_map {xs : List α} (h : ∀ x ∈ xs, ∀ y ∈ xs, le' (f x) (f y) = le x y) :
    sortBy le' (xs.map f) = (sortBy le xs).map f := by
  induction xs with
  | nil => rfl
  | cons x rest ih =>
    have hrest := ih fun a ha b hb => h a (by simp [ha]) b (by simp [hb])
    rw [List.map_cons, sortBy_cons, sortBy_cons, hrest]
    exact insertBy_map fun y hy => h x (by simp) y (by simp [mem_sortBy.1 hy])

end Map

/-! ## Stability -/

/-- What ranks below all of a list goes in front of it. -/
theorem insertBy_of_forall {x : α} {xs : List α} (h : ∀ y ∈ xs, le x y = true) :
    insertBy le x xs = x :: xs := by
  cases xs with
  | nil => rfl
  | cons y rest => rw [insertBy, if_pos (h y (by simp))]

theorem sortBy_of_pairwise {xs : List α} (h : xs.Pairwise fun a b => le a b = true) :
    sortBy le xs = xs := by
  induction xs with
  | nil => rfl
  | cons x rest ih =>
    obtain ⟨hx, hrest⟩ := List.pairwise_cons.1 h
    rw [sortBy_cons, ih hrest, insertBy_of_forall hx]

theorem insertBy_append {x : α} {xs ys : List α} (h : ∀ y ∈ ys, le x y = true) :
    insertBy le x (xs ++ ys) = insertBy le x xs ++ ys := by
  induction xs with
  | nil => exact insertBy_of_forall h
  | cons z rest ih =>
    rw [List.cons_append, insertBy, insertBy, ih]
    split
    · rfl
    · rfl

/-- What ranks above all the rest stays behind it. -/
theorem sortBy_append {xs ys : List α} (h : ∀ x ∈ xs, ∀ y ∈ ys, le x y = true) :
    sortBy le (xs ++ ys) = sortBy le xs ++ sortBy le ys := by
  induction xs with
  | nil => rfl
  | cons x rest ih =>
    have hrest := ih fun z hz => h z (by simp [hz])
    rw [List.cons_append, sortBy_cons, hrest, sortBy_cons, insertBy_append]
    intro y hy
    exact h x (by simp) y (mem_sortBy.1 hy)

/-- An element that is left out is not missed where another is put. -/
theorem filter_insertBy_of_not {p : α → Bool} {x : α} (hx : p x = false) (xs : List α) :
    (insertBy le x xs).filter p = xs.filter p := by
  induction xs with
  | nil => simp [insertBy, hx]
  | cons y rest ih =>
    rw [insertBy]
    split
    · rw [List.filter_cons_of_neg (by simp [hx])]
    · rw [List.filter_cons, List.filter_cons, ih]

theorem filter_insertBy {p : α → Bool} {x : α} (hx : p x = true) {xs : List α}
    (htrans : ∀ a b c, le a b = true → le b c = true → le a c = true)
    (h : xs.Pairwise fun a b => le a b = true) :
    (insertBy le x xs).filter p = insertBy le x (xs.filter p) := by
  induction xs with
  | nil => simp [insertBy, hx]
  | cons y rest ih =>
    obtain ⟨hy, hrest⟩ := List.pairwise_cons.1 h
    rw [insertBy]
    split
    · rename_i hxy
      rw [List.filter_cons_of_pos hx, insertBy_of_forall]
      intro z hz
      rcases List.mem_cons.1 (List.mem_filter.1 hz).1 with rfl | hz
      · exact hxy
      · exact htrans x y z hxy (hy z hz)
    · rename_i hxy
      rw [List.filter_cons, List.filter_cons, ih hrest]
      split
      · rw [insertBy, if_neg hxy]
      · rfl

/-- Sorting and leaving elements out may be exchanged. -/
theorem filter_sortBy (htotal : ∀ a b, le a b = true ∨ le b a = true)
    (htrans : ∀ a b c, le a b = true → le b c = true → le a c = true) (p : α → Bool) (xs : List α) :
    (sortBy le xs).filter p = sortBy le (xs.filter p) := by
  induction xs with
  | nil => rfl
  | cons x rest ih =>
    rw [sortBy_cons]
    cases hx : p x with
    | true =>
      rw [filter_insertBy hx htrans (pairwise_sortBy htotal htrans rest), ih,
        List.filter_cons_of_pos hx, sortBy_cons]
    | false => rw [filter_insertBy_of_not hx, ih, List.filter_cons_of_neg (by simp [hx])]

/-! ## The one stable order -/

/-- `sorted` has the elements of `xs` in ascending order, those that rank alike as they stand in `xs`. -/
structure IsStableSort (le : α → α → Bool) (xs sorted : List α) : Prop where
  ascends : sorted.Pairwise fun a b => le a b = true
  ties : ∀ a, sorted.filter (fun b => le a b && le b a) = xs.filter (fun b => le a b && le b a)

theorem isStableSort_sortBy (htotal : ∀ a b, le a b = true ∨ le b a = true)
    (htrans : ∀ a b c, le a b = true → le b c = true → le a c = true) (xs : List α) :
    IsStableSort le xs (sortBy le xs) where
  ascends := pairwise_sortBy htotal htrans xs
  ties := fun a => by
    rw [filter_sortBy htotal htrans]
    refine sortBy_of_pairwise (List.pairwise_of_forall_mem_list fun b hb c hc => ?_)
    have hba := (List.mem_filter.1 hb).2
    have hac := (List.mem_filter.1 hc).2
    rw [Bool.and_eq_true] at hba hac
    exact htrans b a c hba.2 hac.1

/-- The first element of a list in order ranks below each of its elements. -/
theorem le_of_mem_pairwise (htotal : ∀ a b, le a b = true ∨ le b a = true) {x y : α} {xs : List α}
    (h : (x :: xs).Pairwise fun a b => le a b = true) (hy : y ∈ x :: xs) : le x y = true := by
  rcases List.mem_cons.1 hy with rfl | hy
  · exact (htotal y y).elim id id
  · exact (List.pairwise_cons.1 h).1 y hy

/-- Two lists in order are the same if the elements of each rank are. -/
theorem eq_of_ties (htotal : ∀ a b, le a b = true ∨ le b a = true) {xs ys : List α}
    (hxs : xs.Pairwise fun a b => le a b = true) (hys : ys.Pairwise fun a b => le a b = true)
    (h : ∀ a, xs.filter (fun b => le a b && le b a) = ys.filter (fun b => le a b && le b a)) :
    xs = ys := by
  have hrefl : ∀ a, le a a = true := fun a => (htotal a a).elim id id
  have hmem : ∀ {zs others : List α},
      (∀ a, zs.filter (fun b => le a b && le b a) = others.filter (fun b => le a b && le b a)) →
      ∀ a ∈ zs, a ∈ others := by
    intro zs others hties a ha
    have hself : a ∈ zs.filter (fun b => le a b && le b a) := by simp [ha, hrefl]
    rw [hties] at hself
    exact (List.mem_filter.1 hself).1
  induction xs generalizing ys with
  | nil =>
    cases ys with
    | nil => rfl
    | cons y ys => exact absurd (hmem (fun a => (h a).symm) y List.mem_cons_self) (by simp)
  | cons x xs ih =>
    cases ys with
    | nil => exact absurd (hmem h x List.mem_cons_self) (by simp)
    | cons y ys =>
      -- the first elements rank alike, so both are the first of their rank
      have hxy : le x y = true :=
        le_of_mem_pairwise htotal hxs (hmem (fun a => (h a).symm) y List.mem_cons_self)
      have hyx : le y x = true :=
        le_of_mem_pairwise htotal hys (hmem h x List.mem_cons_self)
      have hfirst := h x
      rw [List.filter_cons_of_pos (by simp [hrefl]), List.filter_cons_of_pos (by simp [hxy, hyx])]
        at hfirst
      obtain ⟨rfl, -⟩ := List.cons.inj hfirst
      refine congrArg (x :: ·) (ih (List.pairwise_cons.1 hxs).2 (List.pairwise_cons.1 hys).2 ?_)
      intro a
      have hrest := h a
      rw [List.filter_cons, List.filter_cons] at hrest
      split at hrest
      · exact (List.cons.inj hrest).2
      · exact hrest

theorem IsStableSort.unique (htotal : ∀ a b, le a b = true ∨ le b a = true) {xs ys zs : List α}
    (hys : IsStableSort le xs ys) (hzs : IsStableSort le xs zs) : ys = zs :=
  eq_of_ties htotal hys.ascends hzs.ascends fun a => (hys.ties a).trans (hzs.ties a).symm

/-- Sorting a front first does not change what sorting the whole gives. -/
theorem sortBy_sortBy_append (htotal : ∀ a b, le a b = true ∨ le b a = true)
    (htrans : ∀ a b c, le a b = true → le b c = true → le a c = true) (xs ys : List α) :
    sortBy le (sortBy le xs ++ ys) = sortBy le (xs ++ ys) := by
  have hfront := isStableSort_sortBy htotal htrans xs
  have hsorted := isStableSort_sortBy htotal htrans (sortBy le xs ++ ys)
  refine IsStableSort.unique htotal { hsorted with ties := fun a => ?_ }
    (isStableSort_sortBy htotal htrans (xs ++ ys))
  rw [hsorted.ties, List.filter_append, List.filter_append, hfront.ties]

end DocAtlas
