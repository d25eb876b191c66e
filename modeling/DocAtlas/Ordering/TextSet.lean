/-! # Sets of texts

* `TextSet` — a finite set of texts, listed in ascending order of code points
* `TextSet.insert`, `TextSet.ofList`, `TextSet.union` — its construction
-/

set_option autoImplicit false

namespace DocAtlas

/-- A finite set of texts, listed in ascending order. -/
structure TextSet where
  toList : List String
  ascending : toList.Pairwise (· < ·) := by decide
  deriving DecidableEq, Repr

namespace TextSet

theorem lt_of_not_lt_of_ne {a b : String} (h : ¬ a < b) (hne : a ≠ b) : b < a := by
  rcases Decidable.em (b < a) with h' | h'
  · exact h'
  · exact absurd (String.le_antisymm (String.not_lt.1 h') (String.not_lt.1 h)) hne

/-- `x` at its place in an ascending list, unless it is there already. -/
def insertSorted (x : String) : List String → List String
  | [] => [x]
  | y :: rest => if x < y then x :: y :: rest else if x = y then y :: rest else y :: insertSorted x rest

@[simp] theorem mem_insertSorted {x z : String} {xs : List String} :
    z ∈ insertSorted x xs ↔ z = x ∨ z ∈ xs := by
  induction xs with
  | nil => simp [insertSorted]
  | cons y rest ih =>
    simp only [insertSorted]
    split
    · simp
    · split
      · rename_i h
        subst h
        simp
      · simp only [List.mem_cons, ih]
        exact ⟨fun h => by rcases h with h | h | h <;> simp [h],
          fun h => by rcases h with h | h | h <;> simp [h]⟩

theorem pairwise_insertSorted {x : String} {xs : List String} (h : xs.Pairwise (· < ·)) :
    (insertSorted x xs).Pairwise (· < ·) := by
  induction xs with
  | nil => simp [insertSorted]
  | cons y rest ih =>
    rw [List.pairwise_cons] at h
    simp only [insertSorted]
    split
    · rename_i hxy
      refine List.pairwise_cons.2 ⟨fun z hz => ?_, List.pairwise_cons.2 h⟩
      rcases List.mem_cons.1 hz with rfl | hz
      · exact hxy
      · exact String.lt_trans hxy (h.1 z hz)
    · split
      · exact List.pairwise_cons.2 h
      · rename_i hxy hne
        refine List.pairwise_cons.2 ⟨fun z hz => ?_, ih h.2⟩
        rcases mem_insertSorted.1 hz with rfl | hz
        · exact lt_of_not_lt_of_ne hxy hne
        · exact h.1 z hz

def empty : TextSet := ⟨[], .nil⟩

instance : Inhabited TextSet := ⟨empty⟩

def insert (set : TextSet) (x : String) : TextSet :=
  ⟨insertSorted x set.toList, pairwise_insertSorted set.ascending⟩

def ofList (xs : List String) : TextSet := xs.foldl insert empty

def union (set other : TextSet) : TextSet := other.toList.foldl insert set

def contains (set : TextSet) (x : String) : Bool := set.toList.contains x

def size (set : TextSet) : Nat := set.toList.length

instance : Membership String TextSet := ⟨fun set x => x ∈ set.toList⟩

theorem mem_def {set : TextSet} {x : String} : x ∈ set ↔ x ∈ set.toList := Iff.rfl

@[simp] theorem not_mem_empty (x : String) : ¬ x ∈ empty := List.not_mem_nil

@[simp] theorem mem_insert {set : TextSet} {x z : String} : z ∈ set.insert x ↔ z = x ∨ z ∈ set :=
  mem_insertSorted

theorem mem_foldl_insert {set : TextSet} {xs : List String} {z : String} :
    z ∈ xs.foldl insert set ↔ z ∈ set ∨ z ∈ xs := by
  induction xs generalizing set with
  | nil => simp
  | cons x rest ih =>
    rw [List.foldl_cons, ih, mem_insert, List.mem_cons]
    exact ⟨fun h => by rcases h with (h | h) | h <;> simp [h],
      fun h => by rcases h with h | h | h <;> simp [h]⟩

@[simp] theorem mem_ofList {xs : List String} {z : String} : z ∈ ofList xs ↔ z ∈ xs := by
  simp [ofList, mem_foldl_insert]

@[simp] theorem mem_union {set other : TextSet} {z : String} :
    z ∈ set.union other ↔ z ∈ set ∨ z ∈ other := mem_foldl_insert

@[simp] theorem contains_iff {set : TextSet} {x : String} : set.contains x = true ↔ x ∈ set := by
  simp [contains, mem_def]

end TextSet

end DocAtlas
