import DocAtlas.Text.Blank
import Mathlib.Data.List.TakeWhile

/-! # Runs at the ends of a list

* `takeWhile_append_of_head`, `dropWhile_append_of_head` — a run at the front, and what stands behind it
* `dropEndWhile_isPrefix`, `getLast?_dropEndWhile_not` — a list without the run at its end
* `isPrefix_append_cases` — words at the front of two lists
* `isPrefix_takeWhile_iff`, `isPrefix_dropEndWhile_iff` — words at the front that a cut leaves alone
-/

set_option autoImplicit false

namespace DocAtlas

open Text (dropEndWhile)

variable {α : Type} {p q : α → Bool} {xs word : List α} {x : α}

/-! ## At the front -/

theorem takeWhile_append_of_head {run rest : List α} (hrun : ∀ x ∈ run, p x = true)
    (hrest : ∀ x ∈ rest.head?, p x = false) : (run ++ rest).takeWhile p = run := by
  rw [List.takeWhile_append_of_pos hrun]
  cases rest with
  | nil => rw [List.takeWhile_nil, List.append_nil]
  | cons x rest => rw [List.takeWhile_cons_of_neg (by simp [hrest x rfl]), List.append_nil]

theorem dropWhile_append_of_head {run rest : List α} (hrun : ∀ x ∈ run, p x = true)
    (hrest : ∀ x ∈ rest.head?, p x = false) : (run ++ rest).dropWhile p = rest := by
  rw [List.dropWhile_append_of_pos hrun]
  cases rest with
  | nil => rfl
  | cons x rest => rw [List.dropWhile_cons_of_neg (by simp [hrest x rfl])]

theorem head?_dropWhile_not (h : (xs.dropWhile p).head? = some x) : p x = false := by
  have hnot := List.head?_dropWhile_not p xs
  rwa [h] at hnot

theorem dropWhile_takeWhile (h : ∀ x, p x = true → q x = true) (xs : List α) :
    (xs.takeWhile q).dropWhile p = (xs.dropWhile p).takeWhile q := by
  induction xs with
  | nil => rfl
  | cons x rest ih =>
    cases hp : p x with
    | true =>
      rw [List.takeWhile_cons_of_pos (h x hp), List.dropWhile_cons_of_pos hp,
        List.dropWhile_cons_of_pos hp, ih]
    | false =>
      rw [List.dropWhile_cons_of_neg (by simp [hp])]
      cases hq : q x with
      | true => rw [List.takeWhile_cons_of_pos hq, List.dropWhile_cons_of_neg (by simp [hp])]
      | false => rw [List.takeWhile_cons_of_neg (by simp [hq]), List.dropWhile_nil]

theorem isPrefix_takeWhile_iff (h : ∀ x ∈ word, p x = true) :
    word <+: xs.takeWhile p ↔ word <+: xs := by
  constructor
  · exact fun hword => hword.trans (List.takeWhile_prefix p)
  · rintro ⟨rest, rfl⟩
    rw [List.takeWhile_append_of_pos h]
    exact List.prefix_append _ _

/-- A word at the front of two lists ends within the first, or it reaches into the second. -/
theorem isPrefix_append_cases {front behind : List α} (h : word <+: front ++ behind) :
    word <+: front ∨ ∃ more, more <+: behind ∧ word = front ++ more := by
  rcases List.prefix_or_prefix_of_prefix h (List.prefix_append front behind) with hfront | ⟨more, rfl⟩
  · exact Or.inl hfront
  · exact Or.inr ⟨more, (List.prefix_append_right_inj front).1 h, rfl⟩

/-! ## At the end -/

theorem dropEndWhile_isPrefix (p : α → Bool) (xs : List α) : dropEndWhile p xs <+: xs := by
  have hsuffix := List.dropWhile_suffix (l := xs.reverse) p
  rwa [← List.reverse_prefix, List.reverse_reverse] at hsuffix

theorem mem_of_mem_dropEndWhile (h : x ∈ dropEndWhile p xs) : x ∈ xs :=
  (dropEndWhile_isPrefix p xs).subset h

/-- Nothing is trimmed at the front by trimming at the end, unless all is. -/
theorem head?_dropEndWhile (h : (dropEndWhile p xs).head? = some x) : xs.head? = some x := by
  obtain ⟨dropped, hdropped⟩ := dropEndWhile_isPrefix p xs
  rw [← hdropped, List.head?_append, h]
  rfl

theorem getLast?_dropEndWhile_not (h : (dropEndWhile p xs).getLast? = some x) : p x = false := by
  unfold dropEndWhile at h
  rw [List.getLast?_reverse] at h
  exact head?_dropWhile_not h

theorem exists_dropped_run (p : α → Bool) (xs : List α) :
    ∃ run, xs = dropEndWhile p xs ++ run ∧ ∀ x ∈ run, p x = true := by
  refine ⟨(xs.reverse.takeWhile p).reverse, ?_, fun x hx => ?_⟩
  · rw [dropEndWhile, ← List.reverse_append, List.takeWhile_append_dropWhile, List.reverse_reverse]
  · exact List.mem_takeWhile_imp (List.mem_reverse.1 hx)

/-- A word stays whole where its last element is not one that is dropped. -/
theorem isPrefix_dropEndWhile_iff (h : word.getLast?.any p = false) :
    word <+: dropEndWhile p xs ↔ word <+: xs := by
  refine ⟨fun hword => hword.trans (dropEndWhile_isPrefix p xs), fun hword => ?_⟩
  obtain ⟨run, hrun, hall⟩ := exists_dropped_run p xs
  have hcut : word <+: dropEndWhile p xs ++ run := by rwa [← hrun]
  rcases isPrefix_append_cases hcut with hkept | ⟨more, hmore, rfl⟩
  · exact hkept
  · cases hlast : more.getLast? with
    | none => simp [List.getLast?_eq_none_iff.1 hlast]
    | some x =>
      have hx : p x = true := hall x (hmore.subset (List.mem_of_getLast? hlast))
      simp [hlast, hx] at h

end DocAtlas
