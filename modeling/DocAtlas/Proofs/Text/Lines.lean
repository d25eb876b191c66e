import DocAtlas.Proofs.Text.Runs
import DocAtlas.Text.Lines

/-! # Lines of texts put together

A line feed behind a text ends its last line, which may lose a carriage return by that. What follows makes
lines of its own.

* `Text.chopReturn` — a line without a carriage return at its end
* `Text.exists_lines_append` — the lines of two texts with a line feed between them
* `Text.trim_chopReturn` — trimmed, a line is the same without the carriage return
-/

set_option autoImplicit false

namespace DocAtlas.Text

variable {s line : List Char} {c : Char}

/-! ## One line feed -/

def chopReturn (line : List Char) : List Char :=
  if line.getLast? = some '\r' then line.dropLast else line

theorem chopReturn_cons (c : Char) (h : line ≠ []) : chopReturn (c :: line) = c :: chopReturn line := by
  obtain ⟨d, rest, rfl⟩ := List.exists_cons_of_ne_nil h
  unfold chopReturn
  rw [List.getLast?_cons_cons]
  split
  · rfl
  · rfl

theorem chopReturn_cases (line : List Char) :
    chopReturn line = line ∨ ∃ front, line = front ++ ['\r'] ∧ chopReturn line = front := by
  unfold chopReturn
  split
  · rename_i hlast
    obtain ⟨front, rfl⟩ := List.getLast?_eq_some_iff.1 hlast
    exact Or.inr ⟨front, rfl, List.dropLast_concat⟩
  · exact Or.inl rfl

theorem lines_cons (hnewline : c ≠ '\n') (hreturn : c = '\r' → s.head? ≠ some '\n') :
    lines (c :: s) = consFirst c (lines s) := by
  rw [lines]
  · exact hnewline
  · rintro rest hc rfl
    exact hreturn hc rfl

theorem lines_ne_nil (h : s ≠ []) : lines s ≠ [] := by
  fun_cases lines s with
  | case1 => exact absurd rfl h
  | case2 => simp
  | case3 => simp
  | case4 c rest =>
    cases lines rest <;> simp [consFirst]

/-- The last line of the first text stands apart: it is none if it is empty, unless a line feed ends it. -/
theorem exists_lines_append (s : List Char) :
    ∃ front last, lines s = front ++ (if last = [] then [] else [last]) ∧
      ∀ t, lines (s ++ '\n' :: t) = front ++ chopReturn last :: lines t := by
  fun_induction lines s with
  | case1 => exact ⟨[], [], rfl, fun t => lines_newline t⟩
  | case2 rest ih =>
    obtain ⟨front, last, hlines, happend⟩ := ih
    refine ⟨[] :: front, last, by rw [hlines, List.cons_append], fun t => ?_⟩
    rw [List.cons_append, lines_newline, happend, List.cons_append]
  | case3 rest ih =>
    obtain ⟨front, last, hlines, happend⟩ := ih
    refine ⟨[] :: front, last, by rw [hlines, List.cons_append], fun t => ?_⟩
    rw [List.cons_append, List.cons_append, lines_return_newline, happend, List.cons_append]
  | case4 c rest hnewline hreturn ih =>
    cases rest with
    | nil =>
      refine ⟨[], [c], rfl, fun t => ?_⟩
      by_cases hc : c = '\r'
      · rw [hc]
        exact lines_return_newline t
      · rw [List.singleton_append, lines_cons hnewline fun h => absurd h hc, lines_newline, chopReturn,
          if_neg (by simpa using hc)]
        rfl
    | cons d rest =>
      obtain ⟨front, last, hlines, happend⟩ := ih
      have hjoin : ∀ t, lines (c :: d :: rest ++ '\n' :: t) =
          consFirst c (front ++ chopReturn last :: lines t) := by
        intro t
        rw [List.cons_append, lines_cons hnewline fun hc hd => ?_, happend]
        exact hreturn rest hc (by simpa using hd)
      cases front with
      | nil =>
        have hlast : last ≠ [] := by
          rintro rfl
          exact lines_ne_nil (List.cons_ne_nil d rest) hlines
        refine ⟨[], c :: last, ?_, fun t => ?_⟩
        · rw [hlines, if_neg hlast, if_neg (List.cons_ne_nil c last)]
          rfl
        · rw [hjoin, chopReturn_cons c hlast]
          rfl
      | cons first front =>
        refine ⟨(c :: first) :: front, last, ?_, fun t => ?_⟩
        · rw [hlines]
          rfl
        · rw [hjoin]
          rfl

/-! ## Trimming -/

theorem trim_append_blank (s : List Char) (hc : isBlank c = true) : trim (s ++ [c]) = trim s := by
  have hend : ∀ xs, trimEnd (xs ++ [c]) = trimEnd xs := by
    intro xs
    rw [trimEnd, trimEnd, dropEndWhile, dropEndWhile, List.reverse_append, List.reverse_singleton,
      List.singleton_append, List.dropWhile_cons_of_pos hc]
  unfold trim trimStart
  rw [List.dropWhile_append]
  split
  · rename_i hempty
    rw [List.isEmpty_iff.1 hempty, List.dropWhile_cons_of_pos hc, List.dropWhile_nil]
  · exact hend _

theorem trim_chopReturn (line : List Char) : trim (chopReturn line) = trim line := by
  rcases chopReturn_cases line with h | ⟨front, rfl, hfront⟩
  · rw [h]
  · rw [hfront, trim_append_blank front (by decide)]

end DocAtlas.Text
