import DocAtlas.Proofs.Markup.Directives
import DocAtlas.Proofs.Text.Lines

/-! # Directives of texts put together

Where a line feed and more text follow a document, its entries stay, and so do those of the text behind.
Only a block that is still open may go on: as far as the lines behind are blank or indented and no
directives, they are read for it. If the first line that is not blank starts at the margin, there are none.

* `Toctree.directiveTargets_append` — the lines of two texts, read one after the other
* `Toctree.directiveTargets_true` — what an open block makes of the lines behind
* `Toctree.ofRst_append_newline` — the entries of two texts with a line feed between them
* `Toctree.entries_append_of_margin` — the entries of two texts that stay apart
-/

set_option autoImplicit false

namespace DocAtlas

namespace Toctree

open Text (chopReturn isBlank lines trim trimStart)

variable {line : List Char}

/-! ## Carriage returns -/

theorem isIndented_chopReturn (line : List Char) : isIndented (chopReturn line) = isIndented line := by
  rcases Text.chopReturn_cases line with h | ⟨front, rfl, hfront⟩
  · rw [h]
  · rw [hfront]
    cases front <;> rfl

theorem isDirective_chopReturn (line : List Char) :
    isDirective (chopReturn line) = isDirective line := by
  rcases Text.chopReturn_cases line with h | ⟨front, rfl, hfront⟩
  · rw [h]
  · have hreturn : ∀ s, ".. toctree::".toList <+: s ++ ['\r'] ↔ ".. toctree::".toList <+: s := by
      intro s
      rw [List.prefix_concat_iff]
      refine or_iff_right fun hwhole => ?_
      have hmem : '\r' ∈ ".. toctree::".toList := by simp [hwhole]
      exact absurd hmem (by decide)
    rw [hfront, Bool.eq_iff_iff, isDirective, isDirective, List.isPrefixOf_iff_prefix,
      List.isPrefixOf_iff_prefix, trimStart, trimStart, List.dropWhile_append]
    split
    · rename_i hempty
      rw [List.isEmpty_iff.1 hempty]
      decide
    · exact (hreturn _).symm

theorem target?_chopReturn (line : List Char) : target? (chopReturn line) = target? line := by
  unfold target?
  rw [Text.trim_chopReturn]

/-! ## One line after the other -/

theorem directiveTargets_append (inBlock : Bool) (front behind : List (List Char)) :
    directiveTargets inBlock (front ++ behind) =
      directiveTargets inBlock front ++ directiveTargets (front.foldl opensBlock inBlock) behind := by
  induction front generalizing inBlock with
  | nil => rfl
  | cons line front ih =>
    rw [List.cons_append, directiveTargets_cons, ih, ← List.append_assoc, ← directiveTargets_cons,
      List.foldl_cons]

/-- Whether an open block goes on at a line. -/
def goesOn (line : List Char) : Bool := !isDirective line && ((trim line).isEmpty || isIndented line)

/-- A line at which the block goes on is read, unless it is blank and names no document anyway. -/
theorem read_of_goesOn (h : goesOn line = true) :
    (if isRead true line then (target? line).toList else []) = (target? line).toList := by
  simp only [goesOn, Bool.and_eq_true, Bool.not_eq_true', Bool.or_eq_true, List.isEmpty_iff] at h
  obtain ⟨hdirective, hblank | hindented⟩ := h
  · rw [target?_of_blank hblank, Option.toList_none, ite_self]
  · rw [if_pos (by simp [isRead, hdirective, hindented])]

/-- As far as an open block goes on its lines are read. Behind them it is as if none had been open. -/
theorem directiveTargets_true (all : List (List Char)) :
    directiveTargets true all =
      (all.takeWhile goesOn).filterMap target? ++ directiveTargets false all := by
  induction all with
  | nil => rfl
  | cons line rest ih =>
    have hclosed : isRead false line = false := by rw [isRead, Bool.false_and, Bool.false_and]
    rw [directiveTargets_cons, directiveTargets_cons false, hclosed]
    cases hgoes : goesOn line with
    | true =>
      have hdirective : isDirective line = false := by simp_all [goesOn]
      have hopen : opensBlock true line = true := by simp_all [goesOn, opensBlock]
      have hshut : opensBlock false line = false := by simp [opensBlock, hdirective]
      rw [read_of_goesOn hgoes, List.takeWhile_cons_of_pos hgoes, hopen, hshut, ih]
      cases htarget : target? line <;> simp [htarget]
    | false =>
      have hsame : opensBlock true line = opensBlock false line := by
        cases hdirective : isDirective line <;> simp_all [goesOn, opensBlock]
      have hread : isRead true line = false := by
        cases hdirective : isDirective line <;> simp_all [goesOn, isRead]
      rw [List.takeWhile_cons_of_neg (by simp [hgoes]), hread, hsame]
      rfl

/-! ## Texts -/

theorem isRead_chopReturn (inBlock : Bool) (line : List Char) :
    isRead inBlock (chopReturn line) = isRead inBlock line := by
  rw [isRead, isRead, isDirective_chopReturn, isIndented_chopReturn]

theorem opensBlock_chopReturn (inBlock : Bool) (line : List Char) :
    opensBlock inBlock (chopReturn line) = opensBlock inBlock line := by
  rw [opensBlock, opensBlock, isDirective_chopReturn, isIndented_chopReturn, Text.trim_chopReturn]

/-- The last line of a text is read alike whether a line feed follows, or it is empty and no line. -/
theorem read_last_line (inBlock : Bool) (last : List Char) :
    directiveTargets inBlock [chopReturn last] =
        directiveTargets inBlock (if last = [] then [] else [last]) ∧
      [chopReturn last].foldl opensBlock inBlock =
        (if last = [] then [] else [last]).foldl opensBlock inBlock := by
  by_cases hempty : last = []
  · subst hempty
    cases inBlock <;> decide
  · rw [if_neg hempty, directiveTargets_cons, directiveTargets_cons, isRead_chopReturn,
      target?_chopReturn, opensBlock_chopReturn, List.foldl_cons, List.foldl_cons, opensBlock_chopReturn]
    exact ⟨rfl, rfl⟩

/-- Between the entries of the two texts stand those that a block open at the end of the first one reads
as it goes on. -/
theorem ofRst_append_newline (s t : List Char) :
    ofRst (s ++ '\n' :: t) =
      ofRst s ++ (if (lines s).foldl opensBlock false then
        ((lines t).takeWhile goesOn).filterMap target? else []) ++ ofRst t := by
  obtain ⟨front, last, hlines, happend⟩ := Text.exists_lines_append s
  obtain ⟨htargets, hopens⟩ := read_last_line (front.foldl opensBlock false) last
  have hseam : ofRst (s ++ '\n' :: t) =
      ofRst s ++ directiveTargets ((lines s).foldl opensBlock false) (lines t) := by
    rw [ofRst, happend, List.append_cons, directiveTargets_append, directiveTargets_append,
      List.foldl_append, htargets, hopens, ofRst, hlines, directiveTargets_append, List.foldl_append]
  rw [hseam, List.append_assoc, ofRst, ofRst]
  cases (lines s).foldl opensBlock false with
  | true => rw [directiveTargets_true, if_pos rfl]
  | false => rw [if_neg Bool.false_ne_true, List.nil_append]

/-- Where the first line that is not blank starts at the margin, an open block reads nothing more. -/
theorem filterMap_goesOn_of_margin {all : List (List Char)}
    (h : ∀ line, all.find? (fun l => trim l ≠ []) = some line → isIndented line = false) :
    (all.takeWhile goesOn).filterMap target? = [] := by
  induction all with
  | nil => rfl
  | cons line rest ih =>
    by_cases hblank : trim line = []
    · rw [List.find?_cons_of_neg (by simp [hblank])] at h
      cases hgoes : goesOn line with
      | true =>
        rw [List.takeWhile_cons_of_pos hgoes, List.filterMap_cons_none (target?_of_blank hblank), ih h]
      | false => rw [List.takeWhile_cons_of_neg (by simp [hgoes]), List.filterMap_nil]
    · have hmargin : isIndented line = false := h line (List.find?_cons_of_pos (by simpa using hblank))
      have hends : ¬ goesOn line = true := by simp [goesOn, hblank, hmargin]
      rw [List.takeWhile_cons_of_neg hends, List.filterMap_nil]

/-- If the first line of a text that is not blank starts at the margin, its entries follow those of the
text before it, and nothing comes between. -/
theorem entries_append_of_margin {a b : String}
    (h : ∀ line, (lines b.toList).find? (fun l => trim l ≠ []) = some line →
      line.head? ≠ some ' ' ∧ line.head? ≠ some '\t') :
    entries .rst (a ++ "\n" ++ b) = entries .rst a ++ entries .rst b := by
  have hmargin : ∀ line, (lines b.toList).find? (fun l => trim l ≠ []) = some line →
      isIndented line = false := fun line hline => by
    obtain ⟨hspace, htab⟩ := h line hline
    simp [isIndented, hspace, htab]
  have hjoin : (a ++ "\n" ++ b).toList = a.toList ++ '\n' :: b.toList := by
    simp
  rw [entries, entries, entries, hjoin, ofRst_append_newline, filterMap_goesOn_of_margin hmargin,
    ite_self, List.append_nil, List.map_append]

/-- A block is open at the end of the first text, and a line feed behind a carriage return parts the two. -/
theorem entries_append_at_margin :
    ((∀ line, (lines "\n \t\nText\n   more\n\n.. toctree::\n\tusage".toList).find?
          (fun l => trim l ≠ []) = some line →
        line.head? ≠ some ' ' ∧ line.head? ≠ some '\t') ∧
      entries .rst (".. toctree::\n   install\r" ++ "\n" ++
          "\n \t\nText\n   more\n\n.. toctree::\n\tusage") =
        entries .rst ".. toctree::\n   install\r" ++
          entries .rst "\n \t\nText\n   more\n\n.. toctree::\n\tusage") ∧
      entries .rst "\n \t\nText\n   more\n\n.. toctree::\n\tusage" = ["usage"] := by
  have hfirst : ∀ line, (lines "\n \t\nText\n   more\n\n.. toctree::\n\tusage".toList).find?
      (fun l => trim l ≠ []) = some line → line.head? ≠ some ' ' ∧ line.head? ≠ some '\t' := by
    intro line hline
    have htext : (lines "\n \t\nText\n   more\n\n.. toctree::\n\tusage".toList).find?
        (fun l => trim l ≠ []) = some "Text".toList := by decide +kernel
    obtain rfl := Option.some.inj (htext.symm.trans hline)
    decide
  exact ⟨⟨hfirst, entries_append_of_margin hfirst⟩, by decide +kernel⟩

/-- An indented line goes on with the block before it. -/
example : entries .rst (".. toctree::" ++ "\n" ++ "   guide") = ["guide"] ∧
    entries .rst "   guide" = [] := by
  decide +kernel

end Toctree

end DocAtlas
