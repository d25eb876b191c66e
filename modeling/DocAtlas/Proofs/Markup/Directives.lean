import DocAtlas.Markup.Toctree
import Mathlib.Data.List.Basic
import Mathlib.Data.List.Induction

/-! # Directives and their bodies

The body of a directive is what is indented more than the directive itself, up to the first line that is
not. The lines of a directive are looked for with less: after a directive, at whatever column it stands,
all lines are read until one starts without a space or a tab. The two part where a line stops short of
the margin: it stands at the column of the directive or left of it, but is still indented.

* `Toctree.indent`, `Toctree.InBody` — the column of a line, and the body of a directive
* `Toctree.ReadFor`, `Toctree.StopsShort` — the lines that are read for a directive, and those that end
  its body unseen
* `Toctree.ReadFor.inBody_iff` — which of the lines that are read lie in the body
* `Toctree.directiveTargets_cons`, `Toctree.exists_line_of_target` — one line, and the line of one target
* `Toctree.readFor_subset_body_iff` — which directives have all that is read for them in their bodies
* `Toctree.entry_read_for_directive` — each entry is read for a directive
-/

set_option autoImplicit false

namespace DocAtlas

namespace Toctree

open Text (lines trim)

variable {directive line : List Char} {between : List (List Char)}

/-! ## Bodies -/

/-- The number of spaces and tabs a line starts with. -/
def indent (line : List Char) : Nat := (line.takeWhile fun c => c == ' ' || c == '\t').length

theorem isIndented_iff : isIndented line = true ↔ 0 < indent line := by
  cases line with
  | nil => decide
  | cons c rest => cases h : (c == ' ' || c == '\t') <;> simp_all [isIndented, indent]

/-- A line is in the body of a directive above it, `between` being the lines between them: it is indented
more, and so are all lines between that are not blank. -/
structure InBody (directive : List Char) (between : List (List Char)) (line : List Char) : Prop where
  deeper : indent directive < indent line
  noDedent : ∀ other ∈ between, trim other ≠ [] → indent directive < indent other

/-- A line is read for a directive above it: it is indented and no directive, and no line between them
is a directive or, unless it is blank, starts at the margin. -/
structure ReadFor (directive : List Char) (between : List (List Char)) (line : List Char) : Prop where
  opens : isDirective directive = true
  indented : isIndented line = true
  notDirective : isDirective line = false
  stays : ∀ other ∈ between, isDirective other = false ∧ (trim other ≠ [] → isIndented other = true)

/-- A line that is not blank stands at the column of the directive or left of it, but not at the margin. -/
def StopsShort (directive line : List Char) : Prop :=
  trim line ≠ [] ∧ 0 < indent line ∧ indent line ≤ indent directive

theorem ReadFor.inBody_iff (h : ReadFor directive between line) (hline : trim line ≠ []) :
    InBody directive between line ↔ ∀ other ∈ between ++ [line], ¬ StopsShort directive other := by
  constructor
  · rintro hbody other hother ⟨hblank, -, hle⟩
    rcases List.mem_append.1 hother with hother | hother
    · exact Nat.not_lt.2 hle (hbody.noDedent other hother hblank)
    · rw [List.mem_singleton.1 hother] at hle
      exact Nat.not_lt.2 hle hbody.deeper
  · intro hnone
    have hdeeper : ∀ other ∈ between ++ [line], trim other ≠ [] → isIndented other = true →
        indent directive < indent other := by
      intro other hother hblank hindented
      by_contra hle
      exact hnone other hother ⟨hblank, isIndented_iff.1 hindented, Nat.not_lt.1 hle⟩
    refine ⟨hdeeper line (by simp) hline h.indented, fun other hother hblank => ?_⟩
    exact hdeeper other (by simp [hother]) hblank ((h.stays other hother).2 hblank)

theorem ReadFor.inBody (h : ReadFor directive between line) (hmargin : indent directive = 0) :
    InBody directive between line where
  deeper := by
    rw [hmargin]
    exact isIndented_iff.1 h.indented
  noDedent other hother hblank := by
    rw [hmargin]
    exact isIndented_iff.1 ((h.stays other hother).2 hblank)

/-- A line with a single space below a directive is read, and in the body at the margin only. -/
theorem readFor_subset_body_iff (hopens : isDirective directive = true) :
    (∀ between line, ReadFor directive between line → InBody directive between line) ↔
      indent directive = 0 := by
  constructor
  · intro h
    have hread : ReadFor directive [] [' ', 'x'] := ⟨hopens, rfl, rfl, by simp⟩
    exact Nat.lt_one_iff.1 (h [] [' ', 'x'] hread).deeper
  · intro hmargin between line hread
    exact hread.inBody hmargin

/-! ## One line -/

/-- Whether a block is open behind a line, given whether one is open before it. -/
def opensBlock (inBlock : Bool) (line : List Char) : Bool :=
  isDirective line || inBlock && ((trim line).isEmpty || isIndented line)

/-- Whether a line is read, given whether a block is open before it. -/
def isRead (inBlock : Bool) (line : List Char) : Bool :=
  inBlock && !isDirective line && isIndented line

theorem target?_of_blank (h : trim line = []) : target? line = none := by
  unfold target?
  simp [h]

theorem directiveTargets_cons (inBlock : Bool) (line : List Char) (rest : List (List Char)) :
    directiveTargets inBlock (line :: rest) =
      (if isRead inBlock line then (target? line).toList else []) ++
        directiveTargets (opensBlock inBlock line) rest := by
  rw [directiveTargets]
  cases hdirective : isDirective line with
  | true => simp [isRead, opensBlock, hdirective]
  | false =>
    cases inBlock with
    | false => simp [isRead, opensBlock, hdirective]
    | true =>
      by_cases hblank : trim line = []
      · simp [isRead, opensBlock, hdirective, hblank, target?_of_blank hblank]
      · have hempty : (trim line).isEmpty = false := List.isEmpty_eq_false_iff.2 hblank
        cases hindented : isIndented line with
        | false => simp [isRead, opensBlock, hdirective, hblank, hempty, hindented]
        | true =>
          cases htarget : target? line <;>
            simp [isRead, opensBlock, hdirective, hblank, hindented]

/-! ## All lines -/

theorem exists_line_of_target {inBlock : Bool} {all front back : List (List Char)}
    {target : List Char} (h : directiveTargets inBlock all = front ++ target :: back) :
    ∃ before line behind, all = before ++ line :: behind ∧ target? line = some target ∧
      directiveTargets inBlock before = front ∧
      isRead (before.foldl opensBlock inBlock) line = true := by
  induction all generalizing inBlock front with
  | nil => simp [directiveTargets] at h
  | cons first rest ih =>
    rw [directiveTargets_cons] at h
    have hpass : ∀ passed front', (if isRead inBlock first then (target? first).toList else []) =
        passed → passed ++ front' = front →
        directiveTargets (opensBlock inBlock first) rest = front' ++ target :: back →
        ∃ before line behind, first :: rest = before ++ line :: behind ∧ target? line = some target ∧
          directiveTargets inBlock before = front ∧
          isRead (before.foldl opensBlock inBlock) line = true := by
      rintro passed front' hpassed rfl hrest
      obtain ⟨before, line, behind, rfl, htarget, hbefore, hread⟩ := ih hrest
      refine ⟨first :: before, line, behind, rfl, htarget, ?_, hread⟩
      rw [directiveTargets_cons, hpassed, hbefore]
    by_cases hread : isRead inBlock first = true
    · cases htarget : target? first with
      | none =>
        rw [if_pos hread, htarget, Option.toList_none, List.nil_append] at h
        exact hpass [] front (by rw [if_pos hread, htarget, Option.toList_none]) rfl h
      | some found =>
        rw [if_pos hread, htarget, Option.toList_some, List.singleton_append] at h
        cases front with
        | nil =>
          obtain ⟨rfl, -⟩ := List.cons.inj h
          exact ⟨[], first, rest, rfl, htarget, rfl, hread⟩
        | cons taken front =>
          obtain ⟨rfl, hrest⟩ := List.cons.inj h
          exact hpass [found] front (by rw [if_pos hread, htarget, Option.toList_some]) rfl hrest
    · rw [if_neg hread, List.nil_append] at h
      exact hpass [] front (if_neg hread) rfl h

/-- The induction is from the last line before: it opened the block, or the block was open before. -/
theorem exists_directive_of_open {before : List (List Char)}
    (h : before.foldl opensBlock false = true) :
    ∃ outer directive between, before = outer ++ directive :: between ∧ isDirective directive = true ∧
      ∀ other ∈ between,
        isDirective other = false ∧ (trim other ≠ [] → isIndented other = true) := by
  induction before using List.reverseRecOn with
  | nil => cases h
  | append_singleton before last ih =>
    rw [List.foldl_append, List.foldl_cons, List.foldl_nil, opensBlock] at h
    cases hlast : isDirective last with
    | true => exact ⟨before, last, [], rfl, hlast, by simp⟩
    | false =>
      simp only [hlast, Bool.false_or, Bool.and_eq_true, Bool.or_eq_true, List.isEmpty_iff] at h
      obtain ⟨outer, directive, between, rfl, hopens, hstays⟩ := ih h.1
      refine ⟨outer, directive, between ++ [last], by simp, hopens, fun other hother => ?_⟩
      rcases List.mem_append.1 hother with hother | hother
      · exact hstays other hother
      · rw [List.mem_singleton.1 hother]
        exact ⟨hlast, h.2.resolve_left⟩

/-! ## Entries -/

/-- Each entry comes from a line that is read for the last directive before it. The line lies in the body
of this directive exactly if none stops short from the one to the other. Whatever lines follow, all that
are read for the directive lie in its body exactly if the directive stands at the margin. -/
theorem entry_read_for_directive {content entry : String} {front back : List String}
    (h : entries .rst content = front ++ entry :: back) :
    ∃ outer directive between line behind,
      lines content.toList = outer ++ directive :: (between ++ line :: behind) ∧
      target? line = some entry.toList ∧
      directiveTargets false (outer ++ directive :: between) = front.map String.toList ∧
      ReadFor directive between line ∧
      (InBody directive between line ↔ ∀ other ∈ between ++ [line], ¬ StopsShort directive other) ∧
      ((∀ between line, ReadFor directive between line → InBody directive between line) ↔
        indent directive = 0) := by
  have htargets : directiveTargets false (lines content.toList) =
      front.map String.toList ++ entry.toList :: back.map String.toList := by
    have hmap := congrArg (List.map String.toList) h
    simpa [entries, ofRst, Function.comp_def] using hmap
  obtain ⟨before, line, behind, hlines, htarget, hfront, hread⟩ := exists_line_of_target htargets
  simp only [isRead, Bool.and_eq_true, Bool.not_eq_true'] at hread
  obtain ⟨⟨hopen, hline⟩, hindented⟩ := hread
  obtain ⟨outer, directive, between, rfl, hopens, hstays⟩ := exists_directive_of_open hopen
  have hreadFor : ReadFor directive between line := ⟨hopens, hindented, hline, hstays⟩
  have hblank : trim line ≠ [] := fun hblank => by simp [target?_of_blank hblank] at htarget
  exact ⟨outer, directive, between, line, behind, by simp [hlines], htarget, hfront, hreadFor,
    hreadFor.inBody_iff hblank, readFor_subset_body_iff hopens⟩

/-- The second entry of a directive at the margin, behind an option and a line that is indented more. -/
theorem entry_read_at_margin :
    entries .rst ".. toctree::\n   :maxdepth: 1\n\n     guide\n\n   install\n\nText\n   more\n" =
        ["guide"] ++ "install" :: [] ∧
      ∃ outer directive between line behind,
        lines ".. toctree::\n   :maxdepth: 1\n\n     guide\n\n   install\n\nText\n   more\n".toList =
          outer ++ directive :: (between ++ line :: behind) ∧
        target? line = some "install".toList ∧
        directiveTargets false (outer ++ directive :: between) = ["guide"].map String.toList ∧
        ReadFor directive between line ∧
        (InBody directive between line ↔ ∀ other ∈ between ++ [line], ¬ StopsShort directive other) ∧
        ((∀ between line, ReadFor directive between line → InBody directive between line) ↔
          indent directive = 0) :=
  have hentries : entries .rst
      ".. toctree::\n   :maxdepth: 1\n\n     guide\n\n   install\n\nText\n   more\n" =
      ["guide"] ++ "install" :: [] := by decide +kernel
  ⟨hentries, entry_read_for_directive hentries⟩

/-- The text behind an indented directive, at the column of the directive, is read as an entry. No line it
can come from lies in the body of a directive. -/
theorem text_behind_directive_read :
    entries .rst ".. only:: html\n\n   .. toctree::\n\n      install\n\n   See also\n" =
        ["install", "See also"] ∧
      ∀ outer directive between line behind,
        lines ".. only:: html\n\n   .. toctree::\n\n      install\n\n   See also\n".toList =
          outer ++ directive :: (between ++ line :: behind) →
        target? line = some "See also".toList → isDirective directive = true →
        ¬ InBody directive between line := by
  refine ⟨by decide +kernel, fun outer directive between line behind hlines htarget hopens hbody => ?_⟩
  have hdeeper : ∀ directive ∈
      lines ".. only:: html\n\n   .. toctree::\n\n      install\n\n   See also\n".toList, ∀ line ∈
      lines ".. only:: html\n\n   .. toctree::\n\n      install\n\n   See also\n".toList,
      isDirective directive = true → target? line = some "See also".toList →
      ¬ indent directive < indent line := by decide +kernel
  rw [hlines] at hdeeper
  exact hdeeper directive (by simp) line (by simp) hopens htarget hbody.deeper

end Toctree

end DocAtlas
