import DocAtlas.Proofs.Path.Normal
import DocAtlas.Tree.Basic
import Mathlib.Data.List.Induction
import Mathlib.Data.String.Basic

/-! # The length of a path

Of all paths along the same names the one made of the names has the fewest bytes, so a directory that
can be opened in some spelling can be opened in that one.

* `Path.toList_text` — an absolute path is its segments, each behind a slash
* `Path.Spells.sublist` — what is spelled along names contains the path made of the names
* `Tree.isTooLong_pathOf` — if the one is not too long, neither is the other
-/

set_option autoImplicit false

namespace DocAtlas

/-- Each of the segments behind a slash. -/
def slashed (segments : List (List Char)) : List Char := segments.flatMap ('/' :: ·)

theorem slashed_eq {segments : List (List Char)} (h : segments ≠ []) :
    slashed segments = '/' :: ['/'].intercalate segments := by
  unfold slashed
  induction segments with
  | nil => exact absurd rfl h
  | cons s rest ih =>
    by_cases hrest : rest = []
    · subst hrest
      simp
    · rw [List.flatMap_cons, ih hrest, List.intercalate_cons_of_ne_nil hrest]
      simp

/-- Names are spelled with the fewest segments by themselves. -/
theorem sublist_slashed {segments : List (List Char)} {names : List String}
    (h : segments.filterMap Component.ofSegment = names.map .normal) :
    (slashed (names.map String.toList)).Sublist (slashed segments) := by
  unfold slashed
  induction segments generalizing names with
  | nil =>
    obtain rfl : names = [] := by simpa using h.symm
    exact List.Sublist.refl _
  | cons s rest ih =>
    rw [List.flatMap_cons]
    cases hs : Component.ofSegment s with
    | none =>
      rw [List.filterMap_cons_none hs] at h
      exact (ih h).trans (List.sublist_append_right _ _)
    | some c =>
      rw [List.filterMap_cons_some hs] at h
      cases names with
      | nil => cases h
      | cons name names =>
        rw [List.map_cons, List.cons.injEq] at h
        obtain ⟨rfl, hrest⟩ := h
        obtain ⟨rfl, -⟩ := Component.ofSegment_eq_normal hs
        exact (List.Sublist.refl _).append (ih hrest)

namespace Path

variable {p : Path} {names : List String}

theorem toList_text (hp : p.isAbsolute = true) : p.text.toList = slashed p.body := by
  obtain ⟨rest, hrest⟩ := (isAbsolute_iff p).1 hp
  have hbody : p.body = rest.splitOn '/' := by
    rw [body, if_pos hp, segments, hrest, List.splitOn_cons_eq_if_modifyHead]
    simp
  rw [hbody, slashed_eq (List.splitOn_ne_nil '/' rest), List.intercalate_splitOn, hrest]

theorem sublist_child (p : Path) {name : String} (h : IsName name) :
    (p.child name).text.toList.Sublist (p.text.toList ++ '/' :: name.toList) := by
  rw [child, text_join_relative (isAbsolute_name h)]
  split
  · exact (List.Sublist.refl _).append (List.sublist_cons_self _ _)
  · exact List.Sublist.refl _

theorem sublist_pathOf (h : ∀ n ∈ names, IsName n) (hne : names ≠ []) :
    (Tree.pathOf names).text.toList.Sublist (slashed (names.map String.toList)) := by
  induction names using List.reverseRecOn with
  | nil => exact absurd rfl hne
  | append_singleton front name ih =>
    have hname : IsName name := h name (by simp)
    have hpath : Tree.pathOf (front ++ [name]) = (Tree.pathOf front).child name := by
      simp [Tree.pathOf]
    rw [hpath]
    by_cases hfront : front = []
    · subst hfront
      have hslash : "/".toList.getLast? = some '/' := rfl
      have htext := text_join_relative (p := ⟨"/"⟩) (isAbsolute_name hname)
      rw [if_pos (Or.inr hslash)] at htext
      rw [child, Tree.pathOf, List.foldl_nil, htext]
      simp [slashed]
    · have hbefore := ih (fun n hn => h n (by simp [hn])) hfront
      have hslashed : slashed ((front ++ [name]).map String.toList) =
          slashed (front.map String.toList) ++ '/' :: name.toList := by
        simp [slashed]
      rw [hslashed]
      exact (sublist_child _ hname).trans (hbefore.append (List.Sublist.refl _))

theorem Spells.sublist (h : p.Spells names) :
    (Tree.pathOf names).text.toList.Sublist p.text.toList := by
  by_cases hne : names = []
  · subst hne
    obtain ⟨rest, hrest⟩ := (isAbsolute_iff p).1 h.isAbsolute
    rw [hrest]
    exact (List.nil_sublist rest).cons_cons '/'
  · rw [toList_text h.isAbsolute]
    refine (sublist_pathOf h.isName hne).trans (sublist_slashed ?_)
    rw [filterMap_body, h.filterMap_segments]

end Path

theorem Tree.isTooLong_pathOf {p : Path} {names : List String} (h : p.Spells names)
    (hp : isTooLong p = false) : isTooLong (pathOf names) = false := by
  have hle := String.utf8Len_le_of_sublist h.sublist
  rw [← String.utf8ByteSize_ofList, ← String.utf8ByteSize_ofList, String.ofList_toList,
    String.ofList_toList] at hle
  simp only [isTooLong, decide_eq_false_iff_not] at hp ⊢
  omega

end DocAtlas
