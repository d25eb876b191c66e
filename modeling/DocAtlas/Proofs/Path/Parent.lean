import DocAtlas.Proofs.Path.Normal
import DocAtlas.Proofs.Path.Renaming

/-! # Directories of paths

The directory of an absolute path has all components but the last, and working out `.` and `..` asks
for components only.

* `Path.exists_parent`, `Path.Spells.exists_parent` — the directory a path lies in
* `Path.normalize_congr` — spelling plays no part in normalising
* `Path.normalize_join` — a relative path seen from a directory
* `Path.foldl_pushNormal_parents` — how far `..` goes back
-/

set_option autoImplicit false

namespace DocAtlas.Path

variable {p q : Path}

/-! ## Parents -/

/-- The last segment that is left when idle ones are trimmed is the last that names something. -/
theorem filterMap_dropLast_trim {segments : List (List Char)} {front : List Component} {c : Component}
    (h : segments.filterMap Component.ofSegment = front ++ [c]) :
    (Text.dropEndWhile isIdle segments).dropLast.filterMap Component.ofSegment = front := by
  have htrim := filterMap_dropEndWhile_idle segments
  rw [h] at htrim
  rcases List.eq_nil_or_concat' (Text.dropEndWhile isIdle segments) with hnil | ⟨init, last, hlast⟩
  · rw [hnil] at htrim
    simp at htrim
  · have hend : (Text.dropEndWhile isIdle segments).getLast? = some last := by
      rw [hlast, List.getLast?_concat]
    have hnamed : isIdle last = false := getLast?_dropEndWhile_not hend
    obtain ⟨d, hd⟩ := Option.ne_none_iff_exists'.1 fun hnone => by
      rw [(Component.ofSegment_eq_none last).1 hnone] at hnamed
      cases hnamed
    rw [hlast, List.filterMap_append, List.filterMap_cons_some hd, List.filterMap_nil] at htrim
    rw [hlast, List.dropLast_concat]
    exact (List.append_inj' htrim rfl).1

theorem exists_parent {front : List Component} {c : Component}
    (h : p.components = .root :: (front ++ [c])) :
    ∃ dir, p.parent = some dir ∧ dir.components = .root :: front := by
  have habs := isAbsolute_of_components h
  have hbody : p.body.filterMap Component.ofSegment = front ++ [c] := by
    have hall := components_of_absolute habs
    rw [h, ← filterMap_body] at hall
    exact (List.cons.inj hall).2.symm
  have hmem : c ∈ p.body.filterMap Component.ofSegment := by simp [hbody]
  obtain ⟨segment, -, hsegment⟩ := List.mem_filterMap.1 hmem
  have hparent : p.parent = some (spell true (Text.dropEndWhile isIdle
      (Text.dropEndWhile isIdle p.body).dropLast)) := by
    unfold parent
    rw [h, ← List.cons_append, List.getLast?_concat, lead_of_absolute habs, habs]
    obtain rfl | ⟨name, rfl⟩ := Component.ofSegment_cases hsegment
    · rfl
    · rfl
  refine ⟨_, hparent, ?_⟩
  rw [components_of_absolute (isAbsolute_spell_true _), filterMap_segments_spell,
    filterMap_dropEndWhile_idle, filterMap_dropLast_trim hbody]
  intro s hs
  exact noSlash_of_mem_body s
    (mem_of_mem_dropEndWhile (List.dropLast_subset _ (mem_of_mem_dropEndWhile hs)))

theorem Spells.exists_parent {names : List String} {name : String} (h : p.Spells (names ++ [name])) :
    ∃ dir, p.parent = some dir ∧ dir.Spells names := by
  have hcomponents : p.components = .root :: (names.map .normal ++ [.normal name]) := by
    rw [show p.components = _ from h, List.map_append, List.map_singleton]
  exact Path.exists_parent hcomponents

/-! ## Working out -/

theorem normalize_congr (h : p.components = q.components) : p.normalize = q.normalize := by
  rw [normalize, normalize, h]

theorem pushNormal_name (names : List String) (name : String) :
    pushNormal (stackOf names) (.normal name) = stackOf (names ++ [name]) := by
  simp [stackOf, pushNormal]

theorem foldl_pushNormal_names (names more : List String) :
    (more.map Component.normal).foldl pushNormal (stackOf names) = stackOf (names ++ more) := by
  induction more generalizing names with
  | nil => simp
  | cons name more ih =>
    rw [List.map_cons, List.foldl_cons, pushNormal_name, ih, List.append_assoc, List.singleton_append]

theorem pushNormal_parent (names : List String) :
    pushNormal (stackOf names) .parent = stackOf names.dropLast := by
  rcases List.eq_nil_or_concat' names with rfl | ⟨front, last, rfl⟩
  · rfl
  · simp [stackOf, pushNormal]

/-- Every `..` takes one name back, as long as there is one. -/
theorem foldl_pushNormal_parents (n : Nat) (names : List String) :
    (List.replicate n Component.parent).foldl pushNormal (stackOf names) =
      stackOf (names.take (names.length - n)) := by
  induction n generalizing names with
  | zero => simp
  | succ n ih =>
    have hlength : min (names.length - 1 - n) (names.length - 1) = names.length - (n + 1) := by
      omega
    rw [List.replicate_succ, List.foldl_cons, pushNormal_parent, ih, List.length_dropLast,
      List.dropLast_eq_take, List.take_take, hlength]

theorem Spells.stack {names : List String} (h : p.Spells names) :
    p.components.foldl pushNormal [] = stackOf names := by
  rw [show p.components = _ from h, List.foldl_cons, show pushNormal [] .root = stackOf [] from rfl,
    foldl_pushNormal_names, List.nil_append]

/-- A relative path goes on from what the directory is worked out to. -/
theorem normalize_join {names more : List String} (hp : p.isAbsolute = true)
    (hq : q.isAbsolute = false) (hdir : p.components.foldl pushNormal [] = stackOf names)
    (hsteps : (q.segments.filterMap Component.ofSegment).foldl pushNormal (stackOf names) =
      stackOf more) :
    (p.join q).normalize = Tree.pathOf more := by
  apply normalize_of_stack
  rw [components_join hp hq, List.foldl_append, hdir, hsteps]

end DocAtlas.Path
