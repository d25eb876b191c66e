import DocAtlas.Proofs.Path.Spelling
import DocAtlas.Proofs.Text.Runs

/-! # Paths behind a base

Stripping a base off a path leaves the names behind it, spelled without idle segments at either end.

* `filterMap_dropWhile_idle`, `filterMap_dropNamed` — what trimming does to the components
* `Path.segments_spell` — what spelling a list of segments gives back
* `Path.stripBase_of_components`, `Path.Spells.stripBase` — the path that is left
-/

set_option autoImplicit false

namespace DocAtlas

/-! ## Trimming segments -/

theorem filterMap_dropWhile_idle (segments : List (List Char)) :
    (segments.dropWhile Path.isIdle).filterMap Component.ofSegment =
      segments.filterMap Component.ofSegment := by
  induction segments with
  | nil => rfl
  | cons s rest ih =>
    rw [List.dropWhile_cons]
    split
    · rename_i h
      rw [ih, List.filterMap_cons_none ((Component.ofSegment_eq_none s).2 h)]
    · rfl

theorem filterMap_dropEndWhile_idle (segments : List (List Char)) :
    (Text.dropEndWhile Path.isIdle segments).filterMap Component.ofSegment =
      segments.filterMap Component.ofSegment := by
  unfold Text.dropEndWhile
  rw [List.filterMap_reverse, filterMap_dropWhile_idle, ← List.filterMap_reverse, List.reverse_reverse]

theorem filterMap_dropNamed (n : Nat) (segments : List (List Char)) :
    (Path.dropNamed n segments).filterMap Component.ofSegment =
      (segments.filterMap Component.ofSegment).drop n := by
  fun_induction Path.dropNamed n segments with
  | case1 => simp
  | case2 => simp
  | case3 n s rest h ih =>
    rw [ih, List.filterMap_cons_none ((Component.ofSegment_eq_none s).2 h)]
  | case4 n s rest h ih =>
    obtain ⟨c, hc⟩ := Option.ne_none_iff_exists'.1 (fun e => h ((Component.ofSegment_eq_none s).1 e))
    rw [ih, List.filterMap_cons_some hc, List.drop_succ_cons]

theorem mem_of_mem_dropNamed {n : Nat} {segments : List (List Char)} {s : List Char}
    (h : s ∈ Path.dropNamed n segments) : s ∈ segments := by
  fun_induction Path.dropNamed n segments with
  | case1 => exact h
  | case2 => exact h
  | case3 n t rest _ ih => exact List.mem_cons_of_mem t (ih h)
  | case4 n t rest _ ih => exact List.mem_cons_of_mem t (ih h)

/-! ## Spelling segments -/

/-- Segments that a relative path can be spelled from and read back. -/
structure Trimmed (segments : List (List Char)) : Prop where
  noSlash : ∀ s ∈ segments, '/' ∉ s
  head : ∀ s, segments.head? = some s → Path.isIdle s = false
  last : ∀ s, segments.getLast? = some s → Path.isIdle s = false

theorem Trimmed.trim {segments : List (List Char)} (h : ∀ s ∈ segments, '/' ∉ s) :
    Trimmed (Text.dropEndWhile Path.isIdle (segments.dropWhile Path.isIdle)) where
  noSlash := fun s hs => h s ((List.dropWhile_sublist _).subset (mem_of_mem_dropEndWhile hs))
  head := fun _ hs => head?_dropWhile_not (head?_dropEndWhile hs)
  last := fun _ hs => getLast?_dropEndWhile_not hs

namespace Path

theorem toList_text_spell (absolute : Bool) (segments : List (List Char)) :
    (spell absolute segments).text.toList =
      (if absolute then ['/'] else []) ++ ['/'].intercalate segments := by
  simp [spell]

theorem segments_spell (absolute : Bool) {segments : List (List Char)} (hne : segments ≠ [])
    (h : ∀ s ∈ segments, '/' ∉ s) :
    (spell absolute segments).segments = (if absolute then [[]] else []) ++ segments := by
  unfold Path.segments
  rw [toList_text_spell]
  cases absolute with
  | false => simpa using List.splitOn_intercalate '/' h hne
  | true =>
    have hcons : ['/'] ++ ['/'].intercalate segments = [] ++ '/' :: ['/'].intercalate segments := rfl
    simp only [if_true]
    rw [hcons, List.splitOn_append_cons_self, List.splitOn_nil, List.splitOn_intercalate '/' h hne]

theorem filterMap_segments_spell (absolute : Bool) {segments : List (List Char)}
    (h : ∀ s ∈ segments, '/' ∉ s) :
    (spell absolute segments).segments.filterMap Component.ofSegment =
      segments.filterMap Component.ofSegment := by
  by_cases hne : segments = []
  · subst hne
    cases absolute <;> rfl
  · rw [segments_spell absolute hne h, List.filterMap_append]
    cases absolute <;> simp

theorem isAbsolute_spell_false {segments : List (List Char)} (h : Trimmed segments) :
    (spell false segments).isAbsolute = false := by
  by_contra habs
  obtain ⟨rest, hrest⟩ := (isAbsolute_iff _).1 (by simpa using habs)
  rw [toList_text_spell] at hrest
  cases segments with
  | nil => simp at hrest
  | cons s others =>
    have hs := h.head s rfl
    have hslash := h.noSlash s (by simp)
    cases s with
    | nil => simp [isIdle] at hs
    | cons c cs =>
      have hc : c = '/' := by
        cases others with
        | nil => simpa using congrArg List.head? hrest
        | cons t ts => simpa using congrArg List.head? hrest
      exact hslash (by simp [hc])

/-- A path spelled from trimmed segments has the components they name, and no lead. -/
theorem components_spell_false {segments : List (List Char)} (h : Trimmed segments) :
    (spell false segments).components = segments.filterMap Component.ofSegment := by
  have hlead : (spell false segments).lead = [] := by
    rw [lead, isAbsolute_spell_false h, if_neg (by simp), if_neg]
    intro hdot
    cases segments with
    | nil => cases hdot
    | cons s rest =>
      rw [segments_spell false (by simp) h.noSlash] at hdot
      have hidle := h.head ['.'] (by simpa using hdot)
      cases hidle
  rw [components_eq, hlead, List.nil_append, filterMap_segments_spell false h.noSlash]

/-! ## Stripping -/

theorem noSlash_of_mem_body {p : Path} : ∀ s ∈ p.body, '/' ∉ s := by
  intro s hs
  apply not_mem_of_mem_splitOn (s := p.text.toList)
  unfold body at hs
  split at hs
  · exact List.mem_of_mem_tail hs
  · exact hs

/-- What of an absolute path lies behind a base it starts with. -/
theorem stripBase_of_components {p base : Path} {front more : List Component}
    (hbase : base.components = .root :: front) (hp : p.components = .root :: (front ++ more)) :
    ∃ segments, p.stripBase base = some (spell false segments) ∧ Trimmed segments ∧
      segments.filterMap Component.ofSegment = more := by
  have habs := isAbsolute_of_components hp
  have hstarts : p.startsWith base = true := by
    rw [startsWith, hbase, hp, List.isPrefixOf_iff_prefix, List.cons_prefix_cons]
    exact ⟨rfl, List.prefix_append _ _⟩
  have hlength : base.components.length - p.lead.length = front.length := by
    rw [hbase, lead_of_absolute habs]
    simp
  have hsegments : p.segments.filterMap Component.ofSegment = front ++ more := by
    have hall := components_of_absolute habs
    rw [hp] at hall
    exact (List.cons.inj hall).2.symm
  refine ⟨Text.dropEndWhile isIdle ((dropNamed front.length p.body).dropWhile isIdle), ?_, ?_, ?_⟩
  · unfold Path.stripBase
    rw [if_pos hstarts, if_neg (by simp [hbase]), hlength]
  · exact Trimmed.trim fun s hs => noSlash_of_mem_body s (mem_of_mem_dropNamed hs)
  · rw [filterMap_dropEndWhile_idle, filterMap_dropWhile_idle, filterMap_dropNamed, filterMap_body,
      hsegments, List.drop_left]

/-- What of a path lies behind a base it goes through. -/
theorem Spells.stripBase {p base : Path} {names more : List String} (hp : p.Spells (names ++ more))
    (hbase : base.Spells names) :
    ∃ segments, p.stripBase base = some (spell false segments) ∧ Trimmed segments ∧
      segments.filterMap Component.ofSegment = more.map .normal :=
  stripBase_of_components hbase (by rw [show p.components = _ from hp, List.map_append])

theorem stripBase_of_not_startsWith {p base : Path} (h : p.startsWith base = false) :
    p.stripBase base = none := by
  simp [Path.stripBase, h]

end Path

end DocAtlas
