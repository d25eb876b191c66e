import DocAtlas.Proofs.Path.Joining
import DocAtlas.Proofs.Path.Normal

/-! # The canonical form of a path

The components of a normalised path are the ones that were worked out, so that normalising it once more
changes nothing. Joining another path goes on where the first one ended, normalised or not.

* `Path.components_normalize` — the components of a normalised path
* `Path.foldl_pushNormal_join` — joining goes on with the stack of the first path
* `Path.normalize_canonical` — normalised paths are a canonical form, and joining respects it
-/

set_option autoImplicit false

namespace DocAtlas.Path

variable {names : List String} {p q : Path}

/-! ## Components -/

theorem components_foldl_join (p : Path) {components : List Component}
    (h : ∀ c ∈ components, c = .parent ∨ ∃ name, c = .normal name ∧ IsName name) :
    (components.foldl (fun p c => p.join c.toPath) p).components = p.components ++ components := by
  have hone : ∀ c ∈ components, c.toPath.lead = [] ∧ c.toPath.components = [c] := by
    intro c hc
    rcases h c hc with rfl | ⟨name, rfl, hname⟩
    · decide
    · exact ⟨(isInner_of_isName hname).lead, components_name hname⟩
  induction components generalizing p with
  | nil => rw [List.foldl_nil, List.append_nil]
  | cons c rest ih =>
    obtain ⟨hlead, hc⟩ := hone c (by simp)
    rw [List.foldl_cons, ih _ (fun d hd => h d (by simp [hd])) (fun d hd => hone d (by simp [hd])),
      components_join_of_lead hlead, hc, List.append_assoc, List.singleton_append]

theorem components_ofComponents (base : Base) (hnames : ∀ n ∈ names, IsName n) :
    (ofComponents (workedOut base names)).components = workedOut base names := by
  have hnormal : ∀ c ∈ names.map Component.normal,
      c = .parent ∨ ∃ name, c = .normal name ∧ IsName name := by
    intro c hc
    obtain ⟨name, hname, rfl⟩ := List.mem_map.1 hc
    exact Or.inr ⟨name, rfl, hnames name hname⟩
  cases base with
  | root => exact components_foldl_join ⟨"/"⟩ hnormal
  | above count =>
    refine components_foldl_join ⟨""⟩ fun c hc => ?_
    rcases List.mem_append.1 hc with hc | hc
    · exact Or.inl (List.eq_of_mem_replicate hc)
    · exact hnormal c hc

theorem components_normalize (p : Path) : p.normalize.components = normalComponents p.components := by
  obtain ⟨base, names, hnormal, -, hnames⟩ := exists_normalComponents p
  rw [normalize, hnormal, components_ofComponents base hnames]

theorem foldl_pushNormal_normalize (p : Path) :
    p.normalize.components.foldl pushNormal [] = p.components.foldl pushNormal [] := by
  obtain ⟨base, names, hnormal, -, -⟩ := exists_normalComponents p
  rw [components_normalize, hnormal, foldl_pushNormal_workedOut, ← hnormal, normalComponents,
    List.reverse_reverse]

/-! ## Joining -/

/-- A `.` at the front of the second path is nothing to push. -/
theorem foldl_pushNormal_join (p : Path) (hq : q.isAbsolute = false) :
    (p.join q).components.foldl pushNormal [] =
      q.components.foldl pushNormal (p.components.foldl pushNormal []) := by
  by_cases hp : p.text = ""
  · rw [join_of_empty hp hq, components_eq_nil.2 hp, List.foldl_nil]
  · obtain ⟨front, hbody, hlead, hfront⟩ := body_join hp hq
    have hskip : ∀ stack, q.lead.foldl pushNormal stack = stack := by
      intro stack
      rw [lead, if_neg (by simp [hq])]
      split
      · exact pushNormal_current stack
      · rfl
    rw [components, hbody, hlead, List.filterMap_append, ← hfront, ← List.append_assoc, ← components,
      List.foldl_append, q.components_eq, List.foldl_append, hskip]

theorem normalize_eq_of_foldl (h : p.components.foldl pushNormal [] = q.components.foldl pushNormal []) :
    p.normalize = q.normalize := by
  rw [normalize, normalize, normalComponents, normalComponents, h]

/-- Normalising a path gives a canonical form: the same one for the path that is normalised already, of
the root or of some `..` with names behind it, absolute exactly if the path is. A path of this form is
kept, and a name with a `..` behind it falls away. Joining respects the form. -/
theorem normalize_canonical (p : Path) :
    p.normalize.normalize = p.normalize ∧
      p.normalize.isAbsolute = p.isAbsolute ∧
      .current ∉ p.normalize.components ∧
      (p.isAbsolute = true → .parent ∉ p.normalize.components) ∧
      (p.isAbsolute = false → ∃ (count : Nat) (names : List String),
        p.normalize.components = List.replicate count .parent ++ names.map .normal) ∧
      ((∃ base names, p.components = workedOut base names) → p.normalize.same p = true) ∧
      (∀ name, IsName name → ((p.child name).child "..").normalize = p.normalize) ∧
      ∀ q, q.isAbsolute = false → (p.join q).normalize = (p.normalize.join q).normalize := by
  obtain ⟨base, names, hnormal, hbase, hnames⟩ := exists_normalComponents p
  have hcomponents : p.normalize.components = workedOut base names :=
    (components_normalize p).trans hnormal
  refine ⟨normalize_eq_of_foldl (foldl_pushNormal_normalize p), ?_, ?_, ?_, ?_, ?_, ?_, ?_⟩
  · rw [Bool.eq_iff_iff, ← hbase, ← root_mem_components, hcomponents]
    exact root_mem_workedOut
  · rw [hcomponents]
    exact current_notMem_workedOut base names
  · intro habsolute
    rw [hcomponents, hbase.2 habsolute]
    exact parent_notMem_workedOut_root names
  · intro hrelative
    cases base with
    | root => simp [hbase.1 rfl] at hrelative
    | above count => exact ⟨count, names, hcomponents⟩
  · rintro ⟨base', names', hform⟩
    rw [same_iff, components_normalize, normalComponents, hform, foldl_pushNormal_workedOut,
      List.reverse_reverse]
  · intro name hname
    apply normalize_eq_of_foldl
    rw [child, foldl_pushNormal_join _ (by decide), components_child_name hname, List.foldl_append]
    exact congrArg (fun stack => pushNormal stack .parent) (pushNormal_normal _ name)
  · intro q hq
    apply normalize_eq_of_foldl
    rw [foldl_pushNormal_join p hq, foldl_pushNormal_join _ hq, foldl_pushNormal_normalize]

end DocAtlas.Path
