import DocAtlas.Path.Normal
import DocAtlas.Tree.Basic
import DocAtlas.Proofs.Path.Spelling
import Mathlib.Data.List.Induction

/-! # Normalised paths

Normalising a path works every `.` and `..` out. What is left is the root with names behind it, as what
would lead above the root stays there, or some `..` with names behind them.

* `Path.Base`, `Path.workedOut` — what names stand behind, and the components of a worked out path
* `Path.exists_foldl_workedOut` — the stack has this form all the time
* `Path.exists_normalComponents` — the components of every path are worked out to this form
* `Path.exists_normalize` — a normalised absolute path is the path along some names
* `Path.isAbsolute_parent`, `Path.isAbsolute_below` — paths made of absolute paths are absolute
-/

set_option autoImplicit false

namespace DocAtlas.Path

/-! ## Absolute paths -/

theorem isAbsolute_join_left {p q : Path} (hp : p.isAbsolute = true) : (p.join q).isAbsolute = true := by
  cases hq : q.isAbsolute with
  | true =>
    unfold join
    rwa [if_pos hq]
  | false => exact isAbsolute_join hp hq

theorem isAbsolute_below {p : Path} (hp : p.isAbsolute = true) (names : List String) :
    (p.below names).isAbsolute = true := by
  induction names generalizing p with
  | nil => exact hp
  | cons name names ih => exact ih (isAbsolute_join_left hp)

theorem isAbsolute_parent {p q : Path} (hp : p.isAbsolute = true) (h : p.parent = some q) :
    q.isAbsolute = true := by
  have hspell : ∀ segments, (spell p.isAbsolute segments).isAbsolute = true := by
    intro segments
    rw [hp, isAbsolute_iff]
    exact ⟨['/'].intercalate segments, by simp [spell]⟩
  unfold parent at h
  split at h
  · cases h
  · cases h
  · rename_i hlast
    -- the `.` a relative path starts with is no component of an absolute one
    have hmem := List.mem_of_getLast? hlast
    rw [components_of_absolute hp] at hmem
    rcases List.mem_cons.1 hmem with hroot | hmem
    · cases hroot
    · obtain ⟨segment, -, hsegment⟩ := List.mem_filterMap.1 hmem
      exact absurd hsegment (Component.ofSegment_ne_current segment)
  · cases h
    exact hspell _

/-! ## Worked out components -/

/-- What the names of a worked out path stand behind: the root, or one `..` for each directory above the
place it is seen from. -/
inductive Base where
  | root
  | above (count : Nat)
  deriving DecidableEq

def Base.components : Base → List Component
  | .root => [.root]
  | .above count => List.replicate count .parent

def workedOut (base : Base) (names : List String) : List Component :=
  base.components ++ names.map .normal

variable {base : Base} {names : List String}

theorem current_notMem_workedOut (base : Base) (names : List String) :
    Component.current ∉ workedOut base names := by
  cases base <;> simp [workedOut, Base.components]

theorem parent_notMem_workedOut_root (names : List String) :
    Component.parent ∉ workedOut .root names := by
  simp [workedOut, Base.components]

theorem root_mem_workedOut : Component.root ∈ workedOut base names ↔ base = .root := by
  cases base <;> simp [workedOut, Base.components]

theorem workedOut_concat (base : Base) (names : List String) (name : String) :
    workedOut base (names ++ [name]) = workedOut base names ++ [.normal name] := by
  simp [workedOut]

/-! ## The stack -/

theorem pushNormal_normal (stack : List Component) (name : String) :
    pushNormal stack (.normal name) = .normal name :: stack := by
  simp [pushNormal]

theorem pushNormal_current (stack : List Component) : pushNormal stack .current = stack := by
  simp [pushNormal]

theorem pushNormal_parents (count : Nat) :
    pushNormal (List.replicate count .parent) .parent = List.replicate (count + 1) .parent := by
  cases count <;> rfl

/-- A `..` takes the last name back. Without names it stays at the root, or leads one further up. -/
theorem exists_pushNormal_parent (base : Base) (hnames : ∀ n ∈ names, IsName n) :
    ∃ base' names', pushNormal (workedOut base names).reverse .parent =
        (workedOut base' names').reverse ∧
      (base' = .root ↔ base = .root) ∧ ∀ n ∈ names', IsName n := by
  rcases List.eq_nil_or_concat' names with rfl | ⟨front, last, rfl⟩
  · cases base with
    | root => exact ⟨.root, [], rfl, Iff.rfl, hnames⟩
    | above count =>
      refine ⟨.above (count + 1), [], ?_, by simp, hnames⟩
      simpa [workedOut, Base.components] using pushNormal_parents count
  · refine ⟨base, front, ?_, Iff.rfl, fun n hn => hnames n (by simp [hn])⟩
    rw [workedOut_concat, List.reverse_append]
    rfl

theorem exists_push_workedOut (base : Base) {c : Component} (hc : c ≠ .root)
    (hname : ∀ name, c = .normal name → IsName name) (hnames : ∀ n ∈ names, IsName n) :
    ∃ base' names', pushNormal (workedOut base names).reverse c = (workedOut base' names').reverse ∧
      (base' = .root ↔ base = .root) ∧ ∀ n ∈ names', IsName n := by
  cases c with
  | root => exact absurd rfl hc
  | current => exact ⟨base, names, pushNormal_current _, Iff.rfl, hnames⟩
  | parent => exact exists_pushNormal_parent base hnames
  | normal name =>
    refine ⟨base, names ++ [name], ?_, Iff.rfl, List.forall_mem_append.2 ⟨hnames, ?_⟩⟩
    · rw [pushNormal_normal, workedOut_concat, List.reverse_append]
      rfl
    · exact List.forall_mem_singleton.2 (hname name rfl)

theorem exists_foldl_workedOut (base : Base) {components : List Component}
    (hroot : .root ∉ components) (hcomponents : ∀ name, .normal name ∈ components → IsName name)
    (hnames : ∀ n ∈ names, IsName n) :
    ∃ base' names', components.foldl pushNormal (workedOut base names).reverse =
        (workedOut base' names').reverse ∧
      (base' = .root ↔ base = .root) ∧ ∀ n ∈ names', IsName n := by
  induction components generalizing base names with
  | nil => exact ⟨base, names, rfl, Iff.rfl, hnames⟩
  | cons c rest ih =>
    obtain ⟨between, more, hpush, hbetween, hmore⟩ := exists_push_workedOut base
      (List.ne_of_not_mem_cons hroot).symm (fun name h => hcomponents name (by simp [h])) hnames
    obtain ⟨base', names', hrest, hbase, hall⟩ := ih between
      (List.not_mem_of_not_mem_cons hroot) (fun name h => hcomponents name (by simp [h])) hmore
    exact ⟨base', names', by rw [List.foldl_cons, hpush, hrest], hbase.trans hbetween, hall⟩

theorem foldl_pushNormal_ups (count : Nat) :
    (List.replicate count Component.parent).foldl pushNormal [] = List.replicate count .parent := by
  induction count with
  | zero => rfl
  | succ count ih =>
    rw [List.replicate_succ', List.foldl_append, ih, ← List.replicate_succ']
    exact pushNormal_parents count

/-- Worked out components are pushed one upon the other. -/
theorem foldl_pushNormal_workedOut (base : Base) (names : List String) :
    (workedOut base names).foldl pushNormal [] = (workedOut base names).reverse := by
  induction names using List.reverseRecOn with
  | nil =>
    cases base with
    | root => rfl
    | above count => simpa [workedOut, Base.components] using foldl_pushNormal_ups count
  | append_singleton names name ih =>
    rw [workedOut_concat, List.foldl_append, ih, List.reverse_append]
    exact pushNormal_normal _ name

theorem root_notMem_segments (p : Path) : .root ∉ p.segments.filterMap Component.ofSegment := by
  intro h
  obtain ⟨segment, -, hsegment⟩ := List.mem_filterMap.1 h
  exact Component.ofSegment_ne_root segment hsegment

theorem root_mem_components {p : Path} : .root ∈ p.components ↔ p.isAbsolute = true := by
  rw [components_eq, List.mem_append, or_iff_left (root_notMem_segments p), lead]
  split
  · simp [*]
  · split <;> simp [*]

/-- The components of every path are worked out to the root or some `..` with names behind it. -/
theorem exists_normalComponents (p : Path) :
    ∃ base names, normalComponents p.components = workedOut base names ∧
      (base = .root ↔ p.isAbsolute = true) ∧ ∀ n ∈ names, IsName n := by
  have hnames : ∀ name, .normal name ∈ p.segments.filterMap Component.ofSegment → IsName name :=
    fun name h => isName_of_mem_components (p := p) (by rw [components_eq]; simp [h])
  obtain ⟨start, hstart, hlead⟩ : ∃ start : Base, (start = .root ↔ p.isAbsolute = true) ∧
      p.lead.foldl pushNormal [] = (workedOut start []).reverse := by
    unfold lead
    split
    · rename_i habsolute
      exact ⟨.root, by simp [habsolute], rfl⟩
    · rename_i hrelative
      refine ⟨.above 0, by simp [hrelative], ?_⟩
      split <;> rfl
  obtain ⟨base, names, hfold, hbase, hall⟩ := exists_foldl_workedOut start (root_notMem_segments p) hnames
    (List.forall_mem_nil IsName)
  refine ⟨base, names, ?_, hbase.trans hstart, hall⟩
  rw [normalComponents, components_eq, List.foldl_append, hlead, hfold, List.reverse_reverse]

/-! ## Absolute paths worked out -/

/-- A stack with the root at the bottom and names on it. -/
def stackOf (names : List String) : List Component := (.root :: names.map Component.normal).reverse

theorem ofComponents_names (names : List String) :
    ofComponents (.root :: names.map .normal) = Tree.pathOf names := by
  unfold ofComponents Tree.pathOf
  rw [List.foldl_cons, List.foldl_map]
  rfl

theorem exists_stack {p : Path} (hp : p.isAbsolute = true) :
    ∃ names, p.components.foldl pushNormal [] = stackOf names ∧ ∀ n ∈ names, IsName n := by
  obtain ⟨base, names, hnormal, hbase, hnames⟩ := exists_normalComponents p
  obtain rfl := hbase.2 hp
  exact ⟨names, List.reverse_eq_iff.1 hnormal, hnames⟩

theorem normalize_of_stack {p : Path} {names : List String}
    (h : p.components.foldl pushNormal [] = stackOf names) : p.normalize = Tree.pathOf names := by
  rw [normalize, normalComponents, h, stackOf, List.reverse_reverse, ofComponents_names]

theorem exists_normalize {p : Path} (hp : p.isAbsolute = true) :
    ∃ names, p.normalize = Tree.pathOf names ∧ ∀ n ∈ names, IsName n := by
  obtain ⟨names, hstack, hnames⟩ := exists_stack hp
  exact ⟨names, normalize_of_stack hstack, hnames⟩

end DocAtlas.Path
