import DocAtlas.Path.Basic
import Mathlib.Data.List.Basic

/-! # Paths along names

What the spelling of a path says about its components, and how joining acts on them.

* `IsName` — the texts that can stand between two slashes and name something
* `Path.Spells` — the path is absolute and goes along the given names, without `..`
* `Path.below` — the path along more names
* `Path.same_congr` — having the same components is an equivalence
* `Path.components_join`, `Path.Spells.below` — joining appends components
* `Path.Spells.same_iff`, `Path.Spells.startsWith_iff` — comparisons are comparisons of names
-/

set_option autoImplicit false

namespace DocAtlas

/-! ## Names and segments -/

/-- A text that can stand between two slashes and name something. -/
def IsName (name : String) : Prop := name ≠ "" ∧ name ≠ "." ∧ name ≠ ".." ∧ '/' ∉ name.toList

theorem toList_ne_of_ne {s t : String} (h : s ≠ t) : s.toList ≠ t.toList :=
  fun e => h (String.toList_inj.1 e)

@[simp] theorem Component.ofSegment_nil : Component.ofSegment [] = none := rfl

theorem Component.ofSegment_name {name : String} (h : IsName name) :
    Component.ofSegment name.toList = some (.normal name) := by
  obtain ⟨h0, h1, h2, -⟩ := h
  have h0' : name.toList ≠ [] := toList_ne_of_ne h0
  have h1' : name.toList ≠ ['.'] := toList_ne_of_ne h1
  have h2' : name.toList ≠ ['.', '.'] := toList_ne_of_ne h2
  unfold Component.ofSegment
  split
  · contradiction
  · contradiction
  · contradiction
  · rw [String.ofList_toList]

/-- A segment that names something is the name it stands for. -/
theorem Component.ofSegment_eq_normal {segment : List Char} {name : String}
    (h : Component.ofSegment segment = some (.normal name)) :
    segment = name.toList ∧ name ≠ "" ∧ name ≠ "." ∧ name ≠ ".." := by
  unfold Component.ofSegment at h
  split at h
  · cases h
  · cases h
  · cases h
  · rename_i h0 h1 h2
    cases h
    have key : ∀ s : List Char, segment ≠ s → String.ofList segment ≠ String.ofList s :=
      fun s hs e => hs (by simpa using congrArg String.toList e)
    exact ⟨String.toList_ofList.symm, key [] h0, key ['.'] h1, key ['.', '.'] h2⟩

theorem Component.normal_injective : Function.Injective Component.normal := by
  intro name other h
  cases h
  rfl

theorem Component.name?_eq_some {c : Component} {name : String} :
    c.name? = some name ↔ c = .normal name := by
  cases c with
  | normal other => simp [name?]
  | root => simp [name?]
  | current => simp [name?]
  | parent => simp [name?]

theorem Component.filterMap_map_normal (names : List String) :
    (names.map Component.normal).filterMap Component.name? = names := by
  rw [List.filterMap_map]
  exact List.filterMap_some

/-- Components that are all names are told by their names. -/
theorem Component.map_normal_filterMap {components : List Component}
    (h : ∀ c ∈ components, ∃ name, c = .normal name) :
    (components.filterMap Component.name?).map .normal = components := by
  induction components with
  | nil => rfl
  | cons c rest ih =>
    obtain ⟨name, rfl⟩ := h c List.mem_cons_self
    have hrest := ih fun d hd => h d (List.mem_cons_of_mem _ hd)
    simp only [List.filterMap_cons, Component.name?, List.map_cons, hrest]

theorem Component.ofSegment_ne_root (segment : List Char) :
    Component.ofSegment segment ≠ some .root := by
  unfold Component.ofSegment
  split <;> simp

theorem Component.ofSegment_ne_current (segment : List Char) :
    Component.ofSegment segment ≠ some .current := by
  unfold Component.ofSegment
  split <;> simp

/-- What a segment spells is `..` or a name. -/
theorem Component.ofSegment_cases {segment : List Char} {c : Component}
    (h : Component.ofSegment segment = some c) : c = .parent ∨ ∃ name, c = .normal name := by
  cases c with
  | root => exact absurd h (ofSegment_ne_root segment)
  | current => exact absurd h (ofSegment_ne_current segment)
  | parent => exact Or.inl rfl
  | normal name => exact Or.inr ⟨name, rfl⟩

theorem Component.ofSegment_eq_none (segment : List Char) :
    Component.ofSegment segment = none ↔ Path.isIdle segment = true := by
  unfold Component.ofSegment Path.isIdle
  split <;> simp_all

/-- No segment has the character at which the text was cut. -/
theorem not_mem_of_mem_splitOn {c : Char} {s : List Char} :
    ∀ segment ∈ s.splitOn c, c ∉ segment := by
  induction s with
  | nil => simp
  | cons d rest ih =>
    intro segment hs
    rw [List.splitOn_cons_eq_if_modifyHead] at hs
    split at hs
    · rcases List.mem_cons.1 hs with rfl | hs
      · simp
      · exact ih segment hs
    · rename_i hd
      obtain ⟨first, others, hrest⟩ := List.exists_cons_of_ne_nil (List.splitOn_ne_nil c rest)
      rw [hrest] at hs ih
      rcases List.mem_cons.1 hs with rfl | hs
      · have hfirst := ih first (by simp)
        simp only [List.mem_cons, not_or]
        exact ⟨fun e => hd (by simp [e]), hfirst⟩
      · exact ih segment (by simp [hs])

namespace Path

/-! ## Components of a spelled text -/

theorem isAbsolute_iff (p : Path) : p.isAbsolute = true ↔ ∃ rest, p.text.toList = '/' :: rest := by
  unfold isAbsolute
  cases h : p.text.toList with
  | nil => simp
  | cons c rest => simp

theorem segments_of_absolute {p : Path} (h : p.isAbsolute = true) : ∃ tail, p.segments = [] :: tail := by
  obtain ⟨rest, hrest⟩ := (isAbsolute_iff p).1 h
  refine ⟨rest.splitOn '/', ?_⟩
  unfold segments
  rw [hrest, List.splitOn_cons_eq_if_modifyHead]
  simp

/-- The slash an absolute path starts with makes an empty segment, which names nothing. -/
theorem filterMap_body (p : Path) :
    p.body.filterMap Component.ofSegment = p.segments.filterMap Component.ofSegment := by
  unfold body
  split
  · rename_i h
    obtain ⟨tail, htail⟩ := segments_of_absolute h
    rw [htail, List.filterMap_cons_none Component.ofSegment_nil, List.tail_cons]
  · rfl

theorem components_eq (p : Path) :
    p.components = p.lead ++ p.segments.filterMap Component.ofSegment := by
  rw [components, filterMap_body]

theorem lead_of_absolute {p : Path} (h : p.isAbsolute = true) : p.lead = [.root] := by
  simp [lead, h]

theorem components_of_absolute {p : Path} (h : p.isAbsolute = true) :
    p.components = .root :: p.segments.filterMap Component.ofSegment := by
  rw [components_eq, lead_of_absolute h]
  rfl

theorem isAbsolute_of_components {p : Path} {rest : List Component}
    (h : p.components = .root :: rest) : p.isAbsolute = true := by
  by_contra hp
  have hlead : p.components = (if p.segments.head? = some ['.'] then [.current] else [])
      ++ p.segments.filterMap Component.ofSegment := by
    rw [components_eq, lead, if_neg hp]
  rw [h] at hlead
  split at hlead
  · simp at hlead
  · have hroot : Component.root ∈ p.segments.filterMap Component.ofSegment := by
      rw [List.nil_append] at hlead
      rw [← hlead]
      simp
    obtain ⟨segment, -, hsegment⟩ := List.mem_filterMap.1 hroot
    exact Component.ofSegment_ne_root segment hsegment

theorem names_eq (p : Path) :
    p.names = (p.segments.filterMap Component.ofSegment).filterMap Component.name? := by
  rw [names, components_eq, List.filterMap_append]
  have hlead : p.lead.filterMap Component.name? = [] := by
    unfold lead
    split
    · rfl
    · split <;> rfl
  rw [hlead, List.nil_append]

/-- Without `..` the segments name the names of the path. -/
theorem filterMap_segments_eq {p : Path}
    (h : .parent ∉ p.segments.filterMap Component.ofSegment) :
    p.segments.filterMap Component.ofSegment = p.names.map .normal := by
  have hnormal : ∀ c ∈ p.segments.filterMap Component.ofSegment, ∃ name, c = .normal name := by
    intro c hc
    obtain ⟨segment, -, hsegment⟩ := List.mem_filterMap.1 hc
    obtain rfl | hname := Component.ofSegment_cases hsegment
    · exact absurd hc h
    · exact hname
  rw [names_eq, Component.map_normal_filterMap hnormal]

theorem isName_of_mem_components {p : Path} {name : String} (h : .normal name ∈ p.components) :
    IsName name := by
  rw [components_eq, List.mem_append] at h
  rcases h with h | h
  · unfold lead at h
    split at h
    · simp at h
    · split at h <;> simp at h
  · obtain ⟨segment, hmem, hsegment⟩ := List.mem_filterMap.1 h
    obtain ⟨rfl, h0, h1, h2⟩ := Component.ofSegment_eq_normal hsegment
    exact ⟨h0, h1, h2, not_mem_of_mem_splitOn _ hmem⟩

theorem isName_of_mem_names {p : Path} {name : String} (h : name ∈ p.names) : IsName name := by
  obtain ⟨c, hc, hname⟩ := List.mem_filterMap.1 h
  rw [Component.name?_eq_some.1 hname] at hc
  exact isName_of_mem_components hc

/-! ## Paths with the same components -/

theorem same_iff {p q : Path} : p.same q = true ↔ p.components = q.components := by
  rw [same, beq_iff_eq]

theorem same_refl (p : Path) : p.same p = true := same_iff.2 rfl

theorem same_comm (p q : Path) : p.same q = q.same p := by
  rw [Bool.eq_iff_iff, same_iff, same_iff, eq_comm]

theorem same_trans {p q r : Path} (hpq : p.same q = true) (hqr : q.same r = true) :
    p.same r = true :=
  same_iff.2 ((same_iff.1 hpq).trans (same_iff.1 hqr))

theorem same_congr {p q : Path} (h : p.same q = true) (r : Path) : p.same r = q.same r := by
  rw [Bool.eq_iff_iff, same_iff, same_iff, same_iff.1 h]

/-! ## Joining -/

theorem text_join_relative {p q : Path} (hq : q.isAbsolute = false) :
    (p.join q).text.toList =
      if p.text = "" ∨ p.text.toList.getLast? = some '/' then p.text.toList ++ q.text.toList
      else p.text.toList ++ '/' :: q.text.toList := by
  unfold join
  rw [hq]
  by_cases h : p.text = "" ∨ p.text.toList.getLast? = some '/'
  · have h' : (p.text = "" || p.text.toList.getLast? = some '/') = true := by simpa using h
    rw [if_pos h, if_neg (by simp), if_pos h', String.toList_append]
  · have h' : ¬ (p.text = "" || p.text.toList.getLast? = some '/') = true := by simpa using h
    rw [if_neg h, if_neg (by simp), if_neg h', String.toList_append, String.toList_append]
    simp

/-- A path that is not empty and a relative one have their named segments one after the other. -/
theorem filterMap_segments_join {p q : Path} (hp : p.text ≠ "") (hq : q.isAbsolute = false) :
    (p.join q).segments.filterMap Component.ofSegment =
      p.segments.filterMap Component.ofSegment ++ q.segments.filterMap Component.ofSegment := by
  have htext := text_join_relative (p := p) hq
  by_cases hlast : p.text.toList.getLast? = some '/'
  · -- the slash at the end of `p` is the one that parts the two
    obtain ⟨front, hfront⟩ := List.getLast?_eq_some_iff.1 hlast
    rw [if_pos (Or.inr hlast)] at htext
    unfold segments
    rw [htext, hfront, List.append_assoc, List.singleton_append, List.splitOn_append_cons_self,
      List.splitOn_append_cons_self]
    simp
  · rw [if_neg (by simp [hp, hlast])] at htext
    unfold segments
    rw [htext, List.splitOn_append_cons_self, List.filterMap_append]

theorem isAbsolute_join {p q : Path} (hp : p.isAbsolute = true) (hq : q.isAbsolute = false) :
    (p.join q).isAbsolute = true := by
  obtain ⟨rest, hrest⟩ := (isAbsolute_iff p).1 hp
  rw [isAbsolute_iff, text_join_relative hq, hrest]
  split
  · exact ⟨_, rfl⟩
  · exact ⟨_, rfl⟩

theorem text_ne_of_absolute {p : Path} (hp : p.isAbsolute = true) : p.text ≠ "" := by
  intro h
  simp [isAbsolute, h] at hp

theorem components_join {p q : Path} (hp : p.isAbsolute = true) (hq : q.isAbsolute = false) :
    (p.join q).components = p.components ++ q.segments.filterMap Component.ofSegment := by
  rw [components_of_absolute (isAbsolute_join hp hq), components_of_absolute hp,
    filterMap_segments_join (text_ne_of_absolute hp) hq, List.cons_append]

theorem segments_name {name : String} (h : IsName name) :
    (Path.mk name).segments = [name.toList] :=
  List.splitOn_eq_singleton h.2.2.2

theorem isAbsolute_of_noSlash {text : String} (h : '/' ∉ text.toList) :
    (Path.mk text).isAbsolute = false := by
  by_contra habs
  obtain ⟨rest, hrest⟩ := (isAbsolute_iff _).1 (by simpa using habs)
  exact h (by rw [show text.toList = '/' :: rest from hrest]; simp)

theorem isAbsolute_name {name : String} (h : IsName name) : (Path.mk name).isAbsolute = false :=
  isAbsolute_of_noSlash h.2.2.2

theorem components_child {p : Path} {name : String} (hp : p.isAbsolute = true) (h : IsName name) :
    (p.child name).components = p.components ++ [.normal name] := by
  rw [child, components_join hp (isAbsolute_name h), segments_name h]
  simp [Component.ofSegment_name h]

/-! ## Paths along names -/

/-- The path is absolute and goes along `names`. -/
def Spells (p : Path) (names : List String) : Prop := p.components = .root :: names.map .normal

/-- The path along more names. -/
def below (p : Path) (names : List String) : Path := names.foldl child p

@[simp] theorem below_nil (p : Path) : p.below [] = p := rfl

@[simp] theorem below_cons (p : Path) (name : String) (names : List String) :
    p.below (name :: names) = (p.child name).below names := rfl

theorem components_below {p : Path} {more : List String} (hp : p.isAbsolute = true)
    (h : ∀ name ∈ more, IsName name) :
    (p.below more).components = p.components ++ more.map .normal := by
  induction more generalizing p with
  | nil => simp
  | cons name more ih =>
    have hname : IsName name := h name (by simp)
    have hrest := ih (isAbsolute_join hp (isAbsolute_name hname)) fun n hn => h n (by simp [hn])
    rw [below_cons, child, hrest, ← child, components_child hp hname]
    simp

theorem Spells.isAbsolute {p : Path} {names : List String} (h : p.Spells names) :
    p.isAbsolute = true :=
  isAbsolute_of_components h

theorem Spells.isName {p : Path} {names : List String} (h : p.Spells names) :
    ∀ name ∈ names, IsName name := by
  intro name hname
  apply isName_of_mem_components (p := p)
  rw [show p.components = _ from h]
  simp [hname]

theorem Spells.unique {p : Path} {xs ys : List String} (hx : p.Spells xs) (hy : p.Spells ys) :
    xs = ys := by
  have h : Component.root :: xs.map Component.normal = .root :: ys.map .normal := hx.symm.trans hy
  exact List.map_injective_iff.2 Component.normal_injective (List.cons.inj h).2

theorem Spells.child {p : Path} {names : List String} {name : String} (h : p.Spells names)
    (hn : IsName name) : (p.child name).Spells (names ++ [name]) := by
  unfold Spells
  rw [components_child h.isAbsolute hn, show p.components = _ from h]
  simp

/-- Of a child that goes along names the directory goes along all but the last, which is its name. -/
theorem Spells.of_child {p : Path} {names : List String} {last name : String}
    (hp : p.isAbsolute = true) (hlast : IsName last) (h : (p.child last).Spells (names ++ [name])) :
    p.Spells names ∧ last = name := by
  have hends : p.components ++ [.normal last] = .root :: names.map .normal ++ [.normal name] := by
    rw [← components_child hp hlast, show (p.child last).components = _ from h]
    simp
  obtain ⟨hfront, hname⟩ := List.append_inj' hends rfl
  exact ⟨hfront, Component.normal_injective (List.cons.inj hname).1⟩

theorem Spells.below {p : Path} {names more : List String} (h : p.Spells names)
    (hmore : ∀ name ∈ more, IsName name) : (p.below more).Spells (names ++ more) := by
  rw [Spells, components_below h.isAbsolute hmore, show p.components = _ from h]
  simp

theorem Spells.filterMap_segments {p : Path} {names : List String} (h : p.Spells names) :
    p.segments.filterMap Component.ofSegment = names.map .normal := by
  have hp := components_of_absolute h.isAbsolute
  rw [show p.components = _ from h] at hp
  exact (List.cons.inj hp).2.symm

theorem Spells.names_eq {p : Path} {names : List String} (h : p.Spells names) : p.names = names := by
  rw [Path.names_eq, h.filterMap_segments, Component.filterMap_map_normal]

theorem Spells.same_iff {p q : Path} {xs ys : List String} (hp : p.Spells xs) (hq : q.Spells ys) :
    p.same q = true ↔ xs = ys := by
  unfold same
  rw [beq_iff_eq]
  constructor
  · intro e
    exact Spells.unique (p := p) hp (e.trans hq)
  · rintro rfl
    exact hp.trans hq.symm

theorem Spells.startsWith_iff {p q : Path} {xs ys : List String} (hp : p.Spells xs)
    (hq : q.Spells ys) : p.startsWith q = true ↔ ys <+: xs := by
  unfold startsWith
  rw [List.isPrefixOf_iff_prefix, show p.components = _ from hp, show q.components = _ from hq,
    List.cons_prefix_cons, List.prefix_map_iff_of_injective Component.normal_injective]
  simp

end Path

end DocAtlas
