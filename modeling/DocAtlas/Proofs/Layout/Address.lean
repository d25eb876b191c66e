import DocAtlas.Layout
import DocAtlas.Proofs.Path.Joining
import DocAtlas.Proofs.Path.Renaming

/-! # Output addresses

An address is the names of a path below the root with the last name under the output suffix. Two
paths below the root have one address exactly if they agree in these names.

* `Trimmed.eq_append` — the last name of a relative path is its last segment
* `Path.Spells.components_withExtension` — a path along names with another extension
* `Layout.components_relative` — the components of the path below the root
* `Layout.urlFor_below`, `Layout.urlFor_outside` — the names an address is made of
* `intercalate_injective` — an address tells its names
* `Layout.urlFor_eq_iff` — when two documents share an address
-/

set_option autoImplicit false

namespace DocAtlas

/-! ## The last segment -/

theorem Trimmed.exists_last {segments : List (List Char)} (h : Trimmed segments)
    {before : List Component} {c : Component}
    (hnames : segments.filterMap Component.ofSegment = before ++ [c]) :
    ∃ front last, segments = front ++ [last] ∧ Component.ofSegment last = some c ∧
      front.filterMap Component.ofSegment = before := by
  have hne : segments ≠ [] := by
    rintro rfl
    simp at hnames
  obtain ⟨front, last, rfl⟩ := (List.eq_nil_or_concat' segments).resolve_left hne
  have hidle : Path.isIdle last = false := h.last last (by simp)
  obtain ⟨d, hd⟩ := Option.ne_none_iff_exists'.1 fun e => by
    have := (Component.ofSegment_eq_none last).1 e
    rw [hidle] at this
    cases this
  rw [List.filterMap_append, List.filterMap_cons_some hd, List.filterMap_nil] at hnames
  obtain ⟨hfront, hlast⟩ := List.append_inj' hnames rfl
  rw [(List.cons.inj hlast).1] at hd
  exact ⟨front, last, rfl, hd, hfront⟩

theorem Trimmed.eq_append {segments : List (List Char)} (h : Trimmed segments)
    {before : List Component} {name : String}
    (hnames : segments.filterMap Component.ofSegment = before ++ [.normal name]) :
    ∃ front, segments = front ++ [name.toList] ∧
      front.filterMap Component.ofSegment = before := by
  obtain ⟨front, last, rfl, hlast, hfront⟩ := h.exists_last hnames
  obtain ⟨rfl, -⟩ := Component.ofSegment_eq_normal hlast
  exact ⟨front, rfl, hfront⟩

/-- The last name of a path that was made as a child is its last segment. -/
theorem Path.body_child {p : Path} {name : String} (hp : p.isAbsolute = true) (hn : IsName name) :
    ∃ front, (p.child name).body = front ++ [name.toList] ∧
      front.filterMap Component.ofSegment = p.segments.filterMap Component.ofSegment := by
  obtain ⟨front, hbody, -, hfront⟩ := body_join (text_ne_of_absolute hp) (isAbsolute_name hn)
  refine ⟨front, ?_, ?_⟩
  · rw [child, hbody, segments_name hn]
  · rw [← hfront, filterMap_body]

theorem Path.body_spell_false {segments : List (List Char)} (h : Trimmed segments)
    (hne : segments ≠ []) : (spell false segments).body = segments := by
  rw [body, isAbsolute_spell_false h, if_neg (by simp), segments_spell false hne h.noSlash]
  rfl

theorem Path.Spells.components_withExtension {p : Path} {names : List String}
    {name extension : String} (hp : p.Spells names) (hname : IsName name)
    (hext : '/' ∉ extension.toList) :
    ((p.child name).withExtension extension).components =
      .root :: (names.map .normal ++
        (Component.ofSegment (outputSegment extension name)).toList) := by
  obtain ⟨front, hbody, hfront⟩ := Path.body_child hp.isAbsolute hname
  have hchild : (p.child name).isAbsolute = true :=
    Path.isAbsolute_join hp.isAbsolute (Path.isAbsolute_name hname)
  rw [Path.components_withExtension hchild hbody hname hext, hfront, hp.filterMap_segments]

/-! ## Names of an address -/

namespace Layout

theorem relative_below {layout : Layout} {p : Path} {rootNames names : List String}
    (hroot : layout.root.Spells rootNames) (hp : p.Spells (rootNames ++ names)) :
    ∃ segments, layout.relative p = Path.spell false segments ∧ Trimmed segments ∧
      segments.filterMap Component.ofSegment = names.map .normal := by
  obtain ⟨segments, hstrip, htrim, hnames⟩ := hp.stripBase hroot
  exact ⟨segments, by rw [relative, hstrip]; rfl, htrim, hnames⟩

/-- The path below the root goes along the names below the root. -/
theorem components_relative {layout : Layout} {p : Path} {rootNames names : List String}
    (hroot : layout.root.Spells rootNames) (hp : p.Spells (rootNames ++ names)) :
    (layout.relative p).components = names.map .normal := by
  obtain ⟨segments, hrelative, htrim, hnames⟩ := relative_below hroot hp
  rw [hrelative, Path.components_spell_false htrim, hnames]

/-- The components of a path that starts with the root are those of the root and those below. -/
theorem relative_of_startsWith {layout : Layout} {p : Path} (hroot : layout.root.isAbsolute = true)
    (h : p.startsWith layout.root = true) :
    ∃ segments, layout.relative p = Path.spell false segments ∧ Trimmed segments ∧
      p.components = layout.root.components ++ segments.filterMap Component.ofSegment := by
  have hfront := Path.components_of_absolute hroot
  rw [Path.startsWith, List.isPrefixOf_iff_prefix] at h
  obtain ⟨more, hmore⟩ := h
  obtain ⟨segments, hstrip, htrim, hsegments⟩ :=
    Path.stripBase_of_components hfront (by rw [← hmore, hfront, List.cons_append])
  exact ⟨segments, by rw [relative, hstrip]; rfl, htrim, by rw [hsegments, hmore]⟩

theorem relative_outside {layout : Layout} {p : Path} (h : p.startsWith layout.root = false) :
    layout.relative p = p := by
  rw [relative, Path.stripBase_of_not_startsWith h]
  rfl

/-- The path below the root tells the components. -/
theorem same_of_relative_eq {layout : Layout} {p q : Path} (hroot : layout.root.isAbsolute = true)
    (hp : p.isAbsolute = true) (hq : q.isAbsolute = true)
    (h : layout.relative p = layout.relative q) : p.same q = true := by
  have hinside : ∀ x : Path, x.startsWith layout.root = true →
      (layout.relative x).isAbsolute = false ∧ x.components =
        layout.root.components ++ (layout.relative x).segments.filterMap Component.ofSegment := by
    intro x hstarts
    obtain ⟨segments, hrelative, htrim, hcomponents⟩ := relative_of_startsWith hroot hstarts
    rw [hrelative, Path.filterMap_segments_spell false htrim.noSlash]
    exact ⟨Path.isAbsolute_spell_false htrim, hcomponents⟩
  rw [Path.same_iff]
  cases hps : p.startsWith layout.root with
  | true =>
    obtain ⟨hrelative, hcomponents⟩ := hinside p hps
    cases hqs : q.startsWith layout.root with
    | true => rw [hcomponents, (hinside q hqs).2, h]
    | false =>
      rw [h, relative_outside hqs, hq] at hrelative
      cases hrelative
  | false =>
    rw [relative_outside hps] at h
    cases hqs : q.startsWith layout.root with
    | true =>
      have hrelative := (hinside q hqs).1
      rw [← h, hp] at hrelative
      cases hrelative
    | false => rw [h, relative_outside hqs]

theorem body_relative_below {layout : Layout} {p : Path} {rootNames names : List String}
    {name : String} (hroot : layout.root.Spells rootNames)
    (hp : p.Spells (rootNames ++ (names ++ [name]))) :
    ∃ front, (layout.relative p).body = front ++ [name.toList] ∧
      front.filterMap Component.ofSegment = names.map .normal := by
  obtain ⟨segments, hrelative, htrim, hnames⟩ := relative_below hroot hp
  rw [List.map_append, List.map_singleton] at hnames
  obtain ⟨front, rfl, hfront⟩ := htrim.eq_append hnames
  refine ⟨front, ?_, hfront⟩
  rw [hrelative, Path.body_spell_false htrim (by simp)]

theorem urlFor_of_body {layout : Layout} {p : Path} {front : List (List Char)}
    {name suffix : String} (hbody : (layout.relative p).body = front ++ [name.toList])
    (hname : IsName name) (hsuffix : '/' ∉ suffix.toList) :
    layout.urlFor p suffix = "/".intercalate
      ((front.filterMap Component.ofSegment).filterMap Component.name? ++
        outputNames suffix name) := by
  rw [urlFor, Path.names_withExtension hbody hname hsuffix]

theorem urlFor_below {layout : Layout} {p : Path} {rootNames names : List String} {name : String}
    {suffix : String} (hroot : layout.root.Spells rootNames)
    (hp : p.Spells (rootNames ++ (names ++ [name]))) (hsuffix : '/' ∉ suffix.toList) :
    layout.urlFor p suffix = "/".intercalate (names ++ outputNames suffix name) := by
  obtain ⟨front, hbody, hfront⟩ := body_relative_below hroot hp
  rw [urlFor_of_body hbody (hp.isName name (by simp)) hsuffix, hfront,
    Component.filterMap_map_normal]

/-- The address of a path outside the root has all of its names. -/
theorem urlFor_outside {layout : Layout} {p : Path} {names : List String} {name : String}
    {suffix : String} (hout : (p.child name).startsWith layout.root = false) (hp : p.Spells names)
    (hname : IsName name) (hsuffix : '/' ∉ suffix.toList) :
    layout.urlFor (p.child name) suffix = "/".intercalate (names ++ outputNames suffix name) := by
  obtain ⟨front, hbody, hfront⟩ := Path.body_child hp.isAbsolute hname
  rw [← relative_outside hout] at hbody
  rw [urlFor_of_body hbody hname hsuffix, hfront, hp.filterMap_segments,
    Component.filterMap_map_normal]

end Layout

/-! ## Addresses as names -/

/-- A text that can be a part of an address. -/
def IsPart (part : String) : Prop := part ≠ "" ∧ '/' ∉ part.toList

theorem IsName.isPart {name : String} (h : IsName name) : IsPart name := ⟨h.1, h.2.2.2⟩

theorem isPart_of_mem_outputNames {extension name part : String} (he : '/' ∉ extension.toList)
    (hn : '/' ∉ name.toList) (h : part ∈ outputNames extension name) : IsPart part := by
  rw [outputNames, Option.mem_toList, Option.bind_eq_some_iff] at h
  obtain ⟨c, hc, hpart⟩ := h
  rw [Component.name?_eq_some.1 hpart] at hc
  obtain ⟨hsegment, h0, -, -⟩ := Component.ofSegment_eq_normal hc
  refine ⟨h0, ?_⟩
  rw [← hsegment]
  exact noSlash_outputSegment he hn

theorem filter_splitOn_intercalate {parts : List String} (h : ∀ part ∈ parts, IsPart part) :
    (("/".intercalate parts).toList.splitOn '/').filter (· ≠ []) = parts.map String.toList := by
  have hlists : ∀ s ∈ parts.map String.toList, '/' ∉ s ∧ s ≠ [] := by
    intro s hs
    obtain ⟨part, hpart, rfl⟩ := List.mem_map.1 hs
    exact ⟨(h part hpart).2, toList_ne_of_ne (t := "") (h part hpart).1⟩
  rw [String.toList_intercalate]
  by_cases hne : parts = []
  · subst hne
    simp
  · rw [show "/".toList = ['/'] from rfl,
      List.splitOn_intercalate '/' (fun s hs => (hlists s hs).1) (by simpa using hne),
      List.filter_eq_self]
    intro s hs
    simpa using (hlists s hs).2

/-- An address tells the parts it is made of. -/
theorem intercalate_injective {parts others : List String} (h : ∀ part ∈ parts, IsPart part)
    (ho : ∀ part ∈ others, IsPart part) :
    "/".intercalate parts = "/".intercalate others ↔ parts = others := by
  constructor
  · intro e
    have hsplit := filter_splitOn_intercalate h
    rw [e, filter_splitOn_intercalate ho] at hsplit
    exact (List.map_injective_iff.2 (fun _ _ hs => String.toList_inj.1 hs) hsplit).symm
  · rintro rfl
    rfl

theorem isPart_documentNames {names : List String} {suffix name : String}
    (h : ∀ n ∈ names ++ [name], IsName n) (hsuffix : '/' ∉ suffix.toList) :
    ∀ part ∈ names ++ outputNames suffix name, IsPart part := by
  intro part hpart
  rcases List.mem_append.1 hpart with hpart | hpart
  · exact (h part (by simp [hpart])).isPart
  · exact isPart_of_mem_outputNames hsuffix (h name (by simp)).2.2.2 hpart

/-- Documents below the root share an address exactly if they agree in folder and last name. -/
theorem Layout.urlFor_eq_iff {layout : Layout} {p q : Path} {rootNames names others : List String}
    {name other suffix : String} (hroot : layout.root.Spells rootNames)
    (hp : p.Spells (rootNames ++ (names ++ [name]))) (hq : q.Spells (rootNames ++ (others ++ [other])))
    (hsuffix : '/' ∉ suffix.toList) :
    layout.urlFor p suffix = layout.urlFor q suffix ↔
      names ++ outputNames suffix name = others ++ outputNames suffix other := by
  rw [Layout.urlFor_below hroot hp hsuffix, Layout.urlFor_below hroot hq hsuffix]
  apply intercalate_injective
  · exact isPart_documentNames (fun n hn => hp.isName n (by simp_all)) hsuffix
  · exact isPart_documentNames (fun n hn => hq.isName n (by simp_all)) hsuffix

end DocAtlas
