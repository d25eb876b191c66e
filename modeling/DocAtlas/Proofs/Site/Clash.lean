import DocAtlas.Proofs.Layout.Address
import DocAtlas.Proofs.Site.Reach

/-! # Address clashes

A document outside every declared directory has the address of a find in one case only: the find is
called `..` with an extension, so that its address is that of its folder, the folder is a declared
directory, and its name is the output name of the document.

* `Site.shadows` — whether a declared directory takes the address of a document
* `Site.Grounded.url_find_eq_iff` — when a find and a document outside have one address
* `Site.Grounded.exists_clash_iff` — when a document outside has the address of some find
-/

set_option autoImplicit false

namespace DocAtlas

namespace Site

/-- Whether a declared directory takes the address of a document: it is called as the document is
under the output suffix, and it holds a document of its own whose stem is a single dot. -/
def shadows (site : Site) (p : Path) (declared : DeclaredDir) : Bool :=
  declared.dir.same (p.withExtension site.config.outputSuffix) &&
    (site.finds declared).any fun f =>
      declared.folders f.path == [] && f.path.fileStem == some "."

variable {site : Site} {rootNames : List String} {inside : Listing}

theorem fileStem_eq_dot_iff {p : Path} {names between : List String} {name : String}
    (hp : p.Spells (names ++ (between ++ [name]))) :
    p.fileStem = some "." ↔ (splitExtension name.toList).1 = ['.'] := by
  rw [← List.append_assoc] at hp
  rw [Path.fileStem, Path.fileName_of_spells hp, Option.map_some, Option.some.injEq]
  constructor
  · intro h
    simpa using congrArg String.toList h
  · intro h
    rw [h]

theorem Grounded.url_congr (h : site.Grounded rootNames inside) {p q : Path} {names : List String}
    {name : String} (hp : p.Spells (rootNames ++ (names ++ [name]))) (hsame : p.same q = true) :
    site.url p = site.url q := by
  have hq : q.Spells (rootNames ++ (names ++ [name])) := (Path.same_iff.1 hsame).symm.trans hp
  rw [url, url, Layout.urlFor_eq_iff h.root_spells hp hq h.plain.suffix_noSlash]

theorem Grounded.same_withExtension_iff (h : site.Grounded rootNames inside) {declared : DeclaredDir}
    {names folders : List String} {name : String}
    (hd : declared.dir.Spells (rootNames ++ names)) (hnames : ∀ n ∈ folders ++ [name], IsName n) :
    declared.dir.same (((site.layout.root.below folders).child name).withExtension
        site.config.outputSuffix) = true ↔
      (splitExtension name.toList).1 ≠ ['.'] ∧
        names = folders ++ outputNames site.config.outputSuffix name := by
  have hname : IsName name := hnames name (by simp)
  rw [Path.same_iff, (h.folder_spells hnames).components_withExtension hname h.plain.suffix_noSlash,
    show declared.dir.components = _ from hd]
  by_cases hstem : (splitExtension name.toList).1 = ['.']
  · -- what is left of such a name is `..`, and that is no name
    rw [ofSegment_outputSegment_of_stem_eq hstem]
    constructor
    · intro heq
      have hparent : Component.parent ∈ (rootNames ++ names).map Component.normal := by
        rw [(List.cons.inj heq).2]
        simp
      obtain ⟨n, -, hn⟩ := List.mem_map.1 hparent
      cases hn
    · rintro ⟨hne, -⟩
      exact absurd hstem hne
  · rw [outputNames_of_stem_ne hname.1 h.plain.suffix_ne hstem,
      ofSegment_outputSegment_of_stem_ne hname.1 h.plain.suffix_ne hstem, Option.toList_some,
      ← List.map_singleton (f := Component.normal), ← List.map_append, List.cons.injEq,
      List.map_inj_right fun _ _ e => Component.normal_injective e, List.append_assoc,
      List.append_cancel_left_eq]
    simp [hstem]

/-- Of a document outside a declared directory and one inside, the names of the addresses agree in one
case only. -/
theorem address_eq_iff {suffix name last : String} {names between folders : List String}
    (hsuffix : suffix ≠ "") (hname : name ≠ "") (hlast : last ≠ "")
    (hout : ¬ names <+: folders ++ [name]) :
    names ++ between ++ outputNames suffix last = folders ++ outputNames suffix name ↔
      between = [] ∧ (splitExtension last.toList).1 = ['.'] ∧
        (splitExtension name.toList).1 ≠ ['.'] ∧ names = folders ++ outputNames suffix name := by
  have hnot : ¬ names <+: folders := fun hp => hout (hp.trans (List.prefix_append _ _))
  constructor
  · intro heq
    by_cases hstem : (splitExtension name.toList).1 = ['.']
    · rw [outputNames_of_stem_eq hstem, List.append_nil, List.append_assoc] at heq
      exact absurd ⟨_, heq⟩ hnot
    · have hnames := outputNames_of_stem_ne hname hsuffix hstem
      have hprefix : names <+: folders ++ outputNames suffix name := by
        rw [← heq, List.append_assoc]
        exact List.prefix_append _ _
      rw [hnames, List.prefix_concat_iff] at hprefix
      have hfull := hprefix.resolve_right hnot
      rw [← hnames] at hfull
      -- nothing can follow where the names of the directory are the whole address
      rw [hfull, List.append_assoc, List.append_assoc] at heq
      have hnil : between ++ outputNames suffix last = [] := by simpa using heq
      obtain ⟨hbetween, hout⟩ := List.append_eq_nil_iff.1 hnil
      refine ⟨hbetween, ?_, hstem, hfull⟩
      by_contra hlaststem
      rw [outputNames_of_stem_ne hlast hsuffix hlaststem] at hout
      cases hout
  · rintro ⟨rfl, hlaststem, -, hfull⟩
    rw [outputNames_of_stem_eq hlaststem, List.append_nil, List.append_nil]
    exact hfull

/-- A document outside every declared directory lies behind the names of none. -/
theorem not_prefix_of_not_contains {p : Path} {declared : DeclaredDir} {names behind : List String}
    (hd : declared ∈ site.layout.declaredDirs) (hout : site.layout.contains p = false)
    (hspell : declared.dir.Spells (rootNames ++ names)) (hp : p.Spells (rootNames ++ behind)) :
    ¬ names <+: behind := by
  intro hprefix
  have hstarts := (hp.startsWith_iff hspell).2
    ((List.prefix_append_right_inj rootNames).2 hprefix)
  unfold Layout.contains at hout
  rw [List.any_eq_false] at hout
  exact hout declared hd hstarts

/-- A find of a declared directory has the address of a document outside in one case only: it lies in
the directory itself, its stem is a single dot, and the directory is called as the document. -/
theorem Grounded.url_find_eq_iff (h : site.Grounded rootNames inside) {declared : DeclaredDir}
    (hd : declared ∈ site.layout.declaredDirs) (hdir : site.tree.isDir declared.dir = true) {q : Path}
    (hq : q ∈ site.sources declared.dir) {folders : List String} {name : String}
    (hnames : ∀ n ∈ folders ++ [name], IsName n)
    (hspells : ((site.layout.root.below folders).child name).Spells
      (rootNames ++ (folders ++ [name])))
    (hout : site.layout.contains ((site.layout.root.below folders).child name) = false) :
    site.url q = site.url ((site.layout.root.below folders).child name) ↔
      declared.folders q = [] ∧ q.fileStem = some "." ∧
        declared.dir.same (((site.layout.root.below folders).child name).withExtension
          site.config.outputSuffix) = true := by
  obtain ⟨names, hspell⟩ := h.declared_spells hd
  obtain ⟨between, last, hqspells, -⟩ := spells_find hspell hdir hq
  have hname : IsName name := hnames name (by simp)
  have hlast : IsName last := hqspells.isName last (by simp)
  have hqroot : q.Spells (rootNames ++ (names ++ between ++ [last])) := by
    simpa using hqspells
  rw [url, url, Layout.urlFor_eq_iff h.root_spells hqroot hspells h.plain.suffix_noSlash,
    address_eq_iff h.plain.suffix_ne hname.1 hlast.1
      (not_prefix_of_not_contains hd hout hspell hspells),
    DeclaredDir.folders_of_spells hspell hqspells, fileStem_eq_dot_iff hqspells,
    h.same_withExtension_iff hspell hnames]

/-- When a find has the address of a document outside every declared directory. -/
theorem Grounded.exists_clash_iff (h : site.Grounded rootNames inside) {p : Path}
    (hp : p ∈ site.allSources) (hout : site.layout.contains p = false) :
    (∃ f ∈ site.kept, site.url f.path = site.url p) ↔
      site.layout.declaredDirs.any (site.shadows p) = true := by
  obtain ⟨folders, name, hsource, rfl, hspells⟩ := h.mem_allSources hp
  have hnames := hsource.isName h.wellFormed_inside
  rw [List.any_eq_true]
  constructor
  · rintro ⟨f, hf, hurl⟩
    obtain ⟨declared, hd, hdir, q, hq, rfl⟩ := mem_allFinds.1 (mem_allFinds_of_mem_kept hf)
    rw [path_find, h.url_find_eq_iff hd hdir hq hnames hspells hout] at hurl
    obtain ⟨hfolders, hstem, hsame⟩ := hurl
    refine ⟨declared, hd, ?_⟩
    unfold shadows finds
    rw [hsame, if_pos hdir, Bool.true_and, List.any_eq_true]
    refine ⟨declared.find q, List.mem_map_of_mem hq, ?_⟩
    rw [path_find, hfolders, hstem]
    rfl
  · rintro ⟨declared, hd, hshadows⟩
    unfold shadows finds at hshadows
    rw [Bool.and_eq_true, List.any_eq_true] at hshadows
    obtain ⟨hsame, f, hf, hfind⟩ := hshadows
    split at hf
    · rename_i hdir
      obtain ⟨q, hq, rfl⟩ := List.mem_map.1 hf
      rw [path_find, Bool.and_eq_true, beq_iff_eq, beq_iff_eq] at hfind
      have hurl := (h.url_find_eq_iff hd hdir hq hnames hspells hout).2
        ⟨hfind.1, hfind.2, hsame⟩
      -- the find itself may be left out for one with the same components
      obtain ⟨g, hg, hgsame⟩ := exists_same_kept (mem_allFinds.2 ⟨declared, hd, hdir, q, hq, rfl⟩)
      obtain ⟨names, hspell⟩ := h.declared_spells hd
      obtain ⟨between, last, hqspells, -⟩ := spells_find hspell hdir hq
      rw [path_find] at hgsame
      have hqroot : q.Spells (rootNames ++ (names ++ between ++ [last])) := by
        simpa using hqspells
      exact ⟨g, hg, (h.url_congr hqroot hgsame).symm.trans hurl⟩
    · cases hf

end Site

end DocAtlas
