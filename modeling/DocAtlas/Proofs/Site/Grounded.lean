import DocAtlas.Project
import DocAtlas.Site.Basic
import DocAtlas.Proofs.Path.Normal
import DocAtlas.Proofs.Tree.Sources

/-! # Sites with a resolved root

A documentation is looked at below a root without symbolic links, and its configuration declares
directories by names below that root.

* `Config.IsPlain` — declared directories are named by names and `.` only, and the output suffix is
  an extension
* `Site.Rooted` — the root is a directory to which names lead, and the layout is that of the root
* `Site.Grounded` — the site is rooted and its configuration is plain
* `Project.resolveRoot_ok`, `Project.openDocs_ok` — the root that is looked at is such a directory
* `Project.exists_rooted` — a documentation that is opened is rooted
* `Site.Rooted.mem_allSources` — where the source files below the root lie
-/

set_option autoImplicit false

namespace DocAtlas

/-! ## Plain configurations -/

/-- Whether a component is `.` or a name. -/
def Component.isPlain : Component → Bool
  | .current => true
  | .normal _ => true
  | _ => false

/-- Whether a path is relative and has no `..`. -/
def Path.isPlain (p : Path) : Bool := p.components.all Component.isPlain

/-- The texts that declare directories. -/
def Config.declaredTexts (config : Config) : List String :=
  config.userDocs :: config.autoDocs :: config.aiDocs :: config.autoRoots

/-- Every declared directory is named by names and `.` only, and the output suffix is an extension. -/
structure Config.IsPlain (config : Config) : Prop where
  dirs : ∀ text ∈ config.declaredTexts, (Path.mk text).isPlain = true
  suffix_ne : config.outputSuffix ≠ ""
  suffix_noSlash : '/' ∉ config.outputSuffix.toList

namespace Path

theorem isAbsolute_of_isPlain {p : Path} (h : p.isPlain = true) : p.isAbsolute = false := by
  by_contra habs
  rw [isPlain, components_of_absolute (by simpa using habs)] at h
  simp [Component.isPlain] at h

theorem filterMap_segments_of_isPlain {p : Path} (h : p.isPlain = true) :
    p.segments.filterMap Component.ofSegment = p.names.map .normal := by
  rw [isPlain, components_eq, List.all_append, Bool.and_eq_true, List.all_eq_true,
    List.all_eq_true] at h
  refine filterMap_segments_eq fun hparent => ?_
  have hplain := h.2 _ hparent
  cases hplain

theorem Spells.join {p q : Path} {names : List String} (hp : p.Spells names)
    (hq : q.isPlain = true) : (p.join q).Spells (names ++ q.names) := by
  unfold Spells
  rw [components_join hp.isAbsolute (isAbsolute_of_isPlain hq), filterMap_segments_of_isPlain hq,
    show p.components = _ from hp]
  simp

end Path

/-! ## Grounded sites -/

/-- The layout of the site is that of a root to which names lead without symbolic links. -/
structure Site.Rooted (site : Site) (rootNames : List String) (inside : Listing) : Prop where
  layout : site.layout = Layout.ofRoot (Tree.pathOf rootNames) site.config
  dir : site.tree.root.entryAt? rootNames = some (.dir inside)

/-- The site is rooted, and its configuration is plain. -/
structure Site.Grounded (site : Site) (rootNames : List String) (inside : Listing) : Prop
    extends Site.Rooted site rootNames inside where
  plain : site.config.IsPlain

theorem Tree.map_pathOf_ok {answer : Except TreeFault (List String)} {root : Path}
    (h : answer.map pathOf = .ok root) : ∃ names, answer = .ok names ∧ root = pathOf names := by
  cases answer with
  | error fault => cases h
  | ok names =>
    cases h
    exact ⟨names, rfl, rfl⟩

theorem Tree.canonical_ok {tree : Tree} {docs root : Path} (h : tree.canonical docs = .ok root) :
    ∃ names, tree.resolve docs = .ok names ∧ root = pathOf names := by
  unfold canonical at h
  split at h
  · exact map_pathOf_ok h
  · cases hwork : tree.workDir with
    | error fault =>
      rw [hwork] at h
      cases h
    | ok start =>
      rw [hwork] at h
      exact map_pathOf_ok h

theorem Tree.locate_of_resolve {tree : Tree} {p : Path} {names : List String}
    (h : tree.resolve p = .ok names) : tree.locate p = .found names := by
  unfold resolve at h
  split at h
  · rename_i found hfound
    cases h
    exact hfound
  · cases h
  · cases h

/-- A directory that is found is found where names lead. -/
theorem Tree.entryAt?_of_isDir {tree : Tree} {p : Path} {names : List String}
    (hdir : tree.isDir p = true) (h : tree.resolve p = .ok names) :
    ∃ inside, tree.root.entryAt? names = some (.dir inside) := by
  obtain ⟨inside, hentry⟩ := entry?_of_isDir hdir
  rw [Tree.entry?, locate_of_resolve h] at hentry
  exact ⟨inside, hentry⟩

namespace Project

theorem resolveRoot_ok {tree : Tree} {docs root : Path} (h : resolveRoot tree docs = .ok root) :
    ∃ names inside, root = Tree.pathOf names ∧ tree.root.entryAt? names = some (.dir inside) := by
  unfold resolveRoot at h
  split at h
  · rename_i hdir
    have hcanonical : tree.canonical docs = .ok root := by
      cases hc : tree.canonical docs with
      | error fault =>
        rw [hc] at h
        cases h
      | ok path =>
        rw [hc] at h
        cases h
        rfl
    obtain ⟨names, hnames, hroot⟩ := Tree.canonical_ok hcanonical
    obtain ⟨inside, hentry⟩ := Tree.entryAt?_of_isDir hdir hnames
    exact ⟨names, inside, hroot, hentry⟩
  · cases h

theorem Logged.andThen_ok {α β : Type} {first : Logged α} {next : α → Logged β} {value : β}
    (h : (first.andThen next).result = .ok value) :
    ∃ a, first.result = .ok a ∧ (next a).result = .ok value := by
  unfold Logged.andThen at h
  split at h
  · rename_i a ha
    exact ⟨a, ha, h⟩
  · cases h

theorem openDocs_ok {tree : Tree} {docs? : Option Path} {layout : Layout} {config : Config}
    (h : (openDocs tree docs?).result = .ok (layout, config)) :
    ∃ docs root, resolveRoot tree docs = .ok root ∧ layout = Layout.ofRoot root config := by
  obtain ⟨docs, -, hdocs⟩ := Logged.andThen_ok h
  split at hdocs
  · obtain ⟨loaded, -, hloaded⟩ := Logged.andThen_ok hdocs
    split at hloaded
    · rename_i root hroot
      cases hloaded
      exact ⟨docs, root, hroot, rfl⟩
    · cases hloaded
  · cases hdocs

theorem exists_rooted {tree : Tree} {docs? : Option Path} {layout : Layout} {config : Config}
    (h : (openDocs tree docs?).result = .ok (layout, config)) :
    ∃ rootNames inside, (Site.ofTree tree layout config).Rooted rootNames inside := by
  obtain ⟨docs, root, hroot, hlayout⟩ := openDocs_ok h
  obtain ⟨rootNames, inside, rfl, hentry⟩ := resolveRoot_ok hroot
  exact ⟨rootNames, inside, hlayout, hentry⟩

end Project

namespace Site

variable {site : Site} {rootNames : List String} {inside : Listing}

theorem Rooted.isEntryName (h : site.Rooted rootNames inside) :
    ∀ name ∈ rootNames, isEntryName name = true :=
  (Listing.isEntryName_of_entryAt? site.tree.wellFormed h.dir).1

theorem Rooted.root_eq (h : site.Rooted rootNames inside) :
    site.layout.root = Tree.pathOf rootNames := by
  rw [h.layout]
  rfl

theorem Rooted.root_spells (h : site.Rooted rootNames inside) :
    site.layout.root.Spells rootNames := by
  rw [h.root_eq]
  exact Tree.spells_pathOf fun name hname => isName_of_isEntryName (h.isEntryName name hname)

theorem Rooted.folder_spells (h : site.Rooted rootNames inside) {folders : List String}
    {name : String} (hnames : ∀ n ∈ folders ++ [name], IsName n) :
    (site.layout.root.below folders).Spells (rootNames ++ folders) :=
  h.root_spells.below fun n hn => hnames n (by simp [hn])

/-- A declared directory is the root joined with the text that declares it. -/
theorem Rooted.exists_text (h : site.Rooted rootNames inside) {declared : DeclaredDir}
    (hd : declared ∈ site.layout.declaredDirs) :
    ∃ text ∈ site.config.declaredTexts, declared.dir = site.layout.root.join ⟨text⟩ := by
  rw [h.root_eq]
  rw [h.layout] at hd
  simp only [Layout.declaredDirs, Layout.categoryDirs, Layout.ofRoot, List.mem_append,
    List.mem_cons, List.not_mem_nil, or_false, List.map_map, List.mem_map] at hd
  unfold Config.declaredTexts
  rcases hd with (rfl | rfl | rfl) | ⟨text, htext, rfl⟩
  · exact ⟨site.config.userDocs, by simp, rfl⟩
  · exact ⟨site.config.autoDocs, by simp, rfl⟩
  · exact ⟨site.config.aiDocs, by simp, rfl⟩
  · exact ⟨text, by simp [htext], rfl⟩

theorem Rooted.isAbsolute_declared (h : site.Rooted rootNames inside) {declared : DeclaredDir}
    (hd : declared ∈ site.layout.declaredDirs) : declared.dir.isAbsolute = true := by
  obtain ⟨text, -, htext⟩ := h.exists_text hd
  rw [htext]
  exact Path.isAbsolute_join_left h.root_spells.isAbsolute

theorem Rooted.declared_spells (h : site.Rooted rootNames inside)
    (hplain : ∀ text ∈ site.config.declaredTexts, (Path.mk text).isPlain = true)
    {declared : DeclaredDir} (hd : declared ∈ site.layout.declaredDirs) :
    ∃ names, declared.dir.Spells (rootNames ++ names) := by
  obtain ⟨text, htext, hdir⟩ := h.exists_text hd
  refine ⟨(Path.mk text).names, ?_⟩
  rw [hdir]
  exact h.root_spells.join (hplain text htext)

theorem Grounded.declared_spells (h : site.Grounded rootNames inside) {declared : DeclaredDir}
    (hd : declared ∈ site.layout.declaredDirs) :
    ∃ names, declared.dir.Spells (rootNames ++ names) :=
  h.toRooted.declared_spells h.plain.dirs hd

theorem Rooted.entry?_root (h : site.Rooted rootNames inside)
    (hopen : Tree.isTooLong site.layout.root = false) :
    site.tree.entry? site.layout.root = some (.dir inside) := by
  rw [Tree.entry?_of_dir h.root_spells h.dir, if_neg (by simp [hopen])]

theorem Rooted.wellFormed_inside (h : site.Rooted rootNames inside) :
    inside.wellFormed = true :=
  (Listing.isEntryName_of_entryAt? site.tree.wellFormed h.dir).2

/-- Source files are met below a root only that is there. -/
theorem Rooted.isDir_root (h : site.Rooted rootNames inside) {p : Path} (hp : p ∈ site.allSources) :
    site.tree.isDir site.layout.root = true := by
  refine (Tree.isDir_iff_of_dir h.root_spells h.dir).2 ?_
  by_contra hlong
  have hentry := Tree.entry?_of_dir h.root_spells h.dir
  rw [if_pos (by simpa using hlong)] at hentry
  unfold allSources sources Tree.sources Tree.steps at hp
  rw [hentry] at hp
  cases hp

/-- A source file below the root lies where names lead without symbolic links. -/
theorem Rooted.mem_allSources (h : site.Rooted rootNames inside) {p : Path}
    (hp : p ∈ site.allSources) :
    ∃ folders name, inside.HasSource site.config site.layout.root folders name ∧
      p = (site.layout.root.below folders).child name ∧
      p.Spells (rootNames ++ (folders ++ [name])) := by
  have hlong := (Tree.isDir_iff_of_dir h.root_spells h.dir).1 (h.isDir_root hp)
  obtain ⟨folders, name, hsource, rfl⟩ :=
    (Tree.mem_sources_iff (h.entry?_root hlong)).1 hp
  exact ⟨folders, name, hsource, rfl, hsource.spells h.wellFormed_inside h.root_spells⟩

theorem Rooted.isAbsolute_source (h : site.Rooted rootNames inside) {p : Path}
    (hp : p ∈ site.allSources) : p.isAbsolute = true := by
  obtain ⟨folders, name, -, -, hspells⟩ := h.mem_allSources hp
  exact hspells.isAbsolute

theorem Rooted.pairwise_allSources (h : site.Rooted rootNames inside) :
    site.allSources.Pairwise (fun p q => p.same q = false) := by
  cases hlong : Tree.isTooLong site.layout.root with
  | false => exact Tree.pairwise_sources (h.entry?_root hlong)
  | true =>
    have hentry := Tree.entry?_of_dir h.root_spells h.dir
    rw [hlong] at hentry
    unfold allSources sources Tree.sources Tree.steps
    rw [hentry]
    exact List.Pairwise.nil

end Site

end DocAtlas
