import DocAtlas.Layout
import DocAtlas.Proofs.Path.Joining
import DocAtlas.Proofs.Tree.Onward

/-! # A walk passes over what a layout excludes

A walk does not enter an excluded folder. What it meets is nevertheless told path by path: the files
below the root that are source files and of which no name below the root is excluded. A folder that is
not excluded itself adds to the walk what a walk from the folder meets.

* `Tree.HasFile` — a file below a directory, reached over folders that can be opened
* `Layout.excludes_of_components` — the names behind the root decide what is excluded
* `Tree.mem_sources_root_iff` — which paths a walk from the root meets
* `Tree.filter_sources_root` — the part of it below a folder
* `Tree.sources_pruned` — both, the order of the walk and the relevance of what it meets
-/

set_option autoImplicit false

namespace DocAtlas

/-! ## Files below a directory -/

namespace Tree

/-- The entry to which names lead from directory to directory, the first being at `start`. -/
def entryBelow? (tree : Tree) (start : Path) (names : List String) : Option Entry :=
  (tree.listing? start).bind fun inside => inside.entryAt? names

/-- Names lead from `start` to a file, over directories only and into a folder that can be opened, which
it cannot be if its path is too long. No names lead to `start` itself if it is a file and no symbolic
link. -/
def HasFile (tree : Tree) (start : Path) (names : List String) : Prop :=
  (names = [] ∧ tree.isFile start = true ∧ tree.isLink start = false) ∨
    (∃ bytes, tree.entryBelow? start names = some (.file bytes)) ∧
      tree.isDir (start.below names.dropLast) = true

end Tree

/-! ## Names behind the root -/

namespace Layout

variable {layout : Layout} {config : Config} {p : Path} {names : List String}

theorem names_relative_of_components
    (hp : p.components = layout.root.components ++ names.map .normal) :
    (layout.relative p).names = names := by
  obtain ⟨segments, hstrip, htrimmed, hnames⟩ := Path.stripBase_names hp
  rw [relative, hstrip, Option.getD_some, Path.names_spell_false htrimmed hnames]

theorem excludes_of_components (config : Config)
    (hp : p.components = layout.root.components ++ names.map .normal) :
    layout.excludes config p = names.any config.excludes := by
  rw [excludes, names_relative_of_components hp]

theorem isRelevant_of_supports (hexcl : layout.excludes config p = false)
    (hsupp : config.supports p = true) : layout.isRelevant config p = true := by
  simp [isRelevant, hexcl, hsupp]

end Layout

/-! ## Walks -/

namespace Tree

variable {tree : Tree} {config : Config} {layout : Layout} {start p : Path}
  {inside within : Listing} {names folders : List String} {name : String}

theorem entryBelow?_of_dir (h : tree.entry? start = some (.dir inside)) (names : List String) :
    tree.entryBelow? start names = inside.entryAt? names := by
  rw [entryBelow?, listing?, h, Option.bind_some]

theorem entry?_of_entryBelow? {entry : Entry} (h : tree.entryBelow? start names = some entry) :
    ∃ inside, tree.entry? start = some (.dir inside) ∧ inside.entryAt? names = some entry := by
  unfold entryBelow? listing? at h
  split at h
  · rename_i inside hentry
    exact ⟨inside, hentry, h⟩
  · cases h

theorem isDir_below_iff (h : tree.entry? start = some (.dir inside))
    (hdir : inside.entryAt? names = some (.dir within)) :
    tree.isDir (start.below names) = true ↔ isTooLong (start.below names) = false := by
  constructor
  · exact isTooLong_of_isDir
  · intro hshort
    rw [isDir, entry?_below h hdir hshort]

theorem hasFile_concat_iff (h : tree.entry? start = some (.dir inside)) :
    tree.HasFile start (folders ++ [name]) ↔
      (∃ bytes, inside.entryAt? (folders ++ [name]) = some (.file bytes)) ∧
        isTooLong (start.below folders) = false := by
  unfold HasFile
  rw [entryBelow?_of_dir h, List.dropLast_concat]
  constructor
  · rintro (⟨hnil, -⟩ | ⟨⟨bytes, hfile⟩, hdir⟩)
    · simp at hnil
    · exact ⟨⟨bytes, hfile⟩, isTooLong_of_isDir hdir⟩
  · rintro ⟨⟨bytes, hfile⟩, hshort⟩
    obtain ⟨within, hwithin, -⟩ := Listing.exists_dir_of_entryAt?_append (by simp) hfile
    exact Or.inr ⟨⟨bytes, hfile⟩, (isDir_below_iff h hwithin).2 hshort⟩

theorem exists_concat_of_hasFile (h : tree.entry? start = some (.dir inside))
    (hfile : tree.HasFile start names) : ∃ folders name, names = folders ++ [name] := by
  rcases List.eq_nil_or_concat' names with rfl | hconcat
  · rcases hfile with ⟨-, hisFile, -⟩ | ⟨⟨bytes, hentry⟩, -⟩
    · rw [isFile, h] at hisFile
      cases hisFile
    · rw [entryBelow?_of_dir h] at hentry
      cases hentry
  · exact hconcat

/-- What a walk looks for below the root is a file that is not excluded. -/
theorem hasSource_iff (h : tree.entry? layout.root = some (.dir inside)) :
    inside.HasSource config layout.root folders name ↔
      tree.HasFile layout.root (folders ++ [name]) ∧
        config.supports ((layout.root.below folders).child name) = true ∧
        layout.excludes config ((layout.root.below folders).child name) = false := by
  have hw := wellFormed_of_present h
  constructor
  · intro hsource
    have hname : IsName name := hsource.isName hw name (by simp)
    refine ⟨(hasFile_concat_iff h).2 ⟨hsource.file, isTooLong_folder h hsource⟩, ?_, ?_⟩
    · rw [Config.supports_child hname]
      exact hsource.supported
    · rw [layout.excludes_of_components config (hsource.components hw), List.any_eq_false]
      exact fun n hn => by simp [hsource.included n hn]
  · rintro ⟨hfile, hsupp, hexcl⟩
    obtain ⟨⟨bytes, hentry⟩, hshort⟩ := (hasFile_concat_iff h).1 hfile
    have hnames : ∀ n ∈ folders ++ [name], IsName n := fun n hn =>
      isName_of_isEntryName ((Listing.isEntryName_of_entryAt? hw hentry).1 n hn)
    have hcomponents := Path.components_below_names (p := layout.root) hnames
    rw [Path.below_concat] at hcomponents
    rw [layout.excludes_of_components config hcomponents, List.any_eq_false] at hexcl
    rw [Config.supports_child (hnames name (by simp))] at hsupp
    exact {
      file := ⟨bytes, hentry⟩
      included := fun n hn => by simpa using hexcl n hn
      supported := hsupp
      opened := Or.inr hshort }

/-- A walk from a file meets it, one from a missing path meets nothing. -/
theorem sources_of_not_dir (h : tree.isDir start = false) :
    tree.sources config start =
      if tree.isFile start && !tree.isLink start && config.supports start then [start] else [] := by
  unfold isDir at h
  unfold sources steps isFile
  split at h
  · cases h
  · rename_i hdir
    cases hentry : tree.entry? start with
    | none => rfl
    | some entry =>
      cases entry with
      | dir inside => exact absurd hentry (hdir inside)
      | link target => rfl
      | file bytes =>
        simp only [Bool.true_and]
        split <;> rfl

theorem hasFile_iff_of_not_dir (h : tree.isDir start = false) :
    tree.HasFile start names ↔ names = [] ∧ tree.isFile start = true ∧ tree.isLink start = false := by
  constructor
  · rintro (hself | ⟨⟨bytes, hentry⟩, -⟩)
    · exact hself
    · obtain ⟨inside, hdir, -⟩ := entry?_of_entryBelow? hentry
      rw [isDir, hdir] at h
      cases h
  · exact Or.inl

/-- Though folders are passed over, a walk from the root meets all files that pass by themselves. -/
theorem mem_sources_root_iff (tree : Tree) (config : Config) (layout : Layout) (p : Path) :
    p ∈ tree.sources config layout.root ↔
      ∃ names, p = layout.root.below names ∧ tree.HasFile layout.root names ∧
        config.supports p = true ∧ layout.excludes config p = false := by
  cases hdir : tree.isDir layout.root with
  | true =>
    obtain ⟨inside, hentry⟩ := entry?_of_isDir hdir
    rw [mem_sources_iff hentry]
    constructor
    · rintro ⟨folders, name, hsource, rfl⟩
      obtain ⟨hfile, hsupp, hexcl⟩ := (hasSource_iff hentry).1 hsource
      exact ⟨folders ++ [name], (Path.below_concat _ _ _).symm, hfile, hsupp, hexcl⟩
    · rintro ⟨names, rfl, hfile, hsupp, hexcl⟩
      obtain ⟨folders, name, rfl⟩ := exists_concat_of_hasFile hentry hfile
      rw [Path.below_concat] at hsupp hexcl ⊢
      exact ⟨folders, name, (hasSource_iff hentry).2 ⟨hfile, hsupp, hexcl⟩, rfl⟩
  | false =>
    have hbehind : layout.root.components = layout.root.components ++ [].map .normal := by simp
    have hnone : layout.excludes config layout.root = false := by
      rw [layout.excludes_of_components config hbehind]
      rfl
    simp only [sources_of_not_dir hdir, hasFile_iff_of_not_dir hdir]
    constructor
    · intro hp
      split at hp
      · rename_i hmet
        simp only [Bool.and_eq_true, Bool.not_eq_true'] at hmet
        obtain rfl := List.mem_singleton.1 hp
        exact ⟨[], rfl, ⟨rfl, hmet.1.1, hmet.1.2⟩, hmet.2, hnone⟩
      · cases hp
    · rintro ⟨names, rfl, ⟨rfl, hisFile, hlink⟩, hsupp, -⟩
      simp_all

theorem ascends_sources_all (tree : Tree) (config : Config) (start : Path) :
    (tree.sources config start).Pairwise (fun p q => p.lt q = true) := by
  cases hdir : tree.isDir start with
  | true =>
    obtain ⟨inside, hentry⟩ := entry?_of_isDir hdir
    exact ascends_sources hentry
  | false =>
    rw [sources_of_not_dir hdir]
    split
    · exact List.pairwise_singleton _ _
    · exact List.Pairwise.nil

/-! ## Walks from folders -/

/-- Paths in ascending order are told by which they are. -/
theorem eq_of_ascends {ps qs : List Path} (hps : ps.Pairwise fun p q => p.lt q = true)
    (hqs : qs.Pairwise fun p q => p.lt q = true) (hmem : ∀ p, p ∈ ps ↔ p ∈ qs) : ps = qs := by
  have hirrefl : ∀ p : Path, p.lt p = false := fun p => by simp [Path.lt]
  have hnodup : ∀ {rs : List Path}, (rs.Pairwise fun p q => p.lt q = true) → rs.Nodup :=
    fun h => h.imp fun hlt heq => by simp [heq, hirrefl] at hlt
  have hperm : ps.Perm qs := (List.perm_ext_iff_of_nodup (hnodup hps) (hnodup hqs)).2 hmem
  refine hperm.eq_of_pairwise (fun p q _ _ hpq hqp => ?_) hps hqs
  simp only [Path.lt, decide_eq_true_eq] at hpq hqp
  exact absurd hqp (not_lt_of_gt hpq)

/-- A source file below the root starts with a folder exactly if its names do. -/
theorem startsWith_below_iff (hnames : ∀ n ∈ names, IsName n)
    (hp : p.components = start.components ++ folders.map .normal) :
    p.startsWith (start.below names) = true ↔ names <+: folders := by
  rw [Path.startsWith, List.isPrefixOf_iff_prefix, hp, Path.components_below_names hnames,
    List.prefix_append_right_inj, List.prefix_map_iff_of_injective Component.normal_injective]

/-- A way to a file that starts with the way to a directory goes on from there. -/
theorem exists_behind_of_prefix (hwithin : inside.entryAt? names = some (.dir within))
    (hfile : ∃ bytes, inside.entryAt? (folders ++ [name]) = some (.file bytes))
    (hstarts : names <+: folders ++ [name]) : ∃ more, folders = names ++ more := by
  obtain ⟨tail, htail⟩ := hstarts
  rcases List.eq_nil_or_concat' tail with rfl | ⟨more, last, rfl⟩
  · obtain ⟨bytes, hbytes⟩ := hfile
    rw [← htail, List.append_nil, hwithin] at hbytes
    cases hbytes
  · rw [← List.append_assoc] at htail
    exact ⟨more, (List.append_inj' htail rfl).1.symm⟩

theorem sources_of_isTooLong (h : isTooLong start = true) : tree.sources config start = [] := by
  have hnone : tree.entry? start = none := by
    cases hentry : tree.entry? start with
    | none => rfl
    | some entry => rw [isTooLong_of_present hentry] at h; cases h
  rw [sources, steps, hnone]
  rfl

/-- Of a walk from the root the part below a folder that is not excluded is a walk from the folder. -/
theorem filter_sources_root (hdir : tree.entryBelow? layout.root names = some (.dir within))
    (hexcl : layout.excludes config (layout.root.below names) = false) :
    (tree.sources config layout.root).filter (·.startsWith (layout.root.below names)) =
      tree.sources config (layout.root.below names) := by
  obtain ⟨inside, hentry, hwithin⟩ := entry?_of_entryBelow? hdir
  have hw := wellFormed_of_present hentry
  have hnames : ∀ n ∈ names, IsName n := fun n hn =>
    isName_of_isEntryName ((Listing.isEntryName_of_entryAt? hw hwithin).1 n hn)
  have hincluded : ∀ n ∈ names, config.excludes n = false := by
    rw [layout.excludes_of_components config (Path.components_below_names hnames),
      List.any_eq_false] at hexcl
    exact fun n hn => by simpa using hexcl n hn
  -- both walks ascend, so it is enough that they meet the same files
  refine eq_of_ascends ((ascends_sources_all tree config _).sublist List.filter_sublist)
    (ascends_sources_all tree config _) fun q => ?_
  rw [List.mem_filter, mem_sources_iff hentry]
  have hbehind : ∀ more name, (layout.root.below (names ++ more)).child name =
      ((layout.root.below names).below more).child name := fun more name => by
    rw [Path.below, List.foldl_append]
    rfl
  constructor
  · rintro ⟨⟨folders, name, hsource, rfl⟩, hstarts⟩
    rw [startsWith_below_iff hnames (hsource.components hw)] at hstarts
    obtain ⟨more, rfl⟩ := exists_behind_of_prefix hwithin hsource.file hstarts
    obtain ⟨-, hshort, hfound⟩ := (Listing.hasSource_append hw hwithin).1 hsource
    have hopened : isTooLong (layout.root.below names) = false := by
      rcases hshort with rfl | hshort
      · exact isTooLong_of_present hentry
      · exact hshort
    rw [mem_sources_iff (entry?_below hentry hwithin hopened)]
    exact ⟨more, name, hfound, hbehind more name⟩
  · intro hq
    have hopened : isTooLong (layout.root.below names) = false := by
      by_contra hlong
      rw [sources_of_isTooLong (by simpa using hlong)] at hq
      cases hq
    rw [mem_sources_iff (entry?_below hentry hwithin hopened)] at hq
    obtain ⟨more, name, hfound, rfl⟩ := hq
    have hsource : inside.HasSource config layout.root (names ++ more) name :=
      (Listing.hasSource_append hw hwithin).2 ⟨hincluded, Or.inr hopened, hfound⟩
    rw [← hbehind]
    refine ⟨⟨names ++ more, name, hsource, rfl⟩, ?_⟩
    rw [startsWith_below_iff hnames (hsource.components hw), List.append_assoc]
    exact List.prefix_append _ _

/-- A walk from the root of a layout meets, one after the other in the order of paths, the source files
below the root that are not excluded, so all of them are relevant; and what it meets below a folder that
is not excluded is what a walk from that folder meets. -/
theorem sources_pruned (tree : Tree) (config : Config) (layout : Layout) :
    (∀ p, p ∈ tree.sources config layout.root ↔
      ∃ names, p = layout.root.below names ∧ tree.HasFile layout.root names ∧
        config.supports p = true ∧ layout.excludes config p = false) ∧
    (tree.sources config layout.root).Pairwise (fun p q => p.lt q = true) ∧
    (∀ p ∈ tree.sources config layout.root, layout.isRelevant config p = true) ∧
    ∀ names within, tree.entryBelow? layout.root names = some (.dir within) →
      layout.excludes config (layout.root.below names) = false →
      (tree.sources config layout.root).filter (·.startsWith (layout.root.below names)) =
        tree.sources config (layout.root.below names) := by
  refine ⟨mem_sources_root_iff tree config layout, ascends_sources_all tree config layout.root,
    fun p hp => ?_, fun names within => filter_sources_root⟩
  obtain ⟨names, -, -, hsupp, hexcl⟩ := (mem_sources_root_iff tree config layout p).1 hp
  exact Layout.isRelevant_of_supports hexcl hsupp

end Tree

/-- A folder next to a file of nearly its name, among names that are passed over. -/
def prunedDocs : Tree where
  root := ((((Listing.nil.plantAt ["docs", "a", "_c.md"] (.file "# C".toUTF8)).plantAt
    ["docs", "a", "b.md"] (.file "# B".toUTF8)).plantAt ["docs", "a.md"] (.file "# A".toUTF8)).plantAt
    ["docs", "build", "d.md"] (.file "# D".toUTF8)).plantAt ["docs", "e.md"] (.link "a.md")
  wellFormed := by decide +kernel

/-- The folder comes before the file, and with it what a walk from the folder meets. -/
theorem sources_prunedDocs :
    ∃ within, prunedDocs.entryBelow? ⟨"/docs"⟩ ["a"] = some (.dir within) ∧
      prunedDocs.sources {} ⟨"/docs"⟩ = [⟨"/docs/a/b.md"⟩, ⟨"/docs/a.md"⟩] ∧
      (prunedDocs.sources {} ⟨"/docs"⟩).filter (·.startsWith ⟨"/docs/a"⟩) =
        prunedDocs.sources {} ⟨"/docs/a"⟩ := by
  refine ⟨_, by rfl, by decide +kernel, ?_⟩
  exact (Tree.sources_pruned prunedDocs {} (Layout.ofRoot ⟨"/docs"⟩ {})).2.2.2 ["a"] _ (by rfl)
    (by decide +kernel)

end DocAtlas
