import DocAtlas.Proofs.Site.Grounded
import DocAtlas.Proofs.Site.Harvest

/-! # Source files in declared directories

A source file below the root is found exactly if it lies behind a declared directory and the path of
its folder, spelled from there, is short enough to be opened.

* `DeclaredDir.folders`, `DeclaredDir.reaches` — the folders between a declared directory and a file,
  and whether the walk of the directory gets to the file
* `Site.spells_find`, `Site.pairwise_finds` — where the finds of a declared directory lie, and that no
  two have the same path
* `Site.Grounded.exists_find_iff` — which source files below the root are found
-/

set_option autoImplicit false

namespace DocAtlas

namespace DeclaredDir

/-- The folders between the directory and a file behind it. -/
def folders (declared : DeclaredDir) (p : Path) : List String :=
  (p.names.drop declared.dir.names.length).dropLast

/-- Whether the walk of the directory gets to the folder of a file. -/
def reaches (declared : DeclaredDir) (p : Path) : Bool :=
  p.startsWith declared.dir && !declared.dir.same p &&
    !Tree.isTooLong (declared.dir.below (declared.folders p))

theorem folders_of_spells {declared : DeclaredDir} {p : Path} {names between : List String}
    {name : String} (hd : declared.dir.Spells names) (hp : p.Spells (names ++ (between ++ [name]))) :
    declared.folders p = between := by
  rw [folders, hp.names_eq, hd.names_eq, List.drop_left, List.dropLast_concat]

end DeclaredDir

namespace Site

variable {site : Site} {rootNames : List String} {inside : Listing}

theorem spells_find {declared : DeclaredDir} {names : List String} {q : Path}
    (hd : declared.dir.Spells names) (hdir : site.tree.isDir declared.dir = true)
    (hq : q ∈ site.sources declared.dir) :
    ∃ between name, q.Spells (names ++ (between ++ [name])) ∧
      Tree.isTooLong (declared.dir.below between) = false := by
  obtain ⟨within, hentry⟩ := Tree.entry?_of_isDir hdir
  obtain ⟨between, name, hsource, rfl⟩ := (Tree.mem_sources_iff hentry).1 hq
  exact ⟨between, name, hsource.spells (Tree.wellFormed_of_present hentry) hd,
    Tree.isTooLong_folder hentry hsource⟩

theorem pairwise_finds (declared : DeclaredDir) :
    (site.finds declared).Pairwise fun f g => f.path.same g.path = false := by
  unfold finds
  split
  · rename_i hdir
    obtain ⟨within, hentry⟩ := Tree.entry?_of_isDir hdir
    rw [List.pairwise_map]
    simp only [path_find]
    exact Tree.pairwise_sources hentry
  · exact List.Pairwise.nil

theorem mem_kept_iff_first {f : Find} :
    f ∈ site.kept ↔ ∃ before declared after, site.layout.declaredDirs = before ++ declared :: after ∧
      f ∈ site.finds declared ∧ ∀ d ∈ before, ∀ g ∈ site.finds d, f.path.same g.path = false := by
  exact mem_kept fun d _ => pairwise_finds d

/-- A file behind a declared directory that the walk of the directory gets to is met there. -/
theorem Grounded.mem_sources_of_reaches (h : site.Grounded rootNames inside) {declared : DeclaredDir}
    {names between : List String} {name : String}
    (hd : declared.dir.Spells (rootNames ++ names))
    (hsource : inside.HasSource site.config site.layout.root (names ++ between) name)
    (hlong : Tree.isTooLong (declared.dir.below between) = false) :
    site.tree.isDir declared.dir = true ∧
      (declared.dir.below between).child name ∈ site.sources declared.dir := by
  obtain ⟨bytes, hfile⟩ := hsource.file
  have hnames := hsource.isName h.wellFormed_inside
  rw [List.append_assoc] at hfile
  obtain ⟨within, hwithin, hbehind⟩ := Listing.exists_dir_of_entryAt?_append (by simp) hfile
  have hentry : site.tree.root.entryAt? (rootNames ++ names) = some (.dir within) := by
    rw [Listing.entryAt?_append names h.dir, hwithin]
  have hshort : Tree.isTooLong declared.dir = false :=
    Tree.isTooLong_of_below (fun n hn => hnames n (by simp [hn])) hlong
  refine ⟨(Tree.isDir_iff_of_dir hd hentry).2 hshort, ?_⟩
  have hfound : site.tree.entry? declared.dir = some (.dir within) := by
    rw [Tree.entry?_of_dir hd hentry, if_neg (by simp [hshort])]
  refine (Tree.mem_sources_iff hfound).2 ⟨between, name, ?_, rfl⟩
  exact {
    file := ⟨bytes, hbehind⟩
    included := fun n hn => hsource.included n (by simp_all)
    supported := hsource.supported
    opened := Or.inr hlong }

theorem Grounded.exists_reaches (h : site.Grounded rootNames inside) {p : Path}
    (hp : p ∈ site.allSources) {f : Find} (hf : f ∈ site.kept) (hsame : p.same f.path = true) :
    ∃ declared ∈ site.layout.declaredDirs, declared.reaches p = true := by
  obtain ⟨folders, name, hsource, -, hspells⟩ := h.mem_allSources hp
  obtain ⟨declared, hd, hdir, q, hq, rfl⟩ := mem_allFinds.1 (mem_allFinds_of_mem_kept hf)
  obtain ⟨names, hnames⟩ := h.declared_spells hd
  obtain ⟨between, last, hqspells, hlong⟩ := spells_find hnames hdir hq
  rw [path_find] at hsame
  have hpspells : p.Spells (rootNames ++ names ++ (between ++ [last])) := by
    rw [← (hspells.same_iff hqspells).1 hsame]
    exact hspells
  refine ⟨declared, hd, ?_⟩
  have hstarts : p.startsWith declared.dir = true :=
    (hpspells.startsWith_iff hnames).2 (List.prefix_append _ _)
  have hdiffers : declared.dir.same p = false := by
    rw [← Bool.not_eq_true, hnames.same_iff hpspells]
    simp
  unfold DeclaredDir.reaches
  rw [DeclaredDir.folders_of_spells hnames hpspells, hstarts, hdiffers, hlong]
  rfl

theorem Grounded.exists_kept (h : site.Grounded rootNames inside) {p : Path}
    (hp : p ∈ site.allSources) {declared : DeclaredDir} (hd : declared ∈ site.layout.declaredDirs)
    (hreaches : declared.reaches p = true) : ∃ f ∈ site.kept, p.same f.path = true := by
  obtain ⟨folders, name, hsource, -, hspells⟩ := h.mem_allSources hp
  simp only [DeclaredDir.reaches, Bool.and_eq_true, Bool.not_eq_true'] at hreaches
  obtain ⟨⟨hstarts, hdiffers⟩, hlong⟩ := hreaches
  obtain ⟨names, hnames⟩ := h.declared_spells hd
  rw [hspells.startsWith_iff hnames, List.prefix_append_right_inj, List.prefix_concat_iff] at hstarts
  rcases hstarts with rfl | ⟨between, rfl⟩
  · -- the path would be the directory itself
    have hsame := (hnames.same_iff hspells).2 rfl
    rw [hdiffers] at hsame
    cases hsame
  · have hpspells : p.Spells (rootNames ++ names ++ (between ++ [name])) := by
      have hassoc : rootNames ++ names ++ (between ++ [name]) =
          rootNames ++ (names ++ between ++ [name]) := by simp
      rw [hassoc]
      exact hspells
    rw [DeclaredDir.folders_of_spells hnames hpspells] at hlong
    obtain ⟨hdir, hmem⟩ := h.mem_sources_of_reaches hnames hsource hlong
    have hfind := mem_allFinds.2 ⟨declared, hd, hdir, _, hmem, rfl⟩
    obtain ⟨g, hg, hsame⟩ := exists_same_kept hfind
    have hvalid := hsource.isName h.wellFormed_inside
    have hbelow : (declared.dir.below between).Spells (rootNames ++ names ++ between) :=
      hnames.below fun n hn => hvalid n (by simp [hn])
    have hqspells := hbelow.child (hvalid name (by simp))
    rw [List.append_assoc] at hqspells
    refine ⟨g, hg, Path.same_trans ?_ hsame⟩
    rw [path_find, hpspells.same_iff hqspells]

/-- A source file below the root is found exactly if a declared directory reaches it. -/
theorem Grounded.exists_find_iff (h : site.Grounded rootNames inside) {p : Path}
    (hp : p ∈ site.allSources) :
    (∃ f ∈ site.kept, p.same f.path = true) ↔
      ∃ declared ∈ site.layout.declaredDirs, declared.reaches p = true :=
  ⟨fun ⟨_, hf, hsame⟩ => h.exists_reaches hp hf hsame,
    fun ⟨_, hd, hreaches⟩ => h.exists_kept hp hd hreaches⟩

end Site

end DocAtlas
