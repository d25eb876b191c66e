import DocAtlas.Proofs.Layout.Address
import DocAtlas.Proofs.Layout.Reference
import DocAtlas.Proofs.Path.Parent
import DocAtlas.Proofs.Tree.Agreement

/-! # Relevant files

A file is relevant if no name below the root is passed over and it is a source file or a configuration.
The source files below a directory that is not itself passed over are relevant, so two trees that agree
on relevant files have the same source files there.

* `Layout.excludes_of_spells` — which names decide whether a path is passed over
* `Layout.isRelevant_below` — the source files below a directory
* `Tree.SameSources` — two trees have the same source files below a directory
* `Listing.AgreeOn.sameSources` — they do if they agree on relevant files
-/

set_option autoImplicit false

namespace DocAtlas

/-! ## Names that are passed over -/

namespace Layout

variable {layout : Layout} {config : Config} {p dir : Path} {rootNames names more : List String}

/-- The names behind the root decide, or all names of a path that does not lie below it. -/
theorem excludes_of_spells (config : Config) (hroot : layout.root.Spells rootNames)
    (hp : p.Spells names) :
    (∃ behind, names = rootNames ++ behind ∧
        layout.excludes config p = behind.any config.excludes) ∨
      (¬ rootNames <+: names ∧ layout.excludes config p = names.any config.excludes) := by
  by_cases hbelow : rootNames <+: names
  · obtain ⟨behind, rfl⟩ := hbelow
    obtain ⟨segments, hrelative, htrim, hnames⟩ := relative_below hroot hp
    refine Or.inl ⟨behind, rfl, ?_⟩
    rw [excludes, hrelative, Path.names_eq, Path.filterMap_segments_spell false htrim.noSlash, hnames,
      Component.filterMap_map_normal]
  · refine Or.inr ⟨hbelow, ?_⟩
    have houtside : p.startsWith layout.root = false := by
      rw [← Bool.not_eq_true, hp.startsWith_iff hroot]
      exact hbelow
    rw [excludes, relative_outside houtside, hp.names_eq]

theorem excludes_root (hroot : layout.root.Spells rootNames) :
    layout.excludes config layout.root.normalize = false := by
  have hspells : layout.root.normalize.Spells rootNames := by
    rw [Path.normalize_of_stack hroot.stack]
    exact Tree.spells_pathOf hroot.isName
  rcases excludes_of_spells config hroot hspells with ⟨behind, hbehind, hany⟩ | ⟨hnot, -⟩
  · rw [hany, List.self_eq_append_right.1 hbehind]
    rfl
  · exact absurd (List.prefix_refl rootNames) hnot

/-- Below a directory that is not passed over the names behind it decide. -/
theorem excludes_append (hroot : layout.root.Spells rootNames) (hdir : dir.Spells names)
    (hp : p.Spells (names ++ more)) (hexcl : layout.excludes config dir = false)
    (hmore : more.any config.excludes = false) : layout.excludes config p = false := by
  rcases excludes_of_spells config hroot hp with ⟨behind, heq, hbehind⟩ | ⟨hnot, hall⟩
  · rw [hbehind]
    rcases List.append_eq_append_iff.1 heq with ⟨between, -, rfl⟩ | ⟨between, rfl, rfl⟩
    · rw [List.any_append, Bool.or_eq_false_iff] at hmore
      exact hmore.2
    · rcases excludes_of_spells config hroot hdir with ⟨first, hfirst, hany⟩ | ⟨hnot, -⟩
      · obtain rfl := List.append_cancel_left hfirst
        rw [List.any_append, hmore, ← hany, hexcl, Bool.or_false]
      · exact absurd (List.prefix_append rootNames between) hnot
  · rcases excludes_of_spells config hroot hdir with ⟨first, rfl, -⟩ | ⟨-, hany⟩
    · rw [List.append_assoc] at hnot
      exact absurd (List.prefix_append rootNames _) hnot
    · rw [hall, List.any_append, hmore, ← hany, hexcl, Bool.or_false]

/-- The files a walk may meet below a directory that is not passed over are relevant. -/
theorem isRelevant_below (hroot : layout.root.Spells rootNames) (hdir : dir.Spells names)
    (hp : p.Spells (names ++ more)) (hexcl : layout.excludes config dir = false)
    (hmore : config.admits more = true) : layout.isRelevant config p = true := by
  rw [Config.admits, Bool.and_eq_true] at hmore
  obtain ⟨hincluded, hlast⟩ := hmore
  have hnone : more.any config.excludes = false := by
    rw [List.any_eq_false]
    intro name hname
    simpa using List.all_eq_true.1 hincluded name hname
  rcases List.eq_nil_or_concat' more with rfl | ⟨folders, name, rfl⟩
  · cases hlast
  · have hsupports : config.supports p = true := by
      rw [List.getLast?_concat] at hlast
      rw [← List.append_assoc] at hp
      have hname : IsName name := hp.isName name (by simp)
      rw [config.supports_of_fileName ((Path.fileName_of_spells hp).trans (Path.fileName_name hname).symm)]
      exact hlast
    rw [isRelevant, excludes_append hroot hdir hp hexcl hnone, hsupports]
    simp

end Layout

/-! ## Paths below a directory -/

namespace Path

variable {p : Path} {names more : List String}

theorem stack_below (hp : p.isAbsolute = true)
    (hstack : p.components.foldl pushNormal [] = stackOf names) (hmore : ∀ n ∈ more, IsName n) :
    (p.below more).components.foldl pushNormal [] = stackOf (names ++ more) := by
  induction more generalizing p names with
  | nil => rwa [List.append_nil]
  | cons name more ih =>
    have hname := hmore name List.mem_cons_self
    have hchild : (p.child name).components.foldl pushNormal [] = stackOf (names ++ [name]) := by
      rw [components_child hp hname, List.foldl_append, hstack]
      exact pushNormal_name names name
    have hrest := ih (isAbsolute_join hp (isAbsolute_name hname)) hchild
      fun n hn => hmore n (List.mem_cons_of_mem name hn)
    rwa [List.append_assoc] at hrest

theorem names_normalize_of_stack (hp : p.isAbsolute = true)
    (hstack : p.components.foldl pushNormal [] = stackOf names) :
    p.normalize.names = names ∧ ∀ n ∈ names, IsName n := by
  obtain ⟨others, hothers, hnames⟩ := exists_stack hp
  obtain rfl := stackOf_injective (hstack.symm.trans hothers)
  rw [normalize_of_stack hstack, Tree.names_pathOf hnames]
  exact ⟨rfl, hnames⟩

end Path

/-! ## Source files below a directory -/

/-- The two trees have the same source files below the directory a path is worked out to. -/
def Tree.SameSources (config : Config) (tree other : Tree) (dir : Path) : Prop :=
  ∀ names, config.admits names = true →
    tree.root.fileAt? (dir.normalize.names ++ names) = other.root.fileAt? (dir.normalize.names ++ names)

namespace Listing

theorem fileAt?_append {listing inside : Listing} {names : List String} (more : List String)
    (h : listing.entryAt? names = some (.dir inside)) :
    listing.fileAt? (names ++ more) = inside.fileAt? more := by
  rw [fileAt?, fileAt?, entryAt?_append more h]

theorem fileAt?_eq_none {listing : Listing} {names : List String} (hw : listing.wellFormed = true)
    (h : ¬ ∀ n ∈ names, isEntryName n = true) : listing.fileAt? names = none := by
  unfold fileAt?
  cases hentry : listing.entryAt? names with
  | none => rfl
  | some entry => exact absurd (isEntryName_of_entryAt? hw hentry).1 h

variable {tree other : Tree} {keeps : List String → Bool} {config : Config} {dir : Path}

/-- A walk from a directory with the same source files meets the same in both trees. -/
theorem AgreeOn.steps_dir (h : tree.root.AgreeOn keeps other.root) (hdir : dir.isAbsolute = true)
    (hsame : tree.SameSources config other dir) (hisDir : tree.isDir dir = true) :
    other.steps config dir = tree.steps config dir := by
  obtain ⟨names, hstack, -⟩ := Path.exists_stack hdir
  obtain ⟨hnames, -⟩ := Path.names_normalize_of_stack hdir hstack
  obtain ⟨inside, within, hentry, hother, hinside, hwithin⟩ := h.exists_dir_of_isDir hdir hstack hisDir
  have hagree : inside.AgreeOn config.admits within := by
    refine { h.inside hinside hwithin with files := fun more hmore => ?_ }
    have hfile := hsame more hmore
    rwa [hnames, fileAt?_append more hinside, fileAt?_append more hwithin] at hfile
  simp only [Tree.steps, hentry, hother]
  exact (hagree.steps_eq (Tree.wellFormed_of_present hentry)
    (Tree.wellFormed_of_present hother)).symm

theorem AgreeOn.source?_eq (h : tree.root.AgreeOn keeps other.root) (hdir : dir.isAbsolute = true)
    (hsame : tree.SameSources config other dir) (hisDir : tree.isDir dir = true) {p : Path}
    (hp : p ∈ tree.sources config dir) : other.source? p = tree.source? p := by
  obtain ⟨names, hstack, -⟩ := Path.exists_stack hdir
  obtain ⟨hnames, -⟩ := Path.names_normalize_of_stack hdir hstack
  obtain ⟨inside, within, hentry, -, -, -⟩ := h.exists_dir_of_isDir hdir hstack hisDir
  obtain ⟨folders, name, hsource, rfl⟩ := (Tree.mem_sources_iff hentry).1 hp
  have hisName := hsource.isName (Tree.wellFormed_of_present hentry)
  have hadmits : config.admits (folders ++ [name]) = true := by
    rw [Config.admits, Bool.and_eq_true, List.all_eq_true]
    refine ⟨fun n hn => by simpa using hsource.included n hn, ?_⟩
    rw [List.getLast?_concat]
    exact hsource.supported
  have hfile := hsame (folders ++ [name]) hadmits
  rw [hnames] at hfile
  have hbelow := Path.stack_below hdir hstack hisName
  rw [Path.below_concat] at hbelow
  have habs : ((dir.below folders).child name).isAbsolute = true :=
    Path.isAbsolute_join_left (Path.isAbsolute_below hdir folders)
  rw [Tree.source?_eq, Tree.source?_eq, h.bytes?_eq habs hbelow hfile]

/-- Trees that agree on relevant files have the same source files below every directory that is not
passed over. -/
theorem AgreeOn.sameSources {layout : Layout} {rootNames : List String}
    (h : tree.root.AgreeOn (fun names => layout.isRelevant config (Tree.pathOf names)) other.root)
    (hroot : layout.root.Spells rootNames) (hdir : dir.isAbsolute = true)
    (hexcl : layout.excludes config dir.normalize = false) : tree.SameSources config other dir := by
  intro more hmore
  obtain ⟨names, hstack, hnames⟩ := Path.exists_stack hdir
  rw [(Path.names_normalize_of_stack hdir hstack).1]
  rw [Path.normalize_of_stack hstack] at hexcl
  by_cases hentries : ∀ n ∈ names ++ more, isEntryName n = true
  · apply h.files
    exact Layout.isRelevant_below hroot (Tree.spells_pathOf hnames)
      (Tree.spells_pathOf fun n hn => isName_of_isEntryName (hentries n hn)) hexcl hmore
  · rw [fileAt?_eq_none tree.wellFormed hentries, fileAt?_eq_none other.wellFormed hentries]

end Listing

end DocAtlas
