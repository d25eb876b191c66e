import DocAtlas.Proofs.Path.Trimming
import DocAtlas.Proofs.Session.Survey
import DocAtlas.Proofs.Site.Reach

/-! # The directory a record belongs to

Declared directories may lie within each other or be the same. A source file belongs to the first one
whose walk meets it, and its record is made as seen from there.

* `Site.met`, `Site.own` — the source files a declared directory meets, and those that none before
  it meets
* `Site.harvest_eq` — the harvest takes from each declared directory its own source files
* `DeclaredDir.find_of_components` — section and depth of a source file as seen from a directory
* `Session.records_of_declaredDirs` — the records of a discovery
-/

set_option autoImplicit false

namespace DocAtlas

/-- Among finds of which no two have the same path, the first ones are those not seen before. -/
theorem firstFinds_eq_filter {seen : List Path} {finds : List Find}
    (h : finds.Pairwise fun f g => f.path.same g.path = false) :
    firstFinds seen finds = finds.filter fun f => !seen.any f.path.same := by
  induction finds generalizing seen with
  | nil => rfl
  | cons f rest ih =>
    obtain ⟨hf, hrest⟩ := List.pairwise_cons.1 h
    have hkept : rest.filter (fun g => !(f.path :: seen).any g.path.same) =
        rest.filter fun g => !seen.any g.path.same := by
      apply List.filter_congr
      intro g hg
      rw [List.any_cons, Path.same_comm, hf g hg, Bool.false_or]
    rw [firstFinds, List.filter_cons]
    cases hseen : seen.any f.path.same with
    | true =>
      rw [if_pos rfl, ih hrest]
      rfl
    | false =>
      rw [if_neg (by simp), ih hrest, hkept]
      rfl

/-! ## Seen from a directory -/

/-- The find at a path behind a declared directory: folders that name sections do so right below the
directory, and the depth counts the folders below the one the section is named for. -/
theorem DeclaredDir.find_of_components {declared : DeclaredDir} {p : Path} {folders : List String}
    {name : String} (hdir : declared.dir.isAbsolute = true)
    (hp : p.components = declared.dir.components ++ (folders ++ [name]).map .normal) :
    declared.find p =
      ⟨declared.category,
        if declared.hasSections then folders.head?.getD "" else declared.dir.fileName.getD "",
        p, if declared.hasSections then folders.length - 1 else folders.length⟩ := by
  have hfront := Path.components_of_absolute hdir
  have hwhole : p.components = .root ::
      (declared.dir.segments.filterMap Component.ofSegment ++ (folders ++ [name]).map .normal) := by
    rw [hp, hfront, List.cons_append]
  obtain ⟨segments, hstrip, htrim, hnames⟩ := Path.stripBase_of_components hfront hwhole
  have hsteps : ((p.stripBase declared.dir).getD p).components =
      (folders ++ [name]).map .normal := by
    rw [hstrip, Option.getD_some, Path.components_spell_false htrim, hnames]
  unfold DeclaredDir.find
  rw [hsteps]
  cases hsections : declared.hasSections with
  | false => simp
  | true =>
    cases folders with
    | nil => simp
    | cons first rest =>
      cases rest with
      | nil => simp [Component.toPath]
      | cons second rest => simp [Component.toPath]

namespace Site

variable {site : Site}

/-- The source files a declared directory meets, none if it does not exist. -/
def met (site : Site) (declared : DeclaredDir) : List Path :=
  if site.tree.isDir declared.dir then site.sources declared.dir else []

/-- The source files a declared directory meets that none of the directories before it does. -/
def own (site : Site) (before : List DeclaredDir) (declared : DeclaredDir) : List Path :=
  (site.met declared).filter fun p => !before.any fun d => (site.met d).any p.same

theorem mem_met {declared : DeclaredDir} {p : Path} :
    p ∈ site.met declared ↔
      site.tree.isDir declared.dir = true ∧ p ∈ site.sources declared.dir := by
  unfold met
  split
  · rename_i hdir
    simp [hdir]
  · rename_i hdir
    simp [hdir]

theorem finds_eq_map_met (declared : DeclaredDir) :
    site.finds declared = (site.met declared).map declared.find := by
  unfold finds met
  split
  · rfl
  · rfl

/-- A source file lies behind the directory that meets it. -/
theorem components_of_mem_met {declared : DeclaredDir} {p : Path}
    (hp : p ∈ site.met declared) :
    ∃ folders name, p.components =
      declared.dir.components ++ (folders ++ [name]).map .normal := by
  obtain ⟨hisDir, hmem⟩ := mem_met.1 hp
  obtain ⟨inside, hentry⟩ := Tree.entry?_of_isDir hisDir
  obtain ⟨folders, name, hsource, rfl⟩ := (Tree.mem_sources_iff hentry).1 hmem
  exact ⟨folders, name, hsource.components (Tree.wellFormed_of_present hentry)⟩

/-! ## The harvest by directories -/

theorem firstFinds_finds {seen : List Path} {before : List DeclaredDir} (declared : DeclaredDir)
    (hseen : ∀ p : Path, seen.any p.same = before.any fun d => (site.met d).any p.same) :
    firstFinds seen (site.finds declared) = (site.own before declared).map declared.find := by
  have hfilter : (site.met declared).filter (fun p => !seen.any (declared.find p).path.same) =
      site.own before declared := by
    apply List.filter_congr
    intro p _
    rw [path_find, hseen p]
  rw [firstFinds_eq_filter (pairwise_finds declared), finds_eq_map_met, List.filter_map, ← hfilter]
  rfl

/-- What is seen behind a directory is what was seen before and what the directory meets. -/
theorem any_seen {seen : List Path} {before : List DeclaredDir} (declared : DeclaredDir)
    (hseen : ∀ p : Path, seen.any p.same = before.any fun d => (site.met d).any p.same) (p : Path) :
    (seen ++ site.own before declared).any p.same =
      (before ++ [declared]).any fun d => (site.met d).any p.same := by
  have hown : (site.own before declared).any p.same =
      ((site.met declared).any p.same && !seen.any p.same) := by
    rw [Bool.eq_iff_iff, Bool.and_eq_true, List.any_eq_true, List.any_eq_true]
    constructor
    · rintro ⟨q, hq, hsame⟩
      obtain ⟨hmet, hnone⟩ := List.mem_filter.1 hq
      rw [← hseen q] at hnone
      have hcongr : seen.any q.same = seen.any p.same := by
        congr 1
        funext r
        exact (Path.same_congr hsame r).symm
      exact ⟨⟨q, hmet, hsame⟩, hcongr ▸ hnone⟩
    · rintro ⟨⟨q, hmet, hsame⟩, hnone⟩
      have hcongr : seen.any p.same = seen.any q.same := by
        congr 1
        funext r
        exact Path.same_congr hsame r
      refine ⟨q, List.mem_filter.2 ⟨hmet, ?_⟩, hsame⟩
      rw [← hseen q, ← hcongr]
      exact hnone
  rw [List.any_append, hown, hseen p]
  simp only [List.any_append, List.any_cons, List.any_nil, Bool.or_false]
  cases before.any fun d => (site.met d).any p.same <;> simp

theorem harvestFrom_eq {seen : List Path} {before dirs : List DeclaredDir}
    (hseen : ∀ p : Path, seen.any p.same = before.any fun d => (site.met d).any p.same) :
    site.harvestFrom seen dirs = (dirs.zipIdx before.length).map fun entry =>
      (entry.1, (site.own ((before ++ dirs).take entry.2) entry.1).map entry.1.find) := by
  induction dirs generalizing seen before with
  | nil => rfl
  | cons declared rest ih =>
    have hfirst := firstFinds_finds declared hseen
    have hpaths : ((site.own before declared).map declared.find).map (·.path) =
        site.own before declared := by
      rw [List.map_map]
      exact (List.map_congr_left fun p _ => path_find declared p).trans (List.map_id _)
    have hrest := ih (any_seen declared hseen)
    rw [List.append_assoc, List.singleton_append, List.length_append, List.length_singleton]
      at hrest
    rw [harvestFrom, hfirst, hpaths, hrest, List.zipIdx_cons, List.map_cons, List.take_left]

/-- The harvest takes from each declared directory the source files that none before it meets, in the
order of its walk. -/
theorem harvest_eq (site : Site) :
    site.harvest = site.layout.declaredDirs.zipIdx.map fun entry =>
      (entry.1, (site.own (site.layout.declaredDirs.take entry.2) entry.1).map entry.1.find) :=
  have hnone : ∀ p : Path, [].any p.same = [].any fun d => (site.met d).any p.same := fun _ => rfl
  harvestFrom_eq hnone

theorem kept_by_directory (site : Site) :
    site.kept = site.layout.declaredDirs.zipIdx.flatMap fun entry =>
      (site.own (site.layout.declaredDirs.take entry.2) entry.1).map entry.1.find := by
  rw [kept, harvest_eq, List.flatMap_map]

/-! ## Records -/

/-- A record is made as seen from a declared directory, `folders` being those on the way to its file:
its section is the first of them if the directory has sections, else the directory itself, and its
depth counts the folders behind that. -/
structure SeenFrom (site : Site) (declared : DeclaredDir) (folders : List String) (r : Record) :
    Prop where
  path : ∃ name, r.path.components = declared.dir.components ++ (folders ++ [name]).map .normal
  category : r.category = declared.category
  folder : r.folder =
    if declared.hasSections then folders.head?.getD "" else declared.dir.fileName.getD ""
  priority : r.priority = Priority.ofDocument declared.category r.folder r.path
    (if declared.hasSections then folders.length - 1 else folders.length)
  url : r.url = site.url r.path

theorem folder_record (f : Find) : (site.record f).folder = f.folder := by
  rw [record, Record.ofContent]

theorem priority_record (f : Find) : (site.record f).priority =
    Priority.ofDocument f.category f.folder f.path f.depth := by
  rw [record, Record.ofContent]

theorem seenFrom_record {declared : DeclaredDir} {p : Path}
    (hdir : declared.dir.isAbsolute = true) (hp : p ∈ site.met declared) :
    ∃ folders, site.SeenFrom declared folders (site.record (declared.find p)) := by
  obtain ⟨folders, name, hcomponents⟩ := components_of_mem_met hp
  have hfind := DeclaredDir.find_of_components hdir hcomponents
  exact ⟨folders, {
    path := ⟨name, by rw [path_record, path_find, hcomponents]⟩
    category := by rw [category_record, category_find]
    folder := by rw [folder_record, hfind]
    priority := by rw [priority_record, folder_record, path_record, hfind]
    url := by rw [url_record, path_record] }⟩

/-- The paths of one category come directory by directory. -/
theorem paths_ofCategory (site : Site) (c : Category) :
    (site.corpus.ofCategory c).map (·.path) =
      site.layout.declaredDirs.zipIdx.flatMap fun entry =>
        if entry.1.category = c then site.own (site.layout.declaredDirs.take entry.2) entry.1
        else [] := by
  have hone : ∀ (declared : DeclaredDir) (paths : List Path),
      ((((paths.map declared.find).map site.record).filter (·.category == c)).map (·.path)) =
        if declared.category = c then paths else [] := by
    intro declared paths
    rw [List.map_map, List.filter_map, List.map_map]
    have hpath : (fun r : Record => r.path) ∘ site.record ∘ declared.find = id := by
      funext p
      rw [Function.comp_apply, Function.comp_apply, path_record, path_find, id_eq]
    have hcategory : (fun r : Record => r.category == c) ∘ site.record ∘ declared.find =
        fun _ => declared.category == c := by
      funext p
      rw [Function.comp_apply, Function.comp_apply, category_record, category_find]
    rw [hpath, hcategory, List.map_id]
    split
    · rename_i heq
      simp [heq]
    · rename_i hne
      simp [hne]
  rw [Corpus.ofCategory, found_corpus, kept_by_directory, List.map_flatMap,
    List.filter_flatMap, List.map_flatMap]
  congr 1
  funext entry
  exact hone entry.1 _

end Site

/-! ## Discoveries -/

namespace Session

variable {session : Session} {tree : Tree} {root : Path}

theorem isAbsolute_declaredDirs (hlayout : session.layout = Layout.ofRoot root session.config)
    (hroot : root.isAbsolute = true) :
    ∀ d ∈ session.layout.declaredDirs, d.dir.isAbsolute = true := by
  intro d hd
  have hjoin : ∀ q, (root.join q).isAbsolute = true := fun _ => Path.isAbsolute_join_left hroot
  rw [hlayout] at hd
  simp only [Layout.declaredDirs, Layout.categoryDirs, Layout.ofRoot, List.mem_append,
    List.mem_cons, List.not_mem_nil, or_false, List.map_map, List.mem_map] at hd
  rcases hd with (rfl | rfl | rfl) | ⟨text, -, rfl⟩
  · exact hjoin _
  · exact hjoin _
  · exact hjoin _
  · exact hjoin _

/-- A discovery has one record for each source file that some declared directory meets and no others.
A record belongs to the first directory that meets its file, and is made as seen from there. The
records of a category come in the order of the directories, those of one directory in the order of its
walk. -/
theorem records_of_declaredDirs (hlayout : session.layout = Layout.ofRoot root session.config)
    (hroot : root.isAbsolute = true) (hdir : tree.isDir root = true)
    (hsuffix : '/' ∉ session.config.outputSuffix.toList) :
    ∃ corpus, (session.discover tree).ending = .done corpus ∧
      corpus.records.Pairwise (fun r s => r.path.same s.path = false) ∧
      (∀ p : Path, (∃ r ∈ corpus.records, p.same r.path = true) ↔
        ∃ d ∈ session.layout.declaredDirs, tree.isDir d.dir = true ∧
          ∃ q ∈ tree.sources session.config d.dir, p.same q = true) ∧
      (∀ r ∈ corpus.records, ∃ before d after folders,
        session.layout.declaredDirs = before ++ d :: after ∧
          r.path ∈ (session.fresh tree).met d ∧
          (∀ e ∈ before, ∀ q ∈ (session.fresh tree).met e, r.path.same q = false) ∧
          (session.fresh tree).SeenFrom d folders r) ∧
      ∀ c, (corpus.ofCategory c).map (·.path) =
        session.layout.declaredDirs.zipIdx.flatMap fun entry =>
          if entry.1.category = c then
            (session.fresh tree).own (session.layout.declaredDirs.take entry.2) entry.1
          else [] := by
  have habs := isAbsolute_declaredDirs hlayout hroot
  have hopen : tree.isDir session.layout.root = true := by
    rw [hlayout]
    exact hdir
  refine ⟨(session.fresh tree).corpus, ending_discover hopen hsuffix, ?_, ?_, ?_,
    Site.paths_ofCategory _⟩
  · have hfound : (session.fresh tree).corpus.found.Pairwise
        fun r s => r.path.same s.path = false := by
      rw [Site.found_corpus, List.pairwise_map]
      exact (Site.pairwise_kept _).imp fun h => by rwa [Site.path_record, Site.path_record]
    exact hfound.perm (Corpus.records_perm _).symm fun h => by rwa [Path.same_comm] at h
  · intro p
    constructor
    · rintro ⟨r, hr, hsame⟩
      obtain ⟨f, hf, rfl⟩ := Site.mem_records.1 hr
      obtain ⟨d, hd, hisDir, q, hq, rfl⟩ := Site.mem_allFinds.1 (Site.mem_allFinds_of_mem_kept hf)
      rw [Site.path_record, Site.path_find] at hsame
      exact ⟨d, hd, hisDir, q, hq, hsame⟩
    · rintro ⟨d, hd, hisDir, q, hq, hsame⟩
      have hfind : d.find q ∈ (session.fresh tree).allFinds :=
        Site.mem_allFinds.2 ⟨d, hd, hisDir, q, hq, rfl⟩
      obtain ⟨f, hf, hkept⟩ := Site.exists_same_kept hfind
      rw [Site.path_find] at hkept
      refine ⟨_, Site.mem_records.2 ⟨f, hf, rfl⟩, ?_⟩
      rw [Site.path_record]
      exact Path.same_trans hsame hkept
  · intro r hr
    obtain ⟨f, hf, rfl⟩ := Site.mem_records.1 hr
    obtain ⟨before, d, after, hdirs, hmem, hfirst⟩ :=
      Site.mem_kept_iff_first.1 hf
    rw [Site.finds_eq_map_met, List.mem_map] at hmem
    obtain ⟨p, hp, rfl⟩ := hmem
    have hd : d ∈ session.layout.declaredDirs := by
      rw [show session.layout.declaredDirs = _ from hdirs]
      simp
    obtain ⟨folders, hseen⟩ := Site.seenFrom_record (habs d hd) hp
    refine ⟨before, d, after, folders, hdirs, ?_, ?_, hseen⟩
    · rwa [Site.path_record, Site.path_find]
    · intro e he q hq
      have hnone := hfirst e he (e.find q)
        (by rw [Site.finds_eq_map_met]; exact List.mem_map_of_mem hq)
      rw [Site.path_find, Site.path_find] at hnone
      rw [Site.path_record, Site.path_find]
      exact hnone

end Session

/-- A document of the user in a folder that is declared as well, and one at the root. -/
def overlappingDocs : Tree where
  root := (Listing.nil.plantAt ["docs", "user_docs", "api", "a.md"] (.file "# A".toUTF8)).plantAt
    ["docs", "b.md"] (.file "# B".toUTF8)
  wellFormed := by decide +kernel

/-- A session of that documentation: the folder and the root itself are declared behind the rest. -/
def overlappingSession : Session :=
  ⟨Layout.ofRoot ⟨"/docs"⟩ { autoRoots := ["user_docs/api", "."] },
    { autoRoots := ["user_docs/api", "."] }, []⟩

/-- All three directories meet the document in the folder, and its record belongs to the first. -/
theorem records_overlappingDocs :
    ∃ corpus, (overlappingSession.discover overlappingDocs).ending = .done corpus ∧
      corpus.records.Pairwise (fun r s => r.path.same s.path = false) ∧
      (corpus.ofCategory .user).map (·.path) = [⟨"/docs/user_docs/api/a.md"⟩] ∧
      (corpus.ofCategory .auto).map (·.path) = [⟨"/docs/./b.md"⟩] := by
  have hroot : (Path.mk "/docs").isAbsolute = true := by decide
  have hdir : overlappingDocs.isDir ⟨"/docs"⟩ = true := by decide +kernel
  have hsuffix : '/' ∉ overlappingSession.config.outputSuffix.toList := by decide
  have hlayout : overlappingSession.layout = Layout.ofRoot ⟨"/docs"⟩ overlappingSession.config := rfl
  obtain ⟨corpus, hcorpus, hpaths, -, -, hbuckets⟩ :=
    Session.records_of_declaredDirs hlayout hroot hdir hsuffix
  refine ⟨corpus, hcorpus, hpaths, ?_, ?_⟩
  · rw [hbuckets]
    decide +kernel
  · rw [hbuckets]
    decide +kernel

end DocAtlas
