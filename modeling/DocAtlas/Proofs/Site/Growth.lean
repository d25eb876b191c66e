import DocAtlas.Proofs.Site.Reach
import DocAtlas.Proofs.Site.Reached
import DocAtlas.Proofs.Tree.Growth

/-! # A document that is added

Once there is a new file below the root, all that was found, read and linked before still is. Of the
issues none comes up but in the new file itself: every path that was a file is still one, so whatever
an entry or a reference led to is still there or has another in its place.

* `Site.Grows` — a site with plain declared directories, and its tree with a new file
* `Site.Grows.mem_kept_iff`, `Site.Grows.mem_records_iff` — what is found besides the new file
* `Site.Grows.resolves`, `Site.Grows.existingSource?_eq_none` — what leads somewhere still does
* `Site.Grows.has_links`, `Site.Grows.mem_issues_links`, `Site.Grows.mem_issues_toctrees` — the reports
* `Session.adding_file` — the same of the surveys of both trees
-/

set_option autoImplicit false

namespace DocAtlas

namespace Site

/-- The declared directories of a rooted site are named by names and `.` only, and the other tree has a
new file at the names `added`. -/
structure Grows (site : Site) (rootNames : List String) (inside : Listing) (added : List String)
    (other : Tree) : Prop extends Site.Rooted site rootNames inside where
  plain : ∀ text ∈ site.config.declaredTexts, (Path.mk text).isPlain = true
  gains : site.tree.root.Gains added other.root

theorem existingSource?_eq_none_iff {site : Site} {c : Path} : site.existingSource? c = none ↔
    ∀ q ∈ site.targets c, site.tree.isFile q = false := by
  unfold existingSource? targets
  cases hsupports : site.config.supports c with
  | false => simp
  | true =>
    cases hfile : site.tree.isFile c with
    | false => simp [hfile]
    | true => simp [hfile]

namespace Grows

variable {site : Site} {other : Tree} {content : Path → Option String}
  {rootNames added : List String} {inside : Listing} {declared : DeclaredDir} {f : Find} {p c : Path}

section

variable (h : site.Grows rootNames inside added other)

include h

/-! ## Finds and records -/

theorem exists_spells (hd : declared ∈ site.layout.declaredDirs) :
    ∃ names, declared.dir.Spells names := by
  obtain ⟨names, hspells⟩ := h.declared_spells h.plain hd
  exact ⟨rootNames ++ names, hspells⟩

theorem mem_finds_iff (content : Path → Option String) (hd : declared ∈ site.layout.declaredDirs) :
    f ∈ site.finds declared ↔
      f ∈ (site.within other content).finds declared ∧ ¬ f.path.Spells added := by
  obtain ⟨names, hspells⟩ := h.exists_spells hd
  constructor
  · intro hf
    obtain ⟨hdir, q, hq, rfl⟩ := mem_finds.1 hf
    obtain ⟨hmem, hne⟩ := h.gains.mem_sources hspells hdir hq
    rw [path_find]
    exact ⟨mem_finds.2 ⟨h.gains.isDir hspells.isAbsolute hdir, q, hmem, rfl⟩, hne⟩
  · rintro ⟨hf, hne⟩
    obtain ⟨hdir, q, hq, rfl⟩ := mem_finds.1 hf
    rw [path_find] at hne
    obtain ⟨hbefore, hmem⟩ := h.gains.mem_sources_back hspells hdir hq hne
    exact mem_finds.2 ⟨hbefore, q, hmem, rfl⟩

/-- The new file has none of the paths found before, so it takes no find's place. -/
theorem mem_kept_iff (content : Path → Option String) :
    f ∈ site.kept ↔ f ∈ (site.within other content).kept ∧ ¬ f.path.Spells added := by
  rw [mem_kept_iff_first, mem_kept_iff_first]
  constructor
  · rintro ⟨before, d, after, hdirs, hf, hfirst⟩
    -- a find of a directory before is the new file or was there, and neither has the path of `f`
    have hbefore : ∀ e ∈ before ++ d :: after, e ∈ site.layout.declaredDirs := fun e he => hdirs ▸ he
    obtain ⟨hmem, hne⟩ := (h.mem_finds_iff content (hbefore d (by simp))).1 hf
    refine ⟨⟨before, d, after, hdirs, hmem, fun e he g hg => ?_⟩, hne⟩
    by_cases hadded : g.path.Spells added
    · rw [← Bool.not_eq_true]
      exact fun hsame => hne ((Path.same_iff.1 hsame).trans hadded)
    · exact hfirst e he g ((h.mem_finds_iff content (hbefore e (by simp [he]))).2 ⟨hg, hadded⟩)
  · rintro ⟨⟨before, d, after, hdirs, hf, hfirst⟩, hne⟩
    have hbefore : ∀ e ∈ before ++ d :: after, e ∈ site.layout.declaredDirs := fun e he => hdirs ▸ he
    refine ⟨before, d, after, hdirs, (h.mem_finds_iff content (hbefore d (by simp))).2 ⟨hf, hne⟩,
      fun e he g hg => ?_⟩
    exact hfirst e he g ((h.mem_finds_iff content (hbefore e (by simp [he]))).1 hg).1

theorem source?_kept (hf : f ∈ site.kept) : other.source? f.path = site.tree.source? f.path := by
  obtain ⟨declared, hd, hdir, q, hq, rfl⟩ := mem_allFinds.1 (mem_allFinds_of_mem_kept hf)
  obtain ⟨names, hspells⟩ := h.exists_spells hd
  rw [path_find]
  exact h.gains.source?_eq hspells hdir hq

/-- Records are those of finds, and the text of a find stays what it was. -/
theorem mem_records_iff (hread : site.content = site.tree.source?) {r : Record} :
    r ∈ site.corpus.records ↔
      r ∈ (site.within other other.source?).corpus.records ∧ ¬ r.path.Spells added := by
  have hrecord : ∀ g ∈ site.kept, (site.within other other.source?).record g = site.record g := by
    intro g hg
    rw [record, record, content_within, h.source?_kept hg, hread]
    rfl
  rw [mem_records, mem_records]
  constructor
  · rintro ⟨g, hg, rfl⟩
    obtain ⟨hkept, hne⟩ := (h.mem_kept_iff other.source?).1 hg
    rw [path_record]
    exact ⟨⟨g, hkept, hrecord g hg⟩, hne⟩
  · rintro ⟨⟨g, hg, rfl⟩, hne⟩
    rw [path_record] at hne
    have hkept := (h.mem_kept_iff other.source?).2 ⟨hg, hne⟩
    exact ⟨g, hkept, (hrecord g hkept).symm⟩

theorem exists_rooted (content : Path → Option String) :
    ∃ within, (site.within other content).Rooted rootNames within := by
  obtain ⟨within, hwithin⟩ := Listing.hasDir_iff.1
    (h.gains.dirs _ (Listing.hasDir_iff.2 ⟨inside, h.dir⟩))
  exact ⟨within, h.layout, hwithin⟩

theorem isDir_root_eq : other.isDir site.layout.root = site.tree.isDir site.layout.root := by
  obtain ⟨within, hother⟩ := h.exists_rooted site.content
  rw [Bool.eq_iff_iff, Tree.isDir_iff_of_dir h.root_spells h.dir]
  exact Tree.isDir_iff_of_dir h.root_spells hother.dir

theorem mem_allSources_iff (content : Path → Option String) :
    p ∈ site.allSources ↔ p ∈ (site.within other content).allSources ∧ ¬ p.Spells added := by
  constructor
  · intro hp
    exact h.gains.mem_sources h.root_spells (h.isDir_root hp) hp
  · rintro ⟨hp, hne⟩
    obtain ⟨within, hother⟩ := h.exists_rooted content
    exact (h.gains.mem_sources_back h.root_spells (hother.isDir_root hp) hp hne).2

theorem source?_allSources (hp : p ∈ site.allSources) :
    other.source? p = site.tree.source? p :=
  h.gains.source?_eq h.root_spells (h.isDir_root hp) hp

/-! ## Paths that are asked for -/

theorem existsWithAnyExtension (content : Path → Option String) {names : List String} (hc : c.Spells names)
    (hexists : site.existsWithAnyExtension c = true) :
    (site.within other content).existsWithAnyExtension c = true := by
  rw [existsWithAnyExtension_iff h.gains.unlinked hc] at hexists
  rw [existsWithAnyExtension_iff h.gains.unlinked_other hc]
  rcases hexists with hfile | ⟨dir, name, file, hdir, hname, hentry, hstem, hfile⟩
  · exact Or.inl (h.gains.isFile hc.isAbsolute hfile)
  · have habs : (dir.child file).isAbsolute = true :=
      Path.isAbsolute_join_left (Path.isAbsolute_parent hc.isAbsolute hdir)
    exact Or.inr ⟨dir, name, file, hdir, hname, hentry, hstem, h.gains.isFile habs hfile⟩

theorem resolves (content : Path → Option String) {names : List String} (hc : c.Spells names)
    (hresolves : site.resolves c = true) :
    (site.within other content).resolves c = true := by
  rw [resolves_iff] at hresolves ⊢
  rcases hresolves with ⟨d, hd, hurl⟩ | hexists
  · exact Or.inl ⟨d, ((h.mem_allSources_iff content).1 hd).1, hurl⟩
  · exact Or.inr (h.existsWithAnyExtension content hc hexists)

/-- An entry that leads nowhere led nowhere. What it leads to may be another document than before. -/
theorem existingSource?_eq_none (hc : c.isAbsolute = true)
    (hnone : (site.within other content).existingSource? c = none) :
    site.existingSource? c = none := by
  rw [existingSource?_eq_none_iff] at hnone ⊢
  intro q hq
  by_contra hfile
  have hthere := h.gains.isFile (isAbsolute_of_mem_targets hc hq) (by simpa using hfile)
  exact Bool.false_ne_true ((hnone q hq).symm.trans hthere)

/-! ## Reports -/

theorem has_links (hread : site.content = site.tree.source?) {s : Path} {u : String}
    (hlink : (site.linkReport site.corpus).links.Has s u) :
    ((site.within other other.source?).linkReport
      (site.within other other.source?).corpus).links.Has s u := by
  rw [has_linkReport] at hlink ⊢
  obtain ⟨r, hr, t, ht, hsource, hurl, d, hd, hdurl⟩ := hlink
  exact ⟨r, ((h.mem_records_iff hread).1 hr).1, t, ht, hsource, hurl, d,
    ((h.mem_allSources_iff other.source?).1 hd).1, hdurl⟩

end

section

variable {below : List String} {file : Path}
  (h : site.Grows rootNames inside (rootNames ++ below) other)
  (hfile : file.Spells (rootNames ++ below)) {issue : Issue}
  (hsource : issue.source.same (site.layout.relative file) = false)

include h hfile hsource

/-- An issue that is not one of the new file is one of a document that is not new. -/
theorem not_spells_of_source (hp : issue.source = site.layout.relative p) :
    ¬ p.Spells (rootNames ++ below) := by
  intro hspells
  have hsame : issue.source.same (site.layout.relative file) = true := by
    rw [hp, Path.same_iff, Layout.components_relative h.root_spells hspells,
      Layout.components_relative h.root_spells hfile]
  exact Bool.false_ne_true (hsource.symm.trans hsame)

theorem mem_issues_links (hread : site.content = site.tree.source?)
    (hissue : issue ∈ ((site.within other other.source?).linkReport
      (site.within other other.source?).corpus).issues) :
    issue ∈ (site.linkReport site.corpus).issues := by
  obtain ⟨r, hr, t, ht, hnowhere, rfl⟩ := mem_issues_linkReport.1 hissue
  have hne := not_spells_of_source h hfile hsource (p := r.path) rfl
  have hrecord := (h.mem_records_iff hread).2 ⟨hr, hne⟩
  refine mem_issues_linkReport.2 ⟨r, hrecord, t, ht, ?_, rfl⟩
  obtain ⟨names, hcandidate, hnames⟩ := h.exists_candidate hrecord t
  have hc : (site.candidateOf r t).Spells names := by
    rw [hcandidate]
    exact Tree.spells_pathOf hnames
  by_contra hsome
  have hresolves := h.resolves other.source? hc (by simpa using hsome)
  exact Bool.false_ne_true (hnowhere.symm.trans hresolves)

theorem mem_issues_toctrees (hcontent : ∀ p ∈ site.allSources, content p = site.content p)
    (hissue : issue ∈ (site.within other content).toctreeReport.issues) :
    issue ∈ site.toctreeReport.issues := by
  obtain ⟨p, hp, text, htext, t, ht, hnone, rfl⟩ := mem_issues_toctreeReport.1 hissue
  have hne := not_spells_of_source h hfile hsource (p := p) rfl
  have hmem := (h.mem_allSources_iff content).2 ⟨hp, hne⟩
  refine mem_issues_toctreeReport.2
    ⟨p, hmem, text, (hcontent p hmem).symm.trans htext, t, ht, ?_, rfl⟩
  exact h.existingSource?_eq_none
    (isAbsolute_candidate h.root_spells.isAbsolute (h.isAbsolute_source hmem) t) hnone

end

end Grows

end Site

theorem Project.resolveRoot_plantFile {tree : Tree} {docs root : Path} {added : List String}
    {bytes : ByteArray} (h : tree.root.Gains added (tree.plantFile added bytes).root)
    (hroot : resolveRoot tree docs = .ok root) :
    resolveRoot (tree.plantFile added bytes) docs = .ok root := by
  unfold resolveRoot at hroot ⊢
  split at hroot
  · rename_i hdir
    obtain ⟨names, hresolve⟩ : ∃ names, tree.resolve docs = .ok names := by
      cases hcanonical : tree.canonical docs with
      | error fault =>
        rw [hcanonical] at hroot
        cases hroot
      | ok path =>
        obtain ⟨names, hnames, -⟩ := Tree.canonical_ok hcanonical
        exact ⟨names, hnames⟩
    obtain ⟨inside, hinside⟩ := Tree.entryAt?_of_isDir hdir hresolve
    obtain ⟨within, hwithin⟩ := Listing.hasDir_iff.1
      (h.dirs names (Listing.hasDir_iff.2 ⟨inside, hinside⟩))
    have hlocate := Tree.locate_of_resolve hresolve
    rw [Tree.locate_of_unlinked h.unlinked] at hlocate
    have hfound : (tree.plantFile added bytes).locate docs = .found names := by
      rw [Tree.locate_of_unlinked h.unlinked_other]
      exact Tree.stop_found (fun _ _ hwalk => h.stride hwalk) hlocate
    have hisDir : (tree.plantFile added bytes).isDir docs = true := by
      rw [Tree.isDir, Tree.entry?, hfound]
      dsimp only
      rw [hwithin]
    have hsame : (tree.plantFile added bytes).resolve docs = tree.resolve docs := by
      rw [hresolve, Tree.resolve, hfound]
    rw [if_pos hisDir, Tree.canonical, hsame]
    exact hroot
  · cases hroot

namespace Session

variable {session : Session} {tree other : Tree} {rootNames added : List String} {inside : Listing}

/-- A discovery reads the documents that were there as before. -/
theorem content_of_grows (h : (session.fresh tree).Grows rootNames inside added other)
    (hdir : tree.isDir session.layout.root = true)
    (hsuffix : '/' ∉ session.config.outputSuffix.toList) {p : Path}
    (hp : p ∈ (session.fresh tree).allSources) :
    (session.discover other).session.content other p =
      (session.discover tree).session.content tree p := by
  have hother := h.isDir_root_eq.trans hdir
  by_cases hkept : ∃ f ∈ (session.fresh tree).kept, p.same f.path = true
  · obtain ⟨f, hf, hsame⟩ := hkept
    have hfound : f ∈ (session.fresh other).kept := ((h.mem_kept_iff other.source?).1 hf).1
    rw [content_of_kept hdir hsuffix hf hsame, content_of_kept hother hsuffix hfound hsame]
    exact h.source?_kept hf
  · have hnone : ∀ f ∈ (session.fresh tree).kept, p.same f.path = false := by simpa using hkept
    have hnew : ∀ f ∈ (session.fresh other).kept, p.same f.path = false := by
      intro f hf
      by_contra hsame
      rw [Bool.not_eq_false] at hsame
      refine hkept ⟨f, (h.mem_kept_iff other.source?).2 ⟨hf, fun hadded => ?_⟩, hsame⟩
      exact ((h.mem_allSources_iff other.source?).1 hp).2
        ((Path.same_iff.1 hsame).trans hadded)
    rw [content_of_not_kept hdir hnone, content_of_not_kept hother hnew]
    exact h.source?_allSources hp

section

variable {below : List String} {file : Path}
  (h : (session.fresh tree).Grows rootNames inside (rootNames ++ below) other)
  (hfile : file.Spells (rootNames ++ below))

include h hfile

/-- Of two sessions that read the documents that were there alike, the one in the tree with the new file
reports no more than the other but what is in this file. -/
theorem issues_of_loaded {last last' : Session} {known known' : Path → Prop}
    {toctrees toctrees' : ToctreeReport}
    (hlast : last.Recalls tree session.layout session.config known)
    (hlast' : last'.Recalls other session.layout session.config known')
    (hcontent : ∀ p ∈ (session.fresh tree).allSources, last'.content other p = last.content tree p)
    (hload : (last.loadToctrees tree).ending = .done toctrees)
    (hload' : (last'.loadToctrees other).ending = .done toctrees') :
    ∀ issue ∈ toctrees'.issues, issue.source.same (session.layout.relative file) = false →
      issue ∈ toctrees.issues := by
  have hsite : last'.site other = (last.site tree).within other (last'.content other) := by
    rw [hlast'.site_eq, hlast.site_eq]
    rfl
  have hgrows : (last.site tree).Grows rootNames inside (rootNames ++ below) other := by
    rw [hlast.site_eq]
    exact { h with }
  have hreport : toctrees = (last.site tree).toctreeReport := ending_settle_done hload
  have hreport' : toctrees' = (last'.site other).toctreeReport := ending_settle_done hload'
  intro issue hissue hsource
  rw [hreport', hsite] at hissue
  rw [hreport]
  refine hgrows.mem_issues_toctrees hfile ?_ (fun p hp => ?_) hissue
  · rw [hlast.site_eq]
    exact hsource
  · rw [sources_site hlast] at hp
    exact hcontent p hp

theorem issues_of_renewed (hsuffix : '/' ∉ session.config.outputSuffix.toList) :
    ∃ toctrees toctrees', (session.renewed.loadToctrees tree).ending = .done toctrees ∧
      (session.renewed.loadToctrees other).ending = .done toctrees' ∧
      ∀ issue ∈ toctrees'.issues, issue.source.same (session.layout.relative file) = false →
        issue ∈ toctrees.issues := by
  have hrecalls : ∀ which : Tree,
      session.renewed.Recalls which session.layout session.config fun _ => False :=
    fun which => recalls_fresh which session.layout session.config _
  have haddress := (hrecalls tree).canAddress hsuffix
  have hload : ∀ which : Tree,
      ∃ report, (session.renewed.loadToctrees which).ending = .done report :=
    fun which => ⟨_, ending_settle haddress _ _⟩
  obtain ⟨toctrees, htoctrees⟩ := hload tree
  obtain ⟨toctrees', htoctrees'⟩ := hload other
  refine ⟨toctrees, toctrees', htoctrees, htoctrees',
    issues_of_loaded h hfile (hrecalls tree) (hrecalls other) (fun p hp => ?_) htoctrees htoctrees'⟩
  rw [(hrecalls tree).content_of_reads (by simp), (hrecalls other).content_of_reads (by simp)]
  exact h.source?_allSources hp

theorem surveys_of_grows (hdir : tree.isDir session.layout.root = true)
    (hsuffix : '/' ∉ session.config.outputSuffix.toList) :
    ∃ corpus links toctrees last corpus' links' toctrees' last',
      session.Surveyed tree corpus links toctrees last ∧
      session.Surveyed other corpus' links' toctrees' last' ∧
      (∀ issue ∈ toctrees'.issues, issue.source.same (session.layout.relative file) = false →
        issue ∈ toctrees.issues) ∧
      (∀ issue ∈ links'.issues, issue.source.same (session.layout.relative file) = false →
        issue ∈ links.issues) ∧
      (∀ r ∈ corpus.records, r ∈ corpus'.records) ∧
      ∀ s u, links.links.Has s u → links'.links.Has s u := by
  have hother := h.isDir_root_eq.trans hdir
  obtain ⟨links, toctrees, last, hsurvey, -⟩ := exists_surveyed hdir hsuffix
  obtain ⟨links', toctrees', last', hsurvey', -⟩ := exists_surveyed hother hsuffix
  have hlinks := report_of_resolved hsurvey.discovered hsurvey.resolved
  have hlinks' := report_of_resolved hsurvey'.discovered hsurvey'.resolved
  have hresolved := (recalls_discover hdir).resolve (session.fresh tree).corpus
  have hresolved' := (recalls_discover hother).resolve (session.fresh other).corpus
  refine ⟨_, links, toctrees, last, _, links', toctrees', last', hsurvey, hsurvey', ?_, ?_, ?_, ?_⟩
  · refine issues_of_loaded h hfile hresolved hresolved' (fun p hp => ?_) hsurvey.loaded hsurvey'.loaded
    rw [content_resolve, content_resolve]
    exact content_of_grows h hdir hsuffix hp
  · intro issue hissue hsource
    rw [hlinks'] at hissue
    rw [hlinks]
    exact h.mem_issues_links hfile hsource rfl hissue
  · exact fun r hr => ((h.mem_records_iff rfl).1 hr).1
  · intro s u hlink
    rw [hlinks] at hlink
    rw [hlinks']
    exact h.has_links rfl hlink

end

/-- A new file below the root, with its directories, breaks nothing elsewhere. The root is resolved as
before. Whether the toctrees are read first or in a survey, no issue is reported that was not, unless
it is one of the new file; the same holds of references. Every record is still there as it was, and
every link. -/
theorem adding_file {docs root : Path} {below : List String} (bytes : ByteArray)
    (hroot : Project.resolveRoot tree docs = .ok root)
    (hlayout : session.layout = Layout.ofRoot root session.config)
    (hplain : ∀ text ∈ session.config.declaredTexts, (Path.mk text).isPlain = true)
    (hsuffix : '/' ∉ session.config.outputSuffix.toList)
    (hunlinked : tree.root.isUnlinked = true) (hnames : ∀ n ∈ below, isEntryName n = true)
    (hroom : tree.root.hasRoom (root.names ++ below) = true) :
    let other := tree.plantFile (root.names ++ below) bytes
    let file := session.layout.relative (root.below below)
    Project.resolveRoot other docs = .ok root ∧
    (∃ toctrees toctrees', (session.renewed.loadToctrees tree).ending = .done toctrees ∧
      (session.renewed.loadToctrees other).ending = .done toctrees' ∧
      ∀ issue ∈ toctrees'.issues, issue.source.same file = false → issue ∈ toctrees.issues) ∧
    ((tree.isDir root = false ∧ other.isDir root = false ∧
        (session.discover tree).ending = .failed (.docsDirNotFound root) ∧
        (session.discover other).ending = .failed (.docsDirNotFound root)) ∨
      ∃ corpus links toctrees last corpus' links' toctrees' last',
        session.Surveyed tree corpus links toctrees last ∧
        session.Surveyed other corpus' links' toctrees' last' ∧
        (∀ issue ∈ toctrees'.issues, issue.source.same file = false → issue ∈ toctrees.issues) ∧
        (∀ issue ∈ links'.issues, issue.source.same file = false → issue ∈ links.issues) ∧
        (∀ r ∈ corpus.records, r ∈ corpus'.records) ∧
        ∀ s u, links.links.Has s u → links'.links.Has s u) := by
  intro other file
  obtain ⟨rootNames, inside, rfl, hentry⟩ := Project.resolveRoot_ok hroot
  have hrooted : (session.fresh tree).Rooted rootNames inside := ⟨hlayout, hentry⟩
  -- the names of the new file, told by the path of the root
  have hrootNames := hrooted.isEntryName
  have hrootEq : session.layout.root = Tree.pathOf rootNames := hrooted.root_eq
  have hnamesEq : (Tree.pathOf rootNames).names = rootNames :=
    Tree.names_pathOf fun n hn => isName_of_isEntryName (hrootNames n hn)
  have hgains : tree.root.Gains ((Tree.pathOf rootNames).names ++ below) other.root := by
    refine Tree.gains_plantFile bytes hunlinked (fun n hn => ?_) hroom
    rw [hnamesEq] at hn
    exact (List.mem_append.1 hn).elim (hrootNames n) (hnames n)
  have hresolve : Project.resolveRoot other docs = .ok (Tree.pathOf rootNames) :=
    Project.resolveRoot_plantFile hgains hroot
  rw [hnamesEq] at hgains
  have hgrows : (session.fresh tree).Grows rootNames inside (rootNames ++ below) other :=
    { hrooted with plain := hplain, gains := hgains }
  have hfile : ((Tree.pathOf rootNames).below below).Spells (rootNames ++ below) := by
    rw [← hrootEq]
    exact hrooted.root_spells.below fun n hn => isName_of_isEntryName (hnames n hn)
  refine ⟨hresolve, issues_of_renewed hgrows hfile hsuffix, ?_⟩
  have hisDir : other.isDir session.layout.root = tree.isDir session.layout.root :=
    hgrows.isDir_root_eq
  rw [← hrootEq]
  cases hdir : tree.isDir session.layout.root with
  | true => exact Or.inr (surveys_of_grows hgrows hfile hdir hsuffix)
  | false =>
    rw [hdir] at hisDir
    rw [discover_of_not_isDir hdir, discover_of_not_isDir hisDir]
    exact Or.inl ⟨rfl, hisDir, rfl, rfl⟩

end Session

/-- A document is added to `linkedDocs` in a directory that is not there. Its reference leads nowhere, but
no other does, and the link between the others is still there. -/
theorem adding_file_linkedDocs :
    let grown := linkedDocs.plantFile ["docs", "auto_docs", "c.md"] "[x](gone)".toUTF8
    ∃ corpus links, (Session.usual.discover grown).ending = .done corpus ∧
      ((Session.usual.discover grown).session.resolve grown corpus).ending = .done links ∧
      links.links.Has ⟨"user_docs/a.md"⟩ "user_docs/b.html" ∧
      ∀ issue ∈ links.issues, issue.source.same ⟨"auto_docs/c.md"⟩ = true := by
  intro grown
  have hroot : Project.resolveRoot linkedDocs ⟨"docs"⟩ = .ok ⟨"/docs"⟩ := by rfl
  have hlayout : Session.usual.layout = Layout.ofRoot ⟨"/docs"⟩ Session.usual.config := rfl
  have hdir : linkedDocs.isDir ⟨"/docs"⟩ = true := by decide +kernel
  have hfile : Session.usual.layout.relative (Path.below ⟨"/docs"⟩ ["auto_docs", "c.md"]) =
      ⟨"auto_docs/c.md"⟩ := by
    decide +kernel
  have hnames : ∀ n ∈ ["auto_docs", "c.md"], isEntryName n = true := by decide
  have hadding := Session.adding_file "[x](gone)".toUTF8 hroot hlayout (by decide +kernel) (by decide)
    (by decide +kernel) hnames (by decide +kernel)
  obtain ⟨-, -, ⟨hnone, -⟩ | ⟨corpus, links, _, _, corpus', links', _, _, hsurvey, hsurvey', -, hissues,
    -, hlinks⟩⟩ := hadding
  · rw [hdir] at hnone
    cases hnone
  · have hreport := Session.report_of_resolved hsurvey.discovered hsurvey.resolved
    obtain ⟨rfl, -⟩ := Session.discover_done hsurvey.discovered
    have hbefore : ((Session.usual.fresh linkedDocs).linkReport
        (Session.usual.fresh linkedDocs).corpus).issues = [] := by
      decide +kernel
    refine ⟨corpus', links', hsurvey'.discovered, hsurvey'.resolved, hlinks _ _ ?_,
      fun issue hissue => ?_⟩
    · rw [hreport]
      change ∃ l ∈ ((Session.usual.fresh linkedDocs).linkReport
        (Session.usual.fresh linkedDocs).corpus).links,
          l.source.same ⟨"user_docs/a.md"⟩ = true ∧ "user_docs/b.html" ∈ l.urls.toList
      decide +kernel
    · by_contra hsource
      rw [hfile, hreport, hbefore] at hissues
      cases hissues issue hissue (by simpa using hsource)

end DocAtlas
