import DocAtlas.Proofs.Path.Length
import DocAtlas.Proofs.Site.Coverage
import DocAtlas.Proofs.Site.Identity

/-! # Records as targets of references

Records come of walks through the declared directories, addresses that references can have come of one
walk through the root. The walk through the root shows a record unless its path leads out of the root,
over a name that is passed over or over a symbolic link.

* `Site.isShown` — whether the walk through the root shows the file of a path
* `Site.Rooted.exists_source_iff` — which records are source files of the whole documentation
* `Site.IsTarget`, `Site.Rooted.url_mem_documentUrls` — which records have an address to refer to
* `Config.DeclaresShown`, `Site.Rooted.isShown_record` — a configuration under which all records do
* `Session.records_are_targets` — what becomes of references to a record
-/

set_option autoImplicit false

namespace DocAtlas

namespace Site

/-- Whether the file of a path is shown below the root: no name on the way is passed over, and no
symbolic link and no `..` stands there. -/
def isShown (site : Site) (p : Path) : Bool :=
  site.layout.isBelow p && !p.components.contains .parent &&
    !site.layout.excludes site.config p && (site.tree.root.fileAt? p.names).isSome

/-- Whether references can have the address of a path: it is shown, or another source file below the
root has its address. -/
def IsTarget (site : Site) (p : Path) : Prop :=
  site.isShown p = true ∨ ∃ d ∈ site.allSources, p.same d = false ∧ site.url d = site.url p

variable {site : Site} {rootNames names folders : List String} {name : String} {inside : Listing}
  {p q : Path}

/-! ## Source files that are shown -/

theorem Rooted.excludes_below (h : site.Rooted rootNames inside) (hp : p.Spells (rootNames ++ names)) :
    site.layout.excludes site.config p = names.any site.config.excludes := by
  rcases Layout.excludes_of_spells site.config h.root_spells hp with ⟨behind, hbehind, hany⟩ | ⟨hnot, -⟩
  · rw [hany, List.append_cancel_left hbehind]
  · exact absurd (List.prefix_append rootNames names) hnot

theorem Rooted.isShown_iff (h : site.Rooted rootNames inside)
    (hp : p.Spells (rootNames ++ (folders ++ [name]))) :
    site.isShown p = true ↔ (∀ n ∈ folders ++ [name], site.config.excludes n = false) ∧
      ∃ bytes, inside.entryAt? (folders ++ [name]) = some (.file bytes) := by
  have hbelow : site.layout.isBelow p = true :=
    (Layout.isBelow_iff h.root_spells hp).2 ⟨folders, name, rfl⟩
  have hparent : p.components.contains .parent = false := by simpa using hp.not_parent
  have hfile : (site.tree.root.fileAt? p.names).isSome = true ↔
      ∃ bytes, inside.entryAt? (folders ++ [name]) = some (.file bytes) := by
    rw [hp.names_eq, Listing.fileAt?_append _ h.dir, Listing.fileAt?, Option.isSome_iff_exists]
    cases inside.entryAt? (folders ++ [name]) with
    | none => simp
    | some entry => cases entry <;> simp [Entry.bytes?]
  simp only [isShown, hbelow, hparent, h.excludes_below hp, Bool.and_eq_true, Bool.not_false,
    Bool.not_eq_true', List.any_eq_false, hfile, true_and, Bool.not_eq_true]

theorem exists_spells_of_isShown (hroot : site.layout.root.Spells rootNames)
    (habs : p.isAbsolute = true) (hp : site.isShown p = true) :
    ∃ folders name, p.Spells (rootNames ++ (folders ++ [name])) := by
  simp only [isShown, Bool.and_eq_true, Bool.not_eq_true'] at hp
  obtain ⟨⟨⟨hbelow, hparent⟩, -⟩, -⟩ := hp
  have hspells := Path.spells_names habs (by simpa using hparent)
  obtain ⟨folders, name, hnames⟩ := (Layout.isBelow_iff hroot hspells).1 hbelow
  rw [hnames] at hspells
  exact ⟨folders, name, hspells⟩

/-- The folder of a record can be opened from the root if it can be opened from the declared
directory, since no spelling of it is shorter. -/
theorem Rooted.opened_of_below (h : site.Rooted rootNames inside) {dir : Path}
    (hdir : dir.Spells (rootNames ++ names)) (hopen : Tree.isTooLong dir = false) :
    Tree.isTooLong (site.layout.root.below names) = false := by
  have hshort := Tree.isTooLong_pathOf hdir hopen
  rwa [Tree.pathOf, List.foldl_append, ← Tree.pathOf, ← h.root_eq] at hshort

theorem Rooted.exists_source_iff (h : site.Rooted rootNames inside) {r : Record}
    (hr : r ∈ site.corpus.records) :
    (∃ d ∈ site.allSources, r.path.same d = true) ↔ site.isShown r.path = true := by
  constructor
  · rintro ⟨d, hd, hsame⟩
    obtain ⟨folders, name, hsource, -, hspells⟩ := h.mem_allSources hd
    have hpath : r.path.Spells (rootNames ++ (folders ++ [name])) :=
      (Path.same_iff.1 hsame).trans hspells
    exact (h.isShown_iff hpath).2 ⟨hsource.included, hsource.file⟩
  · intro hshown
    obtain ⟨folders, name, hspells⟩ :=
      exists_spells_of_isShown h.root_spells (h.isAbsolute_record hr) hshown
    obtain ⟨hincluded, hfile⟩ := (h.isShown_iff hspells).1 hshown
    obtain ⟨declared, -, habs, within, hentry, between, last, hsource, hpath⟩ := h.exists_find hr
    have hlast : IsName last := hsource.isName (Tree.wellFormed_of_present hentry) last (by simp)
    -- the record has its own name and lies in a folder that was opened
    have hrecord := hspells
    rw [hpath, ← List.append_assoc] at hrecord
    obtain ⟨hfolder, rfl⟩ := Path.Spells.of_child (Path.isAbsolute_below habs between) hlast hrecord
    have hopened := h.opened_of_below hfolder (Tree.isTooLong_folder hentry hsource)
    have hnames : ∀ n ∈ folders, IsName n := fun n hn => hspells.isName n (by simp [hn])
    have hroot := h.entry?_root (Tree.isTooLong_of_below hnames hopened)
    have hmem : (site.layout.root.below folders).child last ∈ site.allSources := by
      refine (Tree.mem_sources_iff hroot).2 ⟨folders, last, ?_, rfl⟩
      exact {
        file := hfile
        included := hincluded
        supported := hsource.supported
        opened := Or.inr hopened }
    refine ⟨_, hmem, (hspells.same_iff ?_).2 rfl⟩
    rw [← List.append_assoc]
    exact (h.root_spells.below hnames).child hlast

/-! ## Addresses that can be referred to -/

theorem mem_documentUrls {url : String} :
    url ∈ site.documentUrls ↔ ∃ d ∈ site.allSources, site.url d = url := by
  rw [documentUrls, TextSet.mem_ofList, List.mem_map]

theorem Rooted.url_of_same (h : site.Rooted rootNames inside)
    (hsuffix : '/' ∉ site.config.outputSuffix.toList) (hq : q ∈ site.allSources)
    (hsame : p.same q = true) : site.url p = site.url q := by
  obtain ⟨folders, name, -, -, hspells⟩ := h.mem_allSources hq
  have hpath : p.Spells (rootNames ++ (folders ++ [name])) := (Path.same_iff.1 hsame).trans hspells
  rw [url, url, Layout.urlFor_below h.root_spells hpath hsuffix,
    Layout.urlFor_below h.root_spells hspells hsuffix]

theorem url_of_mem_records {r : Record} (hr : r ∈ site.corpus.records) : r.url = site.url r.path := by
  obtain ⟨f, -, rfl⟩ := mem_records.1 hr
  rw [url_record, path_record]

theorem Rooted.url_mem_documentUrls (h : site.Rooted rootNames inside)
    (hsuffix : '/' ∉ site.config.outputSuffix.toList) {r : Record} (hr : r ∈ site.corpus.records) :
    r.url ∈ site.documentUrls ↔ site.IsTarget r.path := by
  rw [mem_documentUrls, url_of_mem_records hr, IsTarget, ← h.exists_source_iff hr]
  constructor
  · rintro ⟨d, hd, hurl⟩
    cases hsame : r.path.same d with
    | true => exact Or.inl ⟨d, hd, hsame⟩
    | false => exact Or.inr ⟨d, hd, hsame, hurl⟩
  · rintro (⟨d, hd, hsame⟩ | ⟨d, hd, -, hurl⟩)
    · exact ⟨d, hd, (h.url_of_same hsuffix hd hsame).symm⟩
    · exact ⟨d, hd, hurl⟩

theorem Rooted.reference_to_record (h : site.Rooted rootNames inside)
    (hsuffix : '/' ∉ site.config.outputSuffix.toList) {r s : Record} (hr : r ∈ site.corpus.records)
    (hs : s ∈ site.corpus.records) {t : String} (ht : t ∈ s.references)
    (hurl : site.layout.referenceUrl (site.candidateOf s t) site.config.outputSuffix = r.url) :
    ((site.linkReport site.corpus).links.Has (site.layout.relative s.path) r.url ↔
        site.IsTarget r.path) ∧
      (site.IsTarget r.path → .unresolvedReference (site.layout.relative s.path) t ∉
        (site.linkReport site.corpus).issues) := by
  rw [← h.url_mem_documentUrls hsuffix hr, mem_documentUrls]
  constructor
  · rw [has_linkReport]
    constructor
    · rintro ⟨-, -, -, -, -, -, hd⟩
      exact hd
    · intro hd
      exact ⟨s, hs, t, ht, Path.same_refl _, hurl, hd⟩
  · rintro ⟨d, hd, hdurl⟩ hissue
    obtain ⟨s', hs', t', -, hnowhere, heq⟩ := mem_issues_linkReport.1 hissue
    rw [Issue.unresolvedReference.injEq] at heq
    obtain ⟨hrelative, rfl⟩ := heq
    -- the path below the root tells the record, so the reference reported is this one
    have hsame := Layout.same_of_relative_eq h.root_spells.isAbsolute (h.isAbsolute_record hs)
      (h.isAbsolute_record hs') hrelative
    have hcandidate := candidate_of_same h.root_spells.isAbsolute (h.isAbsolute_record hs) hsame t
    have hresolves : site.resolves (site.candidateOf s t) = true :=
      resolves_iff.2 (Or.inl ⟨d, hd, hdurl.trans hurl.symm⟩)
    rw [candidateOf, hcandidate] at hresolves
    rw [candidateOf, hresolves] at hnowhere
    cases hnowhere

end Site

/-! ## Directories that are shown -/

/-- Every declared directory is named by names that are not passed over. -/
structure Config.DeclaresShown (config : Config) : Prop where
  plain : ∀ text ∈ config.declaredTexts, (Path.mk text).isPlain = true
  included : ∀ text ∈ config.declaredTexts, ∀ n ∈ (Path.mk text).names, config.excludes n = false

theorem Site.Rooted.isShown_record {site : Site} {rootNames : List String} {inside : Listing}
    (h : site.Rooted rootNames inside) (hunlinked : site.tree.root.isUnlinked = true)
    (hconfig : site.config.DeclaresShown) {r : Record} (hr : r ∈ site.corpus.records) :
    site.isShown r.path = true := by
  obtain ⟨declared, hd, habs, within, hentry, folders, name, hsource, hpath⟩ := h.exists_find hr
  obtain ⟨text, htext, hdir⟩ := h.exists_text hd
  have hspells : declared.dir.Spells (rootNames ++ (Path.mk text).names) := by
    rw [hdir]
    exact h.root_spells.join (hconfig.plain text htext)
  have hwithin := Tree.entryAt?_of_spells hunlinked hspells hentry
  rw [Listing.entryAt?_append _ h.dir] at hwithin
  have hrecord := hsource.spells (Tree.wellFormed_of_present hentry) hspells
  rw [← hpath, List.append_assoc, ← List.append_assoc (Path.mk text).names] at hrecord
  refine (h.isShown_iff hrecord).2 ⟨fun n hn => ?_, ?_⟩
  · rw [List.append_assoc] at hn
    rcases List.mem_append.1 hn with hn | hn
    · exact hconfig.included text htext n hn
    · exact hsource.included n hn
  · obtain ⟨bytes, hfile⟩ := hsource.file
    exact ⟨bytes, by rw [List.append_assoc, Listing.entryAt?_append _ hwithin, hfile]⟩

namespace Session

variable {session : Session} {tree : Tree}

/-- References can have the address of a record exactly if the record is shown below the root or another
document has its address. Then every reference with that address is a link and none is reported; else
none is a link. Without symbolic links and with declared directories that are not passed over all
records are shown. -/
theorem records_are_targets {docs root : Path} (hroot : Project.resolveRoot tree docs = .ok root)
    (hlayout : session.layout = Layout.ofRoot root session.config)
    (hsuffix : '/' ∉ session.config.outputSuffix.toList) :
    let site := session.fresh tree
    (tree.isDir root = false ∧
      (session.discover tree).ending = .failed (.docsDirNotFound root)) ∨
    ∃ corpus report, (session.discover tree).ending = .done corpus ∧
      ((session.discover tree).session.resolve tree corpus).ending = .done report ∧
      (∀ r ∈ corpus.records, r.url ∈ site.documentUrls ↔ site.IsTarget r.path) ∧
      (∀ r ∈ corpus.records, ∀ s ∈ corpus.records, ∀ t ∈ s.references,
        site.layout.referenceUrl (site.candidateOf s t) site.config.outputSuffix = r.url →
          (report.links.Has (site.layout.relative s.path) r.url ↔ site.IsTarget r.path) ∧
          (site.IsTarget r.path →
            .unresolvedReference (site.layout.relative s.path) t ∉ report.issues)) ∧
      (tree.root.isUnlinked = true → session.config.DeclaresShown →
        ∀ r ∈ corpus.records, site.isShown r.path = true) := by
  intro site
  have hsessionRoot : session.layout.root = root := by
    rw [hlayout]
    rfl
  cases hdir : tree.isDir root with
  | false =>
    left
    rw [← hsessionRoot] at hdir ⊢
    exact ⟨rfl, by rw [discover_of_not_isDir hdir]⟩
  | true =>
    right
    rw [← hsessionRoot] at hdir
    obtain ⟨report, _, _, hsurvey, _⟩ := exists_surveyed hdir hsuffix
    have hreport := report_of_resolved hsurvey.discovered hsurvey.resolved
    obtain ⟨rootNames, inside, rfl, hentry⟩ := Project.resolveRoot_ok hroot
    have hrooted : site.Rooted rootNames inside := ⟨hlayout, hentry⟩
    refine ⟨_, report, hsurvey.discovered, hsurvey.resolved,
      fun r hr => hrooted.url_mem_documentUrls hsuffix hr, fun r hr s hs t ht hurl => ?_,
      fun hunlinked hconfig r hr => hrooted.isShown_record hunlinked hconfig hr⟩
    rw [hreport]
    exact hrooted.reference_to_record hsuffix hr hs ht hurl

end Session

/-- The reference of `a.md` in `linkedDocs` has the address of a record that is shown, so it is a
link. -/
theorem records_are_targets_linkedDocs :
    ∃ corpus report, (Session.usual.discover linkedDocs).ending = .done corpus ∧
      ((Session.usual.discover linkedDocs).session.resolve linkedDocs corpus).ending =
        .done report ∧
      report.links.Has ⟨"user_docs/a.md"⟩ "user_docs/b.html" := by
  have hroot : Project.resolveRoot linkedDocs ⟨"docs"⟩ = .ok ⟨"/docs"⟩ := by rfl
  have hlayout : Session.usual.layout = Layout.ofRoot ⟨"/docs"⟩ Session.usual.config := rfl
  have hdir : linkedDocs.isDir ⟨"/docs"⟩ = true := by decide +kernel
  rcases Session.records_are_targets hroot hlayout (by decide) with
    ⟨hnone, -⟩ | ⟨corpus, report, hdiscover, hresolve, -, hreferences, -⟩
  · rw [hdir] at hnone
    cases hnone
  · obtain ⟨rfl, -⟩ := Session.discover_done hdiscover
    obtain ⟨r, hr, s, hs, t, ht, hurl, hsource, hshown, hname⟩ :
        ∃ r ∈ (Session.usual.fresh linkedDocs).corpus.records,
        ∃ s ∈ (Session.usual.fresh linkedDocs).corpus.records, ∃ t ∈ s.references.toList,
          (Session.usual.fresh linkedDocs).layout.referenceUrl
              ((Session.usual.fresh linkedDocs).candidateOf s t)
              (Session.usual.fresh linkedDocs).config.outputSuffix = r.url ∧
            (Session.usual.fresh linkedDocs).layout.relative s.path = ⟨"user_docs/a.md"⟩ ∧
            (Session.usual.fresh linkedDocs).isShown r.path = true ∧ r.url = "user_docs/b.html" := by
      decide +kernel
    have hlink := (hreferences r hr s hs t ht hurl).1.2 (Or.inl hshown)
    rw [hsource, hname] at hlink
    exact ⟨_, report, hdiscover, hresolve, hlink⟩

/-- The directory of the user has a name that is passed over below other directories. -/
def hiddenDocs : Tree where
  root := ((Listing.nil.plantAt ["docs", ".docforge.toml"]
      (.file "user_docs = \"build\"\n".toUTF8)).plantAt
    ["docs", "build", "a.md"] (.file "[x](b)".toUTF8)).plantAt
    ["docs", "build", "b.md"] (.file "# B".toUTF8)
  wellFormed := by decide +kernel

def hiddenSession : Session :=
  ⟨Layout.ofRoot ⟨"/docs"⟩ { userDocs := "build" }, { userDocs := "build" }, []⟩

/-- Both documents have records, but the reference from one to the other is passed over in silence. -/
theorem hidden_record_not_linked :
    (Project.openDocs hiddenDocs (some ⟨"docs"⟩)).result =
        .ok (hiddenSession.layout, hiddenSession.config) ∧
      ∃ corpus report, (hiddenSession.discover hiddenDocs).ending = .done corpus ∧
        ((hiddenSession.discover hiddenDocs).session.resolve hiddenDocs corpus).ending =
          .done report ∧
        (∃ r ∈ corpus.records, ∃ s ∈ corpus.records, ∃ t ∈ s.references,
          (hiddenSession.fresh hiddenDocs).layout.referenceUrl
              ((hiddenSession.fresh hiddenDocs).candidateOf s t)
              hiddenSession.config.outputSuffix = r.url ∧
            r.url ∉ (hiddenSession.fresh hiddenDocs).documentUrls) ∧
        report = ⟨[], []⟩ := by
  have hopen : (Project.openDocs hiddenDocs (some ⟨"docs"⟩)).result =
      .ok (hiddenSession.layout, hiddenSession.config) := by
    decide +kernel
  have hdir : hiddenDocs.isDir hiddenSession.layout.root = true := by decide +kernel
  obtain ⟨report, _, _, hsurvey, _⟩ := Session.exists_surveyed hdir (by decide)
  refine ⟨hopen, _, report, hsurvey.discovered, hsurvey.resolved, ?_, ?_⟩
  · change ∃ r ∈ (hiddenSession.fresh hiddenDocs).corpus.records,
      ∃ s ∈ (hiddenSession.fresh hiddenDocs).corpus.records, ∃ t ∈ s.references.toList,
        _ ∧ r.url ∉ (hiddenSession.fresh hiddenDocs).documentUrls.toList
    decide +kernel
  · rw [Session.report_of_resolved hsurvey.discovered hsurvey.resolved]
    decide +kernel

end DocAtlas
