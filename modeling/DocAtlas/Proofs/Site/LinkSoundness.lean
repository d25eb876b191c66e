import DocAtlas.Proofs.Layout.Reference
import DocAtlas.Proofs.Path.Normal
import DocAtlas.Proofs.Session.Survey
import DocAtlas.Proofs.Site.Reach
import DocAtlas.Proofs.Site.Links

/-! # What links lead to

A link is made where the address of a reference is that of a document. That says that the reference
names the document as long as its candidate lies below the root, the output suffix has no dots and
something is left of the name of the document. Everywhere else an address can be mistaken.

* `Path.refersTo` — whether a candidate names a document
* `Site.mistakes` — whether a candidate that does not name a document has its address
* `Site.Rooted.url_eq_iff` — when a reference has the address of a document
* `Session.links_resolve` — the links of a corpus and what they lead to
-/

set_option autoImplicit false

namespace DocAtlas

/-- Whether a path names a document: it is that of the document without extension. -/
def Path.refersTo (c d : Path) : Bool := (d.withExtension "").same c

namespace Site

/-- The path a reference of a record names. -/
def candidateOf (site : Site) (r : Record) (reference : String) : Path :=
  site.candidate (site.baseOf r.path) reference

/-- Whether a path has the address of a document for other reasons than that it names it: the path
lies outside the root, the output suffix has dots, or nothing is left of the name of the document. -/
def mistakes (site : Site) (c d : Path) : Bool :=
  (!site.layout.isBelow c || site.config.outputSuffix.toList.contains '.' ||
      (d.withExtension site.config.outputSuffix).fileName.isNone) &&
    site.layout.documentNames d site.config.outputSuffix ==
      site.layout.referenceNames c site.config.outputSuffix

variable {site : Site} {rootNames folders names : List String} {name : String} {inside : Listing}

/-! ## One reference and one document -/

/-- A path names a document exactly if it ends in the stem of its name. -/
theorem Rooted.refersTo_iff (h : site.Rooted rootNames inside)
    (hd : ∀ n ∈ folders ++ [name], IsName n) (hc : ∀ n ∈ names, IsName n) :
    (Tree.pathOf names).refersTo ((site.layout.root.below folders).child name) = true ↔
      ∃ last, names = rootNames ++ (folders ++ [last]) ∧
        (splitExtension name.toList).1 = last.toList := by
  have hname : IsName name := hd name (by simp)
  obtain ⟨c, hleft⟩ := exists_ofSegment_outputSegment "" hname.1
  rw [Path.refersTo, Path.same_iff,
    (h.folder_spells hd).components_withExtension hname (by simp), hleft,
    show (Tree.pathOf names).components = _ from Tree.spells_pathOf hc]
  constructor
  · intro heq
    have hlist : (rootNames ++ folders).map Component.normal ++ [c] = names.map .normal :=
      (List.cons.inj heq).2
    have hmem : c ∈ names.map Component.normal := by
      rw [← hlist]
      simp
    obtain ⟨last, -, rfl⟩ := List.mem_map.1 hmem
    refine ⟨last, ?_, ?_⟩
    · apply List.map_injective_iff.2 Component.normal_injective
      rw [← hlist]
      simp
    · have hmem : last ∈ outputNames "" name := by
        rw [outputNames_of_ofSegment hleft]
        simp
      rw [(mem_outputNames hmem).2]
      exact (List.append_nil _).symm
  · rintro ⟨last, rfl, hstem⟩
    have hlast : IsName last := hc last (by simp)
    have hspelled := ofSegment_of_stem_eq hlast (by simp : '/' ∉ "".toList) hstem
    rw [hleft] at hspelled
    rw [Option.some.inj hspelled]
    simp [Path.dotted]

/-- A reference has the address of a document exactly if the names of the two agree. -/
theorem Rooted.names_eq_iff (h : site.Rooted rootNames inside)
    (hsuffix : '/' ∉ site.config.outputSuffix.toList)
    (hd : ∀ n ∈ folders ++ [name], IsName n) (hc : ∀ n ∈ names, IsName n) :
    site.url ((site.layout.root.below folders).child name) =
        site.layout.referenceUrl (Tree.pathOf names) site.config.outputSuffix ↔
      folders ++ outputNames site.config.outputSuffix name =
        site.layout.referenceNames (Tree.pathOf names) site.config.outputSuffix := by
  have hspells := (h.folder_spells hd).child (hd name (by simp))
  rw [List.append_assoc] at hspells
  rw [url, Layout.urlFor_below h.root_spells hspells hsuffix,
    Layout.referenceUrl_eq h.root_spells hc hsuffix]
  exact intercalate_injective (isPart_documentNames hd hsuffix)
    (Layout.isPart_referenceNames hc hsuffix)

theorem Rooted.fileName_withExtension (h : site.Rooted rootNames inside) {suffix : String}
    (hsuffix : '/' ∉ suffix.toList) (hd : ∀ n ∈ folders ++ [name], IsName n) :
    (((site.layout.root.below folders).child name).withExtension suffix).fileName =
      (Component.ofSegment (outputSegment suffix name)).bind Component.name? := by
  have hname : IsName name := hd name (by simp)
  obtain ⟨c, hleft⟩ := exists_ofSegment_outputSegment suffix hname.1
  rw [Path.fileName, (h.folder_spells hd).components_withExtension hname hsuffix, hleft,
    Option.toList_some, ← List.cons_append, List.getLast?_concat]

/-- Below the root, under a suffix without dots and where a name is left, addresses agree exactly if
the reference names the document. -/
theorem Rooted.names_eq_iff_refersTo (h : site.Rooted rootNames inside)
    (hsuffix : '/' ∉ site.config.outputSuffix.toList) (hdot : '.' ∉ site.config.outputSuffix.toList)
    (hd : ∀ n ∈ folders ++ [name], IsName n) (hc : ∀ n ∈ names, IsName n)
    (hbelow : site.layout.isBelow (Tree.pathOf names) = true)
    (hleft : (((site.layout.root.below folders).child name).withExtension
      site.config.outputSuffix).fileName ≠ none) :
    folders ++ outputNames site.config.outputSuffix name =
        site.layout.referenceNames (Tree.pathOf names) site.config.outputSuffix ↔
      (Tree.pathOf names).refersTo ((site.layout.root.below folders).child name) = true := by
  obtain ⟨front, last, rfl⟩ := (Layout.isBelow_iff h.root_spells (Tree.spells_pathOf hc)).1 hbelow
  have hlast : IsName last := hc last (by simp)
  rw [h.fileName_withExtension hsuffix hd] at hleft
  obtain ⟨part, hpart⟩ := Option.ne_none_iff_exists'.1 hleft
  obtain ⟨c, hsegment, hname⟩ := Option.bind_eq_some_iff.1 hpart
  have hc' : c = .normal part := by
    cases c <;> simp_all [Component.name?]
  subst hc'
  rw [Layout.referenceNames_below _ h.root_spells hc,
    Layout.names_agree_iff hlast hsuffix hdot hsegment, h.refersTo_iff hd hc]
  constructor
  · rintro ⟨rfl, hstem⟩
    exact ⟨last, rfl, hstem⟩
  · rintro ⟨other, heq, hstem⟩
    have hback := List.append_cancel_left heq
    obtain ⟨hfolders, hother⟩ := List.append_inj' hback rfl
    rw [(List.cons.inj hother).1]
    exact ⟨hfolders.symm, hstem⟩

theorem mistakes_iff {c d : Path} :
    site.mistakes c d = true ↔
      (site.layout.isBelow c = true → '.' ∉ site.config.outputSuffix.toList →
        (d.withExtension site.config.outputSuffix).fileName = none) ∧
      site.layout.documentNames d site.config.outputSuffix =
        site.layout.referenceNames c site.config.outputSuffix := by
  unfold mistakes
  rw [Bool.and_eq_true, beq_iff_eq]
  refine and_congr ?_ Iff.rfl
  simp only [Bool.or_eq_true, Bool.not_eq_true', List.contains_iff_mem, Option.isNone_iff_eq_none]
  rw [← Bool.not_eq_true]
  tauto

/-- A reference has the address of a document if it names it under a suffix without dots, and where
its path is mistaken. -/
theorem Rooted.url_eq_iff (h : site.Rooted rootNames inside)
    (hsuffix : '/' ∉ site.config.outputSuffix.toList) {d : Path} (hd : d ∈ site.allSources)
    (hc : ∀ n ∈ names, IsName n) :
    site.url d = site.layout.referenceUrl (Tree.pathOf names) site.config.outputSuffix ↔
      ('.' ∉ site.config.outputSuffix.toList ∧ (Tree.pathOf names).refersTo d = true) ∨
        site.mistakes (Tree.pathOf names) d = true := by
  obtain ⟨folders, name, hsource, rfl, hspells⟩ := h.mem_allSources hd
  have hnames := hsource.isName h.wellFormed_inside
  rw [h.names_eq_iff hsuffix hnames hc, mistakes_iff,
    (Layout.urlFor_eq h.root_spells hspells hsuffix).1]
  constructor
  · intro heq
    by_cases hregular : site.layout.isBelow (Tree.pathOf names) = true ∧
        '.' ∉ site.config.outputSuffix.toList ∧
        (((site.layout.root.below folders).child name).withExtension
          site.config.outputSuffix).fileName ≠ none
    · obtain ⟨hbelow, hdot, hleft⟩ := hregular
      exact Or.inl ⟨hdot, (h.names_eq_iff_refersTo hsuffix hdot hnames hc hbelow hleft).1 heq⟩
    · refine Or.inr ⟨fun hbelow hdot => ?_, heq⟩
      by_contra hleft
      exact hregular ⟨hbelow, hdot, hleft⟩
  · rintro (⟨hdot, hrefers⟩ | ⟨-, heq⟩)
    · obtain ⟨last, rfl, hstem⟩ := (h.refersTo_iff hnames hc).1 hrefers
      have hbelow := (Layout.isBelow_iff h.root_spells (Tree.spells_pathOf hc)).2 ⟨_, _, rfl⟩
      refine (h.names_eq_iff_refersTo hsuffix hdot hnames hc hbelow ?_).2 hrefers
      rw [h.fileName_withExtension hsuffix hnames,
        ofSegment_of_stem_eq (hc last (by simp)) hsuffix hstem]
      simp [Component.name?]
    · exact heq

/-- A path that is mistaken does not name the document. -/
theorem Rooted.not_refersTo_of_mistakes (h : site.Rooted rootNames inside)
    (hsuffix : '/' ∉ site.config.outputSuffix.toList) {d : Path} (hd : d ∈ site.allSources)
    (hc : ∀ n ∈ names, IsName n) (hmistakes : site.mistakes (Tree.pathOf names) d = true) :
    (Tree.pathOf names).refersTo d = false := by
  obtain ⟨folders, name, hsource, rfl, hspells⟩ := h.mem_allSources hd
  have hnames := hsource.isName h.wellFormed_inside
  rw [mistakes_iff, (Layout.urlFor_eq h.root_spells hspells hsuffix).1] at hmistakes
  obtain ⟨hwhy, heq⟩ := hmistakes
  rw [← Bool.not_eq_true]
  intro hrefers
  obtain ⟨last, rfl, hstem⟩ := (h.refersTo_iff hnames hc).1 hrefers
  have hlast : IsName last := hc last (by simp)
  have hleft := ofSegment_of_stem_eq hlast hsuffix hstem
  have hbelow := (Layout.isBelow_iff h.root_spells (Tree.spells_pathOf hc)).2 ⟨_, _, rfl⟩
  by_cases hdot : '.' ∈ site.config.outputSuffix.toList
  · -- the suffix is left in part, so that the name of the reference is the longer one
    rw [Layout.referenceNames_below _ h.root_spells hc, List.append_cancel_left_eq,
      outputNames_of_ofSegment hleft] at heq
    apply notMem_outputNames_append _ hlast.1 hdot
    rw [← heq]
    simp
  · have hnone := hwhy hbelow hdot
    rw [h.fileName_withExtension hsuffix hnames, hleft] at hnone
    cases hnone

/-! ## The links of a corpus -/

/-- A record is of a source file that was met in a declared directory. -/
theorem Rooted.exists_find (h : site.Rooted rootNames inside) {r : Record}
    (hr : r ∈ site.corpus.records) :
    ∃ declared ∈ site.layout.declaredDirs, declared.dir.isAbsolute = true ∧
      ∃ within, site.tree.entry? declared.dir = some (.dir within) ∧ ∃ folders name,
        within.HasSource site.config declared.dir folders name ∧
        r.path = (declared.dir.below folders).child name := by
  obtain ⟨f, hf, rfl⟩ := mem_records.1 hr
  obtain ⟨declared, hdeclared, hdir, p, hp, rfl⟩ := mem_allFinds.1 (mem_allFinds_of_mem_kept hf)
  have habs := h.isAbsolute_declared hdeclared
  obtain ⟨within, hentry⟩ := Tree.entry?_of_isDir hdir
  obtain ⟨folders, name, hsource, rfl⟩ := (Tree.mem_sources_iff hentry).1 hp
  exact ⟨declared, hdeclared, habs, within, hentry, folders, name, hsource,
    by rw [path_record, path_find]⟩

theorem Rooted.isAbsolute_record (h : site.Rooted rootNames inside) {r : Record}
    (hr : r ∈ site.corpus.records) : r.path.isAbsolute = true := by
  obtain ⟨declared, -, habs, -, -, folders, name, -, hpath⟩ := h.exists_find hr
  rw [hpath]
  exact Path.isAbsolute_join_left (Path.isAbsolute_below habs folders)

theorem isAbsolute_baseOf {p : Path} (hroot : site.layout.root.isAbsolute = true)
    (hp : p.isAbsolute = true) : (site.baseOf p).isAbsolute = true := by
  unfold baseOf
  cases hparent : p.parent with
  | none => exact hroot
  | some dir => exact Path.isAbsolute_parent hp hparent

theorem exists_names_candidate {p : Path} (hroot : site.layout.root.isAbsolute = true)
    (hp : p.isAbsolute = true) (reference : String) :
    ∃ names, site.candidate (site.baseOf p) reference = Tree.pathOf names ∧
      ∀ n ∈ names, IsName n := by
  unfold candidate
  split
  · exact Path.exists_normalize (Path.isAbsolute_join_left hroot)
  · exact Path.exists_normalize (Path.isAbsolute_join_left (isAbsolute_baseOf hroot hp))

theorem Rooted.exists_candidate (h : site.Rooted rootNames inside) {r : Record}
    (hr : r ∈ site.corpus.records) (reference : String) :
    ∃ names, site.candidateOf r reference = Tree.pathOf names ∧ ∀ n ∈ names, IsName n :=
  exists_names_candidate h.root_spells.isAbsolute (h.isAbsolute_record hr) reference

theorem Rooted.has_linkReport_iff (h : site.Rooted rootNames inside)
    (hsuffix : '/' ∉ site.config.outputSuffix.toList) {s : Path} {u : String} :
    (site.linkReport site.corpus).links.Has s u ↔
      ∃ r ∈ site.corpus.records, ∃ t ∈ r.references, (site.layout.relative r.path).same s = true ∧
        ∃ d ∈ site.allSources, site.url d = u ∧
          (('.' ∉ site.config.outputSuffix.toList ∧
              (site.candidateOf r t).refersTo d = true) ∨
            site.mistakes (site.candidateOf r t) d = true) := by
  rw [has_linkReport]
  refine exists_congr fun r => and_congr_right fun hr => exists_congr fun t => and_congr_right
    fun _ => and_congr_right fun _ => ?_
  obtain ⟨names, hcandidate, hnames⟩ := h.exists_candidate hr t
  rw [show site.candidate (site.baseOf r.path) t = site.candidateOf r t from rfl, hcandidate]
  constructor
  · rintro ⟨hurl, d, hd, rfl⟩
    exact ⟨d, hd, rfl, (h.url_eq_iff hsuffix hd hnames).1 hurl.symm⟩
  · rintro ⟨d, hd, rfl, hwhy⟩
    exact ⟨((h.url_eq_iff hsuffix hd hnames).2 hwhy).symm, d, hd, rfl⟩

theorem address_mem_linkEvents {corpus : Corpus} {p : Path} (hp : p ∈ site.allSources) :
    .address p ∈ site.linkEvents corpus :=
  (mem_linkEvents rfl).2 ⟨p, List.mem_append_left _ hp, rfl⟩

end Site

namespace Session

variable {session : Session} {tree : Tree}

theorem linkReport_site {last : Session} {known : Path → Prop}
    (h : last.Recalls tree session.layout session.config known) (corpus : Corpus) :
    (last.site tree).linkReport corpus = (session.fresh tree).linkReport corpus := by
  rw [h.site_eq]
  rfl

theorem report_of_resolved {corpus : Corpus} {report : LinkReport}
    (hdiscover : (session.discover tree).ending = .done corpus)
    (hresolve : ((session.discover tree).session.resolve tree corpus).ending = .done report) :
    report = (session.fresh tree).linkReport corpus := by
  rw [← linkReport_site (discover_done hdiscover).2]
  exact ending_settle_done hresolve

/-- A document links to an address exactly if it is that of a document which one of its references
names under a suffix without dots, or for which the path of the reference is mistaken. A mistaken path
does not name the document. -/
theorem links_resolve {docs root : Path} {corpus : Corpus} {report : LinkReport}
    (hroot : Project.resolveRoot tree docs = .ok root)
    (hlayout : session.layout = Layout.ofRoot root session.config)
    (hdiscover : (session.discover tree).ending = .done corpus)
    (hresolve : ((session.discover tree).session.resolve tree corpus).ending = .done report) :
    (∀ s u, report.links.Has s u ↔
      ∃ r ∈ corpus.records, ∃ t ∈ r.references, (session.layout.relative r.path).same s = true ∧
        ∃ d ∈ tree.sources session.config root, (session.fresh tree).url d = u ∧
          (('.' ∉ session.config.outputSuffix.toList ∧
              ((session.fresh tree).candidateOf r t).refersTo d = true) ∨
            (session.fresh tree).mistakes ((session.fresh tree).candidateOf r t) d = true)) ∧
    ∀ r ∈ corpus.records, ∀ t ∈ r.references, ∀ d ∈ tree.sources session.config root,
      (session.fresh tree).mistakes ((session.fresh tree).candidateOf r t) d = true →
        ((session.fresh tree).candidateOf r t).refersTo d = false := by
  have hreport := report_of_resolved hdiscover hresolve
  obtain ⟨rfl, hrecalls⟩ := discover_done hdiscover
  have hsources : (session.fresh tree).allSources = tree.sources session.config root := by
    rw [show (session.fresh tree).allSources = tree.sources session.config session.layout.root
      from rfl, hlayout]
    rfl
  obtain ⟨rootNames, inside, rfl, hentry⟩ := Project.resolveRoot_ok hroot
  have hrooted : (session.fresh tree).Rooted rootNames inside := ⟨hlayout, hentry⟩
  -- where there are documents, their addresses were formed
  have hsuffix : ∀ d ∈ (session.fresh tree).allSources, '/' ∉ session.config.outputSuffix.toList := by
    intro d hd
    rw [← sources_site hrecalls] at hd
    have haddress := canAddress_of_done hresolve (Site.address_mem_linkEvents hd)
    rw [hrecalls.config_eq] at haddress
    simpa [canAddress] using haddress
  rw [hreport, ← hsources]
  constructor
  · intro s u
    by_cases hslash : '/' ∉ session.config.outputSuffix.toList
    · exact hrooted.has_linkReport_iff hslash
    · refine iff_of_false ?_ ?_
      · intro hhas
        obtain ⟨-, -, -, -, -, -, d, hd, -⟩ := Site.has_linkReport.1 hhas
        exact hslash (hsuffix d hd)
      · rintro ⟨-, -, -, -, -, d, hd, -⟩
        exact hslash (hsuffix d hd)
  · intro r hr t _ d hd hmistakes
    obtain ⟨names, hcandidate, hnames⟩ := hrooted.exists_candidate hr t
    rw [hcandidate] at hmistakes ⊢
    exact hrooted.not_refersTo_of_mistakes (hsuffix d hd) hd hnames hmistakes

end Session

/-- A document of the user that refers to another. -/
def linkedDocs : Tree where
  root := (Listing.nil.plantAt ["docs", "user_docs", "a.md"] (.file "[b](b.md)".toUTF8)).plantAt
    ["docs", "user_docs", "b.md"] (.file "# B".toUTF8)
  wellFormed := by decide +kernel

/-- The document links to the one its reference names. -/
theorem links_linkedDocs :
    ∃ corpus report, (Session.usual.discover linkedDocs).ending = .done corpus ∧
      ((Session.usual.discover linkedDocs).session.resolve linkedDocs corpus).ending =
        .done report ∧
      report.links.Has ⟨"user_docs/a.md"⟩ "user_docs/b.html" := by
  have hroot : Project.resolveRoot linkedDocs ⟨"docs"⟩ = .ok ⟨"/docs"⟩ := by rfl
  have hlayout : Session.usual.layout = Layout.ofRoot ⟨"/docs"⟩ Session.usual.config := rfl
  have hdir : linkedDocs.isDir Session.usual.layout.root = true := by decide +kernel
  have hsuffix : '/' ∉ Session.usual.config.outputSuffix.toList := by decide
  obtain ⟨report, _, _, hsurvey, _⟩ := Session.exists_surveyed hdir hsuffix
  refine ⟨_, report, hsurvey.discovered, hsurvey.resolved, ?_⟩
  obtain ⟨r, hr, t, ht, hsource, hrefers⟩ :
      ∃ r ∈ (Session.usual.fresh linkedDocs).corpus.records, ∃ t ∈ r.references.toList,
        (Session.usual.layout.relative r.path).same ⟨"user_docs/a.md"⟩ = true ∧
        ((Session.usual.fresh linkedDocs).candidateOf r t).refersTo ⟨"/docs/user_docs/b.md"⟩ =
          true := by
    decide +kernel
  rw [(Session.links_resolve hroot hlayout hsurvey.discovered hsurvey.resolved).1]
  exact ⟨r, hr, t, ht, hsource, ⟨"/docs/user_docs/b.md"⟩, by decide +kernel, by decide +kernel,
    Or.inl ⟨by decide, hrefers⟩⟩

/-- A document of the user that refers to a place outside the root, called as a document below it. -/
def strayingDocs : Tree where
  root := (Listing.nil.plantAt ["docs", "user_docs", "g", "a.md"]
      (.file "[x](../../../../../../../../../../user_docs/b.md)".toUTF8)).plantAt
    ["docs", "user_docs", "b.md"] (.file "# B".toUTF8)
  wellFormed := by decide +kernel

/-- The document links to the one below the root, though its reference names another place. -/
theorem reference_outside_linked :
    ∃ corpus report, (Session.usual.discover strayingDocs).ending = .done corpus ∧
      ((Session.usual.discover strayingDocs).session.resolve strayingDocs corpus).ending =
        .done report ∧
      report.links.Has ⟨"user_docs/g/a.md"⟩ "user_docs/b.html" ∧
      ∀ r ∈ corpus.records, ∀ t ∈ r.references,
        ((Session.usual.fresh strayingDocs).candidateOf r t).startsWith ⟨"/docs"⟩ = false ∧
        ∀ d ∈ strayingDocs.sources Session.usual.config ⟨"/docs"⟩,
          ((Session.usual.fresh strayingDocs).candidateOf r t).refersTo d = false := by
  have hdir : strayingDocs.isDir Session.usual.layout.root = true := by decide +kernel
  have hsuffix : '/' ∉ Session.usual.config.outputSuffix.toList := by decide
  obtain ⟨report, _, _, hsurvey, _⟩ := Session.exists_surveyed hdir hsuffix
  refine ⟨_, report, hsurvey.discovered, hsurvey.resolved, ?_, ?_⟩
  · rw [Session.report_of_resolved hsurvey.discovered hsurvey.resolved]
    change ∃ l ∈ ((Session.usual.fresh strayingDocs).linkReport
      (Session.usual.fresh strayingDocs).corpus).links,
        l.source.same ⟨"user_docs/g/a.md"⟩ = true ∧ "user_docs/b.html" ∈ l.urls.toList
    decide +kernel
  · change ∀ r ∈ (Session.usual.fresh strayingDocs).corpus.records, ∀ t ∈ r.references.toList, _
    decide +kernel

end DocAtlas
