import DocAtlas.Proofs.Session.Memory
import DocAtlas.Proofs.Site.Events

/-! # Surveys

Every report starts with a survey: the corpus is discovered, its references are resolved and the
toctrees are read. A survey reads finds and source files below the root only.

* `Session.fresh` — the documentation as a session finds it that remembers nothing
* `Site.Known` — the documents a survey may read
* `Session.Surveyed` — what the steps of a survey end in
* `Session.exists_surveyed` — there is always a survey of a root that is there
* `Session.Surveyed.ending_andThen` — what is left once the survey is done
-/

set_option autoImplicit false

namespace DocAtlas

/-! ## Documents that are read -/

/-- The documents a survey may read: the finds and the source files below the root. -/
def Site.Known (site : Site) (p : Path) : Prop :=
  (∃ f ∈ site.kept, f.path = p) ∨ p ∈ site.allSources

namespace Site

variable {site : Site} {q : Path}

theorem read_mem_corpusEvents (h : .read q ∈ site.corpusEvents) : ∃ f ∈ site.kept, f.path = q := by
  obtain ⟨f, hf, hread | hread⟩ := (mem_corpusEvents rfl).1 h
  · cases hread
  · cases hread
    exact ⟨f, hf, rfl⟩

theorem not_read_mem_linkEvents (corpus : Corpus) : .read q ∉ site.linkEvents corpus := by
  intro h
  obtain ⟨p, -, hread⟩ := (mem_linkEvents rfl).1 h
  cases hread

theorem read_mem_toctreeEvents (h : .read q ∈ site.toctreeEvents) : q ∈ site.allSources := by
  rcases (mem_toctreeEvents rfl).1 h with ⟨p, -, hread⟩ | ⟨p, hp, hread⟩
  · cases hread
  · cases hread
    exact hp

theorem not_read_mem_orphanEvents (tracked : TextSet) : .read q ∉ site.orphanEvents tracked := by
  intro h
  obtain ⟨p, -, hread⟩ := (mem_orphanEvents rfl).1 h
  cases hread

theorem read_mem_contentsEvents {corpus : Corpus} {toctrees : ToctreeReport}
    (h : .read q ∈ site.contentsEvents corpus toctrees) : q ∈ site.allSources := by
  rw [mem_contentsEvents rfl] at h
  rcases h with ⟨p, -, hp⟩ | ⟨p, hp, hread⟩
  · cases hp
  · cases hread
    exact (List.mem_filter.1 (orphans_subset_strays site _ hp)).1

theorem read_mem_placeEvents {p : Path} (h : .read q ∈ site.placeEvents p) : q = p := by
  rcases (mem_placeEvents rfl).1 h with hread | hread
  · cases hread
  · cases hread
    rfl

end Site

namespace Session

/-- The documentation in a tree as a session finds it that remembers nothing. -/
def fresh (session : Session) (tree : Tree) : Site :=
  Site.ofTree tree session.layout session.config

/-- A session that remembers nothing of the documentation at `/docs`, under the usual configuration. -/
def usual : Session := ⟨Layout.ofRoot ⟨"/docs"⟩ {}, {}, []⟩

/-- A session looks at the documentation in the tree, and only contents can be remembered. -/
theorem Recalls.site_eq {session : Session} {tree : Tree} {layout : Layout} {config : Config}
    {known : Path → Prop} (h : session.Recalls tree layout config known) :
    session.site tree =
      { Site.ofTree tree layout config with content := session.content tree } := by
  rw [site, Site.ofTree, h.layout_eq, h.config_eq]

theorem sources_site {session last : Session} {tree : Tree} {known : Path → Prop}
    (h : last.Recalls tree session.layout session.config known) :
    (last.site tree).allSources = (session.fresh tree).allSources := by
  rw [h.site_eq]
  rfl

/-! ## The steps of a survey -/

/-- The steps of a survey end in a corpus, its links and the report on toctrees. -/
structure Surveyed (session : Session) (tree : Tree) (corpus : Corpus) (links : LinkReport)
    (toctrees : ToctreeReport) (last : Session) : Prop where
  discovered : (session.discover tree).ending = .done corpus
  resolved : ((session.discover tree).session.resolve tree corpus).ending = .done links
  loaded : (((session.discover tree).session.resolve tree corpus).session.loadToctrees tree).ending =
    .done toctrees
  last_eq : last =
    (((session.discover tree).session.resolve tree corpus).session.loadToctrees tree).session

variable {session : Session} {tree : Tree}

theorem discover_of_isDir (h : tree.isDir session.layout.root = true) :
    session.discover tree =
      session.renewed.settle tree (session.fresh tree).corpusEvents (session.fresh tree).corpus := by
  unfold discover
  rw [if_pos h]
  rfl

theorem discover_of_not_isDir (h : tree.isDir session.layout.root = false) :
    session.discover tree = ⟨.failed (.docsDirNotFound session.layout.root), [], session⟩ := by
  unfold discover
  rw [if_neg (by simp [h])]

theorem recalls_finds (h : tree.isDir session.layout.root = true) :
    (session.discover tree).session.Recalls tree session.layout session.config
      fun p => ∃ f ∈ (session.fresh tree).kept, f.path = p := by
  rw [discover_of_isDir h]
  exact (recalls_fresh tree session.layout session.config _).settle
    (fun p hp => Site.read_mem_corpusEvents hp) _

theorem recalls_discover (h : tree.isDir session.layout.root = true) :
    (session.discover tree).session.Recalls tree session.layout session.config
      (session.fresh tree).Known :=
  (recalls_finds h).mono fun _ hp => Or.inl hp

theorem discover_done {corpus : Corpus} (h : (session.discover tree).ending = .done corpus) :
    corpus = (session.fresh tree).corpus ∧
      (session.discover tree).session.Recalls tree session.layout session.config
        (session.fresh tree).Known := by
  cases hdir : tree.isDir session.layout.root with
  | true =>
    refine ⟨?_, recalls_discover hdir⟩
    rw [discover_of_isDir hdir] at h
    exact ending_settle_done h
  | false =>
    rw [discover_of_not_isDir hdir] at h
    cases h

theorem ending_discover (hdir : tree.isDir session.layout.root = true)
    (hsuffix : '/' ∉ session.config.outputSuffix.toList) :
    (session.discover tree).ending = .done (session.fresh tree).corpus := by
  rw [discover_of_isDir hdir]
  have hfresh := recalls_fresh tree session.layout session.config (session.fresh tree).Known
  exact ending_settle (hfresh.canAddress hsuffix) _ _

theorem Recalls.resolve {layout : Layout} {config : Config} {known : Path → Prop}
    (h : session.Recalls tree layout config known) (corpus : Corpus) :
    (session.resolve tree corpus).session.Recalls tree layout config known :=
  h.settle (fun _ hp => absurd hp (Site.not_read_mem_linkEvents corpus)) _

theorem Recalls.loadToctrees {layout : Layout} {config : Config} {known : Path → Prop}
    (h : session.Recalls tree layout config known)
    (hknown : ∀ p ∈ (Site.ofTree tree layout config).allSources, known p) :
    (session.loadToctrees tree).session.Recalls tree layout config known := by
  refine h.settle (fun p hp => hknown p ?_) _
  have hmem := Site.read_mem_toctreeEvents hp
  rw [h.site_eq] at hmem
  exact hmem

theorem exists_surveyed (hdir : tree.isDir session.layout.root = true)
    (hsuffix : '/' ∉ session.config.outputSuffix.toList) :
    ∃ links toctrees last, session.Surveyed tree (session.fresh tree).corpus links toctrees last ∧
      last.Recalls tree session.layout session.config (session.fresh tree).Known := by
  have hfirst := recalls_discover hdir
  have hsecond := hfirst.resolve (session.fresh tree).corpus
  have hthird := hsecond.loadToctrees fun p hp => Or.inr hp
  exact ⟨_, _, _, ⟨ending_discover hdir hsuffix, ending_settle (hfirst.canAddress hsuffix) _ _,
    ending_settle (hsecond.canAddress hsuffix) _ _, rfl⟩, hthird⟩

/-! ## What is read twice -/

/-- A document that has the path of a find is remembered as it was found there. -/
theorem content_of_kept (hdir : tree.isDir session.layout.root = true)
    (hsuffix : '/' ∉ session.config.outputSuffix.toList) {f : Find}
    (hf : f ∈ (session.fresh tree).kept) {p : Path} (hsame : p.same f.path = true) :
    (session.discover tree).session.content tree p = tree.source? f.path := by
  have haddress : canAddress session.renewed.config = true := by
    simpa [canAddress, renewed] using hsuffix
  have hread : .read f.path ∈ (session.fresh tree).corpusEvents :=
    (Site.mem_corpusEvents rfl).2 ⟨f, hf, Or.inr rfl⟩
  refine (recalls_finds hdir).content_of_mem ?_ ?_
  · obtain ⟨entry, hentry, hpath⟩ := exists_settleFrom tree [] hread
    refine ⟨entry, ?_, Path.same_trans hsame hpath⟩
    rw [discover_of_isDir hdir, settle, haddress]
    exact hentry
  · rintro q ⟨g, hg, rfl⟩ hq
    have hfg : g.path.same f.path = true := Path.same_trans ((Path.same_comm _ _).trans hq) hsame
    have hpaths : ((session.fresh tree).kept.map (·.path)).Pairwise
        (fun p q => p.same q = false) :=
      List.pairwise_map.2 (Site.pairwise_kept _)
    rw [Path.eq_of_same hpaths (List.mem_map_of_mem hg) (List.mem_map_of_mem hf) hfg]

/-- Any other document is read where it is. -/
theorem content_of_not_kept (hdir : tree.isDir session.layout.root = true) {p : Path}
    (hnone : ∀ f ∈ (session.fresh tree).kept, p.same f.path = false) :
    (session.discover tree).session.content tree p = tree.source? p := by
  refine (recalls_finds hdir).content_of_reads ?_
  rintro q ⟨f, hf, rfl⟩ hsame
  rw [hnone f hf] at hsame
  cases hsame

theorem content_resolve (session : Session) (tree : Tree) (corpus : Corpus) (p : Path) :
    (session.resolve tree corpus).session.content tree p = session.content tree p :=
  content_settle session (fun _ hq => absurd hq (Site.not_read_mem_linkEvents corpus)) _

variable {corpus : Corpus} {links : LinkReport} {toctrees : ToctreeReport} {last : Session}

theorem Surveyed.ending_andThen {β : Type} (h : session.Surveyed tree corpus links toctrees last)
    (next : Corpus → LinkReport → ToctreeReport → Session → Outcome β) :
    ((session.discover tree).andThen fun corpus session =>
      (session.resolve tree corpus).andThen fun links session =>
      (session.loadToctrees tree).andThen fun toctrees session =>
      next corpus links toctrees session).ending = (next corpus links toctrees last).ending := by
  rw [(Outcome.andThen_of_done _ h.discovered).1, (Outcome.andThen_of_done _ h.resolved).1,
    (Outcome.andThen_of_done _ h.loaded).1, h.last_eq]

theorem Surveyed.session_andThen {β : Type} (h : session.Surveyed tree corpus links toctrees last)
    (next : Corpus → LinkReport → ToctreeReport → Session → Outcome β) :
    ((session.discover tree).andThen fun corpus session =>
      (session.resolve tree corpus).andThen fun links session =>
      (session.loadToctrees tree).andThen fun toctrees session =>
      next corpus links toctrees session).session = (next corpus links toctrees last).session := by
  rw [(Outcome.andThen_of_done _ h.discovered).2, (Outcome.andThen_of_done _ h.resolved).2,
    (Outcome.andThen_of_done _ h.loaded).2, h.last_eq]

end Session

end DocAtlas
