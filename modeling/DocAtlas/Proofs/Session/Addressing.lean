import DocAtlas.Project
import DocAtlas.Proofs.Session.Survey

/-! # Output suffixes that are no extension

An operation forms addresses, and with a suffix that has a slash it aborts at the first one. What it
ends in is told by the paths whose addresses it forms: it has its value if the suffix is an extension or
there are none.

* `Ending.ofAddressing` — the ending of an operation that forms the addresses of some paths
* `Session.ending_of_addresses` — an operation ends so
* `Session.ending_operations` — which paths these are for each operation
* `Session.generateContents_aborted` — when no table of contents can be made
-/

set_option autoImplicit false

namespace DocAtlas

/-- The ending of an operation that forms the addresses of some paths: it aborts if there are any and
none can be formed. -/
def Ending.ofAddressing {α : Type} (config : Config) (paths : List Path) (value : α) : Ending α :=
  if Session.canAddress config || paths.isEmpty then .done value else .aborted

namespace Ending

variable {α : Type} {config : Config} {paths : List Path} {value : α}

theorem ofAddressing_eq_done {v : α} :
    ofAddressing config paths value = .done v ↔
      (Session.canAddress config = true ∨ paths = []) ∧ value = v := by
  unfold ofAddressing
  cases Session.canAddress config <;> cases paths <;> simp

theorem ofAddressing_of (h : Session.canAddress config = true ∨ paths = []) :
    ofAddressing config paths value = .done value :=
  ofAddressing_eq_done.2 ⟨h, rfl⟩

theorem ofAddressing_cases {ending : Ending α} (h : ending = ofAddressing config paths value) :
    ending = .done value ∨ ending = .aborted := by
  rw [h]
  unfold ofAddressing
  split
  · exact Or.inl rfl
  · exact Or.inr rfl

end Ending

theorem Outcome.andThen_aborted {α β : Type} {first : Outcome α} {next : α → Session → Outcome β} :
    (first.andThen next).ending = .aborted ↔ first.ending = .aborted ∨
      ∃ a, first.ending = .done a ∧ (next a first.session).ending = .aborted := by
  unfold andThen
  cases hfirst : first.ending with
  | done a => simp
  | failed fault => simp
  | aborted => simp

namespace Session

variable {tree : Tree} {α : Type}

/-! ## One operation -/

theorem complete_settleFrom_of_no_address (tree : Tree) (addressing : Bool) (memory : Memory)
    {events : List Event} (h : ∀ p, .address p ∉ events) :
    (settleFrom tree addressing memory events).2.2 = true := by
  induction events generalizing memory with
  | nil => rfl
  | cons event rest ih =>
    have hrest : ∀ p, .address p ∉ rest := fun p hp => h p (List.mem_cons_of_mem event hp)
    cases event with
    | log entry => exact ih memory hrest
    | read p => exact ih _ hrest
    | address p => exact absurd List.mem_cons_self (h p)

theorem ending_of_addresses (session : Session) {events : List Event} {paths : List Path}
    (h : ∀ p, .address p ∈ events ↔ p ∈ paths) (value : α) :
    (session.settle tree events value).ending = .ofAddressing session.config paths value := by
  have hending : (session.settle tree events value).ending =
      if (settleFrom tree (canAddress session.config) session.memory events).2.2 then .done value
      else .aborted := rfl
  rw [hending, Ending.ofAddressing]
  cases hcan : canAddress session.config with
  | true =>
    rw [complete_settleFrom]
    rfl
  | false =>
    cases paths with
    | nil =>
      have hnone : ∀ p, .address p ∉ events := fun p hp => List.not_mem_nil ((h p).1 hp)
      rw [complete_settleFrom_of_no_address tree false session.memory hnone]
      rfl
    | cons p rest =>
      rw [not_complete_of_address tree session.memory ((h p).2 List.mem_cons_self)]
      rfl

/-! ## The operations -/

theorem ending_discover_of_isDir {session : Session}
    (h : tree.isDir session.layout.root = true) :
    (session.discover tree).ending =
      .ofAddressing session.config ((session.fresh tree).kept.map (·.path))
        (session.fresh tree).corpus := by
  rw [discover_of_isDir h]
  refine ending_of_addresses _ (fun p => ?_) _
  rw [Site.mem_corpusEvents rfl]
  simp [eq_comm]

variable (session : Session) (tree : Tree)

theorem ending_resolve (corpus : Corpus) :
    (session.resolve tree corpus).ending =
      .ofAddressing session.config ((session.site tree).allSources ++
          ((session.site tree).checks corpus).map (·.candidate))
        ((session.site tree).linkReport corpus) := by
  refine ending_of_addresses session (fun p => ?_) _
  rw [Site.mem_linkEvents rfl]
  simp

theorem ending_loadToctrees :
    (session.loadToctrees tree).ending =
      .ofAddressing session.config (session.site tree).reached
        (session.site tree).toctreeReport := by
  refine ending_of_addresses session (fun p => ?_) _
  rw [Site.mem_toctreeEvents rfl]
  simp

theorem ending_findOrphans (tracked : TextSet) :
    (session.findOrphans tree tracked).ending =
      .ofAddressing session.config (session.site tree).strays
        ((session.site tree).orphans tracked) := by
  refine ending_of_addresses session (fun p => ?_) _
  rw [Site.mem_orphanEvents rfl]
  simp

theorem ending_place (p : Path) :
    (session.place tree p).ending =
      .ofAddressing session.config [p] ((session.site tree).place p) := by
  refine ending_of_addresses session (fun q => ?_) _
  rw [Site.mem_placeEvents rfl]
  simp

theorem ending_buildContents (corpus : Corpus) (toctrees : ToctreeReport) :
    (session.buildContents tree corpus toctrees).ending =
      .ofAddressing session.config (session.site tree).strays
        ((session.site tree).contents corpus toctrees) := by
  refine ending_of_addresses session (fun p => ?_) _
  rw [Site.mem_contentsEvents rfl]
  simp

/-- Each operation has its value, unless the suffix has a slash and there is a path whose address it
forms: the finds of a discovery, the source files and the candidates of references, the documents that
toctrees reach, the source files outside every declared directory, and a document that is placed. -/
theorem ending_operations :
    ((session.discover tree).ending =
      if tree.isDir session.layout.root then
        .ofAddressing session.config ((session.fresh tree).kept.map (·.path))
          (session.fresh tree).corpus
      else .failed (.docsDirNotFound session.layout.root)) ∧
    (∀ corpus, (session.resolve tree corpus).ending =
      .ofAddressing session.config ((session.site tree).allSources ++
          ((session.site tree).checks corpus).map (·.candidate))
        ((session.site tree).linkReport corpus)) ∧
    (session.loadToctrees tree).ending =
      .ofAddressing session.config (session.site tree).reached (session.site tree).toctreeReport ∧
    (∀ tracked, (session.findOrphans tree tracked).ending =
      .ofAddressing session.config (session.site tree).strays
        ((session.site tree).orphans tracked)) ∧
    (∀ p, (session.place tree p).ending =
      .ofAddressing session.config [p] ((session.site tree).place p)) ∧
    ∀ corpus toctrees, (session.buildContents tree corpus toctrees).ending =
      .ofAddressing session.config (session.site tree).strays
        ((session.site tree).contents corpus toctrees) := by
  refine ⟨?_, session.ending_resolve tree, session.ending_loadToctrees tree,
    session.ending_findOrphans tree, session.ending_place tree, session.ending_buildContents tree⟩
  cases hdir : tree.isDir session.layout.root with
  | true => exact ending_discover_of_isDir hdir
  | false =>
    rw [discover_of_not_isDir hdir]
    rfl

/-! ## A table of contents -/

variable {session tree} {corpus : Corpus} {links : LinkReport} {toctrees : ToctreeReport}
  {last : Session}

theorem isDir_of_discovered (h : (session.discover tree).ending = .done corpus) :
    tree.isDir session.layout.root = true := by
  by_contra hdir
  rw [discover_of_not_isDir (by simpa using hdir)] at h
  cases h

theorem Recalls.addresses
    (h : last.Recalls tree session.layout session.config (session.fresh tree).Known) :
    Session.canAddress last.config = Session.canAddress session.config ∧
      (last.site tree).allSources = (session.fresh tree).allSources ∧
      (last.site tree).master? = (session.fresh tree).master? := by
  refine ⟨by rw [h.config_eq], sources_site h, ?_⟩
  rw [h.site_eq]
  rfl

theorem checks_eq_nil {site other : Site} (h : site.kept = []) : other.checks site.corpus = [] := by
  have hfound : site.corpus.found = [] := by rw [Site.found_corpus, h, List.map_nil]
  have hrecords : site.corpus.records = [] := (hfound ▸ site.corpus.records_perm).eq_nil
  rw [Site.checks, hrecords]
  rfl

theorem reached_eq_nil {site : Site} (h : site.allSources = []) :
    site.reached = [] ↔ site.master? = none := by
  rw [Site.reached, h, List.flatMap_nil, List.filterMap_nil, List.append_nil]
  exact Option.toList_eq_nil_iff

/-- A survey of a root that is there is made exactly if the suffix has no slash or there is nothing to
address: no find, no source file below the root and no root document. -/
theorem exists_surveyed_iff (hdir : tree.isDir session.layout.root = true) :
    (∃ links toctrees last,
        session.Surveyed tree (session.fresh tree).corpus links toctrees last) ↔
      canAddress session.config = true ∨ ((session.fresh tree).kept = [] ∧
        (session.fresh tree).allSources = [] ∧ (session.fresh tree).master? = none) := by
  have hfirst := recalls_discover hdir
  have hsecond := hfirst.resolve (session.fresh tree).corpus
  obtain ⟨hcan, hsources, -⟩ := hfirst.addresses
  obtain ⟨hcan', hsources', hmaster⟩ := hsecond.addresses
  constructor
  · rintro ⟨links, toctrees, last, h⟩
    have hkept := h.discovered
    have hresolved := h.resolved
    have hloaded := h.loaded
    rw [ending_discover_of_isDir hdir, Ending.ofAddressing_eq_done] at hkept
    rw [ending_resolve, Ending.ofAddressing_eq_done, hcan, hsources] at hresolved
    rw [ending_loadToctrees, Ending.ofAddressing_eq_done, hcan'] at hloaded
    by_cases haddress : canAddress session.config = true
    · exact Or.inl haddress
    · have hnone := (List.append_eq_nil_iff.1 (hresolved.1.resolve_left haddress)).1
      rw [reached_eq_nil (hsources'.trans hnone), hmaster] at hloaded
      exact Or.inr ⟨List.map_eq_nil_iff.1 (hkept.1.resolve_left haddress), hnone,
        hloaded.1.resolve_left haddress⟩
  · intro h
    have hdiscovered := ending_discover_of_isDir hdir
    have hresolved := (session.discover tree).session.ending_resolve tree (session.fresh tree).corpus
    have hloaded := ((session.discover tree).session.resolve tree
      (session.fresh tree).corpus).session.ending_loadToctrees tree
    refine ⟨_, _, _, hdiscovered.trans (Ending.ofAddressing_of ?_),
      hresolved.trans (Ending.ofAddressing_of ?_), hloaded.trans (Ending.ofAddressing_of ?_), rfl⟩
    · exact h.imp_right fun hnone => by rw [hnone.1, List.map_nil]
    · rw [hcan, hsources]
      refine h.imp_right fun hnone => ?_
      rw [hnone.2.1, checks_eq_nil hnone.1]
      rfl
    · rw [hcan']
      refine h.imp_right fun hnone => (reached_eq_nil (hsources'.trans hnone.2.1)).2 ?_
      exact hmaster.trans hnone.2.2

theorem strays_eq_nil {site : Site} (h : site.allSources = []) : site.strays = [] := by
  rw [Site.strays, h]
  rfl

theorem Surveyed.isDir (h : session.Surveyed tree corpus links toctrees last) :
    tree.isDir session.layout.root = true :=
  isDir_of_discovered h.discovered

theorem Surveyed.recalls (h : session.Surveyed tree corpus links toctrees last) :
    last.Recalls tree session.layout session.config (session.fresh tree).Known := by
  obtain ⟨rfl, hfirst⟩ := discover_done h.discovered
  rw [h.last_eq]
  exact (hfirst.resolve _).loadToctrees fun p hp => Or.inr hp

theorem Surveyed.ending_buildContents
    (h : session.Surveyed tree corpus links toctrees last) (considered : ToctreeReport) :
    (last.buildContents tree corpus considered).ending =
      .done ((last.site tree).contents corpus considered) := by
  obtain ⟨rfl, -⟩ := discover_done h.discovered
  obtain ⟨hcan, hsources, -⟩ := h.recalls.addresses
  refine (last.ending_buildContents tree _ considered).trans (Ending.ofAddressing_of ?_)
  rw [hcan]
  refine ((exists_surveyed_iff h.isDir).1 ⟨links, toctrees, last, h⟩).imp_right fun hnone => ?_
  rw [strays_eq_nil (hsources.trans hnone.2.1)]

theorem Surveyed.generateContents
    (h : session.Surveyed tree corpus links toctrees last) (respectToctrees : Bool) :
    (session.generateContents tree respectToctrees).ending =
      let report := (last.site tree).contents corpus
        (if respectToctrees then toctrees else toctrees.issuesOnly)
      .done { report with issues := report.issues ++ links.issues } := by
  have hending := h.ending_andThen fun corpus links toctrees session =>
    (session.buildContents tree corpus
      (if respectToctrees then toctrees else toctrees.issuesOnly)).andThen fun report session =>
    ⟨.done { report with issues := report.issues ++ links.issues }, [], session⟩
  rw [show (session.generateContents tree respectToctrees).ending = _ from hending,
    (Outcome.andThen_of_done _ (h.ending_buildContents _)).1]

theorem Surveyed.session_generateContents
    (h : session.Surveyed tree corpus links toctrees last) (respectToctrees : Bool) :
    (session.generateContents tree respectToctrees).session =
      (last.buildContents tree corpus
        (if respectToctrees then toctrees else toctrees.issuesOnly)).session := by
  have hsession := h.session_andThen fun corpus links toctrees session =>
    (session.buildContents tree corpus
      (if respectToctrees then toctrees else toctrees.issuesOnly)).andThen fun report session =>
    ⟨.done { report with issues := report.issues ++ links.issues }, [], session⟩
  rw [show (session.generateContents tree respectToctrees).session = _ from hsession,
    (Outcome.andThen_of_done _ (h.ending_buildContents _)).2]

theorem generateContents_aborted_iff_survey (hdir : tree.isDir session.layout.root = true)
    (respectToctrees : Bool) :
    (session.generateContents tree respectToctrees).ending = .aborted ↔
      ¬ ∃ links toctrees last,
        session.Surveyed tree (session.fresh tree).corpus links toctrees last := by
  constructor
  · rintro haborted ⟨links, toctrees, last, h⟩
    rw [h.generateContents] at haborted
    cases haborted
  · intro hnone
    have hdiscovered := ending_discover_of_isDir hdir
    have hresolved := (session.discover tree).session.ending_resolve tree (session.fresh tree).corpus
    have hloaded := ((session.discover tree).session.resolve tree
      (session.fresh tree).corpus).session.ending_loadToctrees tree
    unfold generateContents
    rw [Outcome.andThen_aborted]
    rcases Ending.ofAddressing_cases hdiscovered with hdone | haborted
    · refine Or.inr ⟨_, hdone, Outcome.andThen_aborted.2 ?_⟩
      rcases Ending.ofAddressing_cases hresolved with hdone' | haborted
      · refine Or.inr ⟨_, hdone', Outcome.andThen_aborted.2 (Or.inl ?_)⟩
        rcases Ending.ofAddressing_cases hloaded with hdone'' | haborted
        · exact absurd ⟨_, _, _, hdone, hdone', hdone'', rfl⟩ hnone
        · exact haborted
      · exact Or.inl haborted
    · exact Or.inl haborted

/-- A table of contents cannot be made exactly if the suffix has a slash and there is something to
address: a find, a source file below the root or the root document. -/
theorem generateContents_aborted (respectToctrees : Bool) :
    (session.generateContents tree respectToctrees).ending = .aborted ↔
      tree.isDir session.layout.root = true ∧ canAddress session.config = false ∧
        ¬ ((session.fresh tree).kept = [] ∧ (session.fresh tree).allSources = [] ∧
          (session.fresh tree).master? = none) := by
  cases hdir : tree.isDir session.layout.root with
  | true =>
    rw [generateContents_aborted_iff_survey hdir, exists_surveyed_iff hdir, not_or,
      Bool.not_eq_true]
    simp
  | false =>
    have hfailed : (session.generateContents tree respectToctrees).ending =
        .failed (.docsDirNotFound session.layout.root) :=
      Outcome.andThen_of_failed _ (by rw [discover_of_not_isDir hdir])
    simp [hfailed]

end Session

/-- A configuration with a slash in the output suffix, and a root document. -/
def slashedDocs : Tree where
  root := (Listing.nil.plantAt ["docs", ".docforge.toml"]
      (.file "output_suffix = \"a/b\"\n".toUTF8)).plantAt
    ["docs", "index.md"] (.file "# A".toUTF8)
  wellFormed := by decide +kernel

/-- A session of that documentation. -/
def slashedSession : Session :=
  ⟨Layout.ofRoot ⟨"/docs"⟩ { outputSuffix := "a/b" }, { outputSuffix := "a/b" }, []⟩

/-- The configuration is accepted, but once a corpus is discovered its references cannot be resolved:
the root document has no address. -/
theorem slashed_suffix_aborts :
    Config.parse? "output_suffix = \"a/b\"\n" = some slashedSession.config ∧
      (Project.openDocs slashedDocs (some ⟨"docs"⟩)).result =
        .ok (slashedSession.layout, slashedSession.config) ∧
      ∃ corpus, (slashedSession.discover slashedDocs).ending = .done corpus ∧
        ((slashedSession.discover slashedDocs).session.resolve slashedDocs corpus).ending =
          .aborted := by
  refine ⟨by decide +kernel, by decide +kernel, (slashedSession.fresh slashedDocs).corpus, ?_, ?_⟩
  · rw [Session.ending_discover_of_isDir (by decide +kernel), Ending.ofAddressing,
      if_pos (by decide +kernel)]
  · rw [Session.ending_resolve, Ending.ofAddressing, if_neg (by decide +kernel)]

end DocAtlas
