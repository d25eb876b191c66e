import DocAtlas.Proofs.Session.Survey
import DocAtlas.Proofs.Tree.Sources

/-! # A documentation in two trees

A documentation asks of its tree which of its directories are there, what a walk through them meets,
what its documents say and where its references and toctree entries lead. Two trees that answer alike
are told apart by nothing it says, neither by a value nor by an event on the way.

* `Site.within` — the documentation in another tree
* `Site.Alike` — the other tree answers alike what a survey asks
* `Site.Alike.corpus_eq`, `Site.Alike.linkReport_eq`, `Site.Alike.toctreeReport_eq`,
  `Site.Alike.orphans_eq`, `Site.Alike.place_eq` — what is said in the other tree
-/

set_option autoImplicit false

namespace DocAtlas.Site

/-- The documentation in another tree, with other contents. -/
def within (site : Site) (other : Tree) (content : Path → Option String) : Site :=
  { site with tree := other, content := content }

/-- The directories that are walked through. -/
def walked (site : Site) : List Path :=
  site.layout.root :: (site.layout.declaredDirs.map (·.dir)).filter site.tree.isDir

/-- The other tree has the same declared directories and the same root, a walk through each meets the
same, and the documents say the same. -/
structure Alike (site : Site) (other : Tree) (content : Path → Option String) : Prop where
  isDir_eq : ∀ declared ∈ site.layout.declaredDirs,
    other.isDir declared.dir = site.tree.isDir declared.dir
  steps_eq : ∀ dir ∈ site.walked, other.steps site.config dir = site.tree.steps site.config dir
  walkEvents_eq : other.walkEvents site.layout.root = site.tree.walkEvents site.layout.root
  content_eq : ∀ p, site.Known p → content p = site.content p

section

variable (site : Site) (other : Tree) (content : Path → Option String)

@[simp] theorem tree_within : (site.within other content).tree = other := rfl

@[simp] theorem layout_within : (site.within other content).layout = site.layout := rfl

@[simp] theorem config_within : (site.within other content).config = site.config := rfl

@[simp] theorem content_within : (site.within other content).content = content := rfl

theorem candidate_within (dir : Path) (reference : String) :
    (site.within other content).candidate dir reference = site.candidate dir reference := rfl

theorem baseOf_within (p : Path) : (site.within other content).baseOf p = site.baseOf p := rfl

end

namespace Alike

variable {site : Site} {other : Tree} {content : Path → Option String}

/-! ## Walks -/

theorem steps_root (h : site.Alike other content) :
    other.steps site.config site.layout.root = site.tree.steps site.config site.layout.root :=
  h.steps_eq site.layout.root List.mem_cons_self

theorem allSources_eq (h : site.Alike other content) :
    (site.within other content).allSources = site.allSources := by
  unfold allSources sources Tree.sources
  rw [tree_within, config_within, layout_within, h.steps_root]

/-- What happens on the walk is the same if it is at each of the source files. -/
theorem walkEvents_congr (h : site.Alike other content) {met others : Path → List Event}
    (hmet : ∀ p ∈ site.allSources, others p = met p) :
    (site.within other content).walkEvents others = site.walkEvents met := by
  unfold walkEvents
  rw [tree_within, config_within, layout_within, h.steps_root, h.walkEvents_eq]
  congr 1
  refine List.flatMap_congr fun step hstep => ?_
  cases step with
  | source p => exact hmet p (WalkStep.mem_filterMap_source?.2 hstep)
  | unopened p => rfl

/-! ## The corpus -/

theorem steps_declared (h : site.Alike other content) {declared : DeclaredDir}
    (hd : declared ∈ site.layout.declaredDirs) (hdir : site.tree.isDir declared.dir = true) :
    other.steps site.config declared.dir = site.tree.steps site.config declared.dir :=
  h.steps_eq declared.dir (List.mem_cons_of_mem _
    (List.mem_filter.2 ⟨List.mem_map.2 ⟨declared, hd, rfl⟩, hdir⟩))

theorem finds_eq (h : site.Alike other content) {declared : DeclaredDir}
    (hd : declared ∈ site.layout.declaredDirs) :
    (site.within other content).finds declared = site.finds declared := by
  unfold finds sources Tree.sources
  rw [tree_within, config_within, h.isDir_eq declared hd]
  by_cases hdir : site.tree.isDir declared.dir = true
  · rw [if_pos hdir, if_pos hdir, h.steps_declared hd hdir]
  · rw [if_neg hdir, if_neg hdir]

theorem harvest_eq (h : site.Alike other content) :
    (site.within other content).harvest = site.harvest := by
  have hfrom : ∀ dirs ⊆ site.layout.declaredDirs, ∀ seen,
      (site.within other content).harvestFrom seen dirs = site.harvestFrom seen dirs := by
    intro dirs
    induction dirs with
    | nil => exact fun _ _ => rfl
    | cons declared rest ih =>
      intro hsub seen
      obtain ⟨hd, hrest⟩ := List.cons_subset.1 hsub
      rw [harvestFrom, harvestFrom, h.finds_eq hd, ih hrest]
  exact hfrom site.layout.declaredDirs (List.Subset.refl _) []

theorem record_eq (h : site.Alike other content) {f : Find} (hf : f ∈ site.kept) :
    (site.within other content).record f = site.record f := by
  have hcontent := h.content_eq f.path (Or.inl ⟨f, hf, rfl⟩)
  rw [record, record, content_within, hcontent]
  rfl

theorem corpus_eq (h : site.Alike other content) :
    (site.within other content).corpus = site.corpus := by
  have hrecords : site.kept.map (site.within other content).record = site.kept.map site.record :=
    List.map_congr_left fun f hf => h.record_eq hf
  rw [corpus, corpus, h.harvest_eq]
  exact congrArg Corpus.mk hrecords

theorem fst_mem_of_mem_harvest {entry : DeclaredDir × List Find} (h : entry ∈ site.harvest) :
    entry.1 ∈ site.layout.declaredDirs := by
  have hfrom : ∀ dirs seen, (site.harvestFrom seen dirs).map (·.1) = dirs := by
    intro dirs
    induction dirs with
    | nil => exact fun _ => rfl
    | cons declared rest ih =>
      intro seen
      rw [harvestFrom, List.map_cons, ih]
  rw [← hfrom site.layout.declaredDirs []]
  exact List.mem_map.2 ⟨entry, h, rfl⟩

theorem corpusEvents_eq (h : site.Alike other content) :
    (site.within other content).corpusEvents = site.corpusEvents := by
  rw [corpusEvents, corpusEvents, h.harvest_eq, h.corpus_eq]
  congr 1
  refine List.flatMap_congr fun entry hentry => ?_
  obtain ⟨declared, finds⟩ := entry
  have hd : declared ∈ site.layout.declaredDirs := fst_mem_of_mem_harvest hentry
  have hmissing : (site.within other content).missingEvents declared = site.missingEvents declared := by
    rw [missingEvents, missingEvents, tree_within, h.isDir_eq declared hd]
  have hharvest : (site.within other content).harvestEvents declared finds =
      site.harvestEvents declared finds := by
    rw [harvestEvents, harvestEvents, tree_within, config_within, h.isDir_eq declared hd]
    by_cases hdir : site.tree.isDir declared.dir = true
    · rw [if_pos hdir, if_pos hdir, h.steps_declared hd hdir]
    · rw [if_neg hdir, if_neg hdir]
  exact congrArg₂ _ hmissing hharvest

/-! ## References -/

/-- The verdicts on references are the same if those that are no documents lead to files in both trees
or in neither. -/
theorem checks_eq (h : site.Alike other content) {corpus : Corpus}
    (hfiles : ∀ check ∈ site.checks corpus, (∀ url, check.verdict ≠ .link url) →
      (site.within other content).existsWithAnyExtension check.candidate =
        site.existsWithAnyExtension check.candidate) :
    (site.within other content).checks corpus = site.checks corpus := by
  have hdocuments : (site.within other content).documentUrls = site.documentUrls := by
    rw [documentUrls, documentUrls, h.allSources_eq]
    rfl
  unfold checks at hfiles ⊢
  rw [hdocuments]
  refine List.flatMap_congr fun r hr => List.map_congr_left fun t ht => ?_
  have hfile := hfiles (site.check site.documentUrls r t)
    (List.mem_flatMap.2 ⟨r, hr, List.mem_map.2 ⟨t, ht, rfl⟩⟩)
  unfold check at hfile ⊢
  rw [candidate_within, baseOf_within, layout_within, config_within]
  by_cases hdocument : site.documentUrls.contains (site.layout.referenceUrl
      (site.candidate (site.baseOf r.path) t) site.config.outputSuffix) = true
  · simp only [if_pos hdocument]
  · simp only [if_neg hdocument] at hfile ⊢
    rw [hfile]
    intro url
    split <;> nofun

theorem linkReport_eq {corpus : Corpus}
    (hchecks : (site.within other content).checks corpus = site.checks corpus) :
    (site.within other content).linkReport corpus = site.linkReport corpus := by
  rw [linkReport, linkReport, hchecks]

theorem linkEvents_eq (h : site.Alike other content) {corpus : Corpus}
    (hchecks : (site.within other content).checks corpus = site.checks corpus) :
    (site.within other content).linkEvents corpus = site.linkEvents corpus := by
  rw [linkEvents, linkEvents, hchecks, linkReport_eq hchecks, h.walkEvents_congr fun _ _ => rfl]

/-! ## Toctrees -/

theorem entryChecks_eq (h : site.Alike other content) {p : Path} (hp : p ∈ site.allSources)
    (htargets : ∀ text, site.content p = some text → ∀ t ∈ Toctree.entries (Markup.ofPath p) text,
      (site.within other content).existingSource? (site.candidate (site.baseOf p) t) =
        site.existingSource? (site.candidate (site.baseOf p) t)) :
    (site.within other content).entryChecks p = site.entryChecks p := by
  unfold entryChecks
  rw [content_within, h.content_eq p (Or.inr hp)]
  cases htext : site.content p with
  | none => rfl
  | some text =>
    refine List.map_congr_left fun t ht => ?_
    rw [candidate_within, baseOf_within, layout_within, htargets text htext t ht]

section

variable (hentries : ∀ p ∈ site.allSources,
    (site.within other content).entryChecks p = site.entryChecks p)
  (hmaster : (site.within other content).master? = site.master?)

include hentries hmaster

theorem toctreeReport_eq (h : site.Alike other content) :
    (site.within other content).toctreeReport = site.toctreeReport := by
  rw [toctreeReport, toctreeReport, h.allSources_eq, List.flatMap_congr hentries, hmaster]
  rfl

theorem toctreeEvents_eq (h : site.Alike other content) :
    (site.within other content).toctreeEvents = site.toctreeEvents := by
  rw [toctreeEvents, toctreeEvents, h.toctreeReport_eq hentries hmaster, h.allSources_eq,
    List.flatMap_congr hentries, hmaster, h.walkEvents_congr]
  intro p hp
  rw [hentries p hp]

end

/-! ## Orphans -/

theorem orphans_eq (h : site.Alike other content) (tracked : TextSet) :
    (site.within other content).orphans tracked = site.orphans tracked := by
  rw [orphans, orphans, strays, strays, h.allSources_eq]
  rfl

theorem orphanEvents_eq (h : site.Alike other content) (tracked : TextSet) :
    (site.within other content).orphanEvents tracked = site.orphanEvents tracked := by
  rw [orphanEvents, orphanEvents, h.orphans_eq, h.walkEvents_congr fun _ _ => rfl]
  rfl

theorem place_eq (h : site.Alike other content) {p : Path} (hp : p ∈ site.allSources) :
    (site.within other content).place p = site.place p := by
  rw [place, place, orphanSection, orphanSection, content_within, h.content_eq p (Or.inr hp)]
  rfl

theorem placeEvents_eq (h : site.Alike other content) {p : Path} (hp : p ∈ site.allSources) :
    (site.within other content).placeEvents p = site.placeEvents p := by
  rw [placeEvents, placeEvents, orphanSection, orphanSection, content_within,
    h.content_eq p (Or.inr hp)]
  rfl

end Alike

end DocAtlas.Site
