import DocAtlas.Proofs.Contents.Table
import DocAtlas.Proofs.Corpus.Priority
import DocAtlas.Proofs.Session.Addressing

/-! # Where orphans stand in a section

Every orphan has one priority, and the sort is stable with the orphans pushed last. So the orphans of
a section come last exactly if no other document of the section ranks above that priority. Each
folder on the way to a document costs two, so that a document far down can rank above it.

* `Find.rank` — the place of a find before it is cut off at 0 and 100
* `Section.OrphansLast` — no orphan stands before anything else
* `orphansLast_sortItems_iff` — when sorting brings the orphans last
* `Session.orphansLast_iff` — when the sections of a report have them last
-/

set_option autoImplicit false

namespace DocAtlas

/-! ## Ranks -/

/-- The place of a find within its section before it is cut off. -/
def Find.rank (f : Find) : Int := Priority.rank f.category f.folder f.path f.depth

/-! ## Sorted sections -/

/-- No orphan stands before an item of another category. -/
def Section.OrphansLast (s : Section) : Prop :=
  s.items.Pairwise fun i j => i.category = .orphan → j.category = .orphan

/-- Behind documents of other categories orphans stay last exactly if none of the documents ranks
above them. -/
theorem orphansLast_sortItems_iff {documents orphans : List Item}
    (hdocuments : ∀ i ∈ documents, i.category ≠ .orphan)
    (horphans : ∀ i ∈ orphans, i.category = .orphan ∧ i.priority = Category.orphanPriority) :
    (Contents.sortItems (documents ++ orphans)).Pairwise
        (fun i j => i.category = .orphan → j.category = .orphan) ↔
      orphans = [] ∨ ∀ i ∈ documents, i.priority ≤ Category.orphanPriority := by
  constructor
  · intro hlast
    by_contra hnot
    simp only [not_or, not_forall] at hnot
    obtain ⟨hne, i, hi, habove⟩ := hnot
    obtain ⟨j, others, rfl⟩ := List.exists_cons_of_ne_nil hne
    obtain ⟨hj, hpriority⟩ := horphans j (by simp)
    have hi' : i ∈ Contents.sortItems (documents ++ j :: others) := Contents.mem_sortItems.2 (by simp [hi])
    have hj' : j ∈ Contents.sortItems (documents ++ j :: others) := Contents.mem_sortItems.2 (by simp)
    have hij : i ≠ j := by
      rintro rfl
      exact hdocuments i hi hj
    -- the orphan comes first by its priority, and so it is not last
    rcases pairwise_or ((Contents.pairwise_sortItems _).and hlast) hi' hj' hij with hfirst | hfirst
    · exact habove (hpriority ▸ hfirst.1)
    · exact hdocuments i hi (hfirst.2 hj)
  · intro h
    have hall : ∀ items : List Item, (∀ i ∈ items, i.category = .orphan) →
        items.Pairwise fun i j => i.category = .orphan → j.category = .orphan :=
      fun items hitems => List.pairwise_of_forall_mem_list fun _ _ j hj _ => hitems j hj
    have hnone : ∀ items : List Item, (∀ i ∈ items, i.category ≠ .orphan) →
        items.Pairwise fun i j => i.category = .orphan → j.category = .orphan :=
      fun items hitems => List.pairwise_of_forall_mem_list fun i hi j _ e => absurd e (hitems i hi)
    rcases h with rfl | hbelow
    · refine hnone _ fun i hi => hdocuments i ?_
      rw [List.append_nil] at hi
      exact Contents.mem_sortItems.1 hi
    · have hsplit : Contents.sortItems (documents ++ orphans) =
          Contents.sortItems documents ++ Contents.sortItems orphans := by
        refine sortBy_append fun i hi j hj => ?_
        rw [decide_eq_true_eq, (horphans j hj).2]
        exact hbelow i hi
      rw [hsplit]
      refine List.pairwise_append.2 ⟨?_, ?_, ?_⟩
      · exact hnone _ fun i hi => hdocuments i (Contents.mem_sortItems.1 hi)
      · exact hall _ fun i hi => (horphans i (Contents.mem_sortItems.1 hi)).1
      · intro i hi j _ horphan
        exact absurd horphan (hdocuments i (Contents.mem_sortItems.1 hi))

/-! ## Reports -/

namespace Site

variable {site : Site}

theorem forall_priority_iff {key : String} :
    (∀ r ∈ site.corpus.records, site.config.sectionFor r.folder = key →
        r.priority ≤ Category.orphanPriority) ↔
      ∀ f ∈ site.kept, site.config.sectionFor f.folder = key →
        f.rank ≤ Category.orphanPriority := by
  have hrecord : ∀ f, (site.record f).folder = f.folder ∧
      ((site.record f).priority ≤ Category.orphanPriority ↔ f.rank ≤ Category.orphanPriority) := by
    intro f
    rw [record, Record.ofContent]
    exact ⟨rfl, Priority.ofDocument_le_iff f.category f.folder f.path f.depth⟩
  constructor
  · intro h f hf hkey
    rw [← (hrecord f).2]
    exact h _ (mem_records.2 ⟨f, hf, rfl⟩) (by rwa [(hrecord f).1])
  · intro h r hr hkey
    obtain ⟨f, hf, rfl⟩ := mem_records.1 hr
    rw [(hrecord f).2]
    exact h f hf (by rwa [(hrecord f).1] at hkey)

/-- The orphans of a section come last if there are none or no record of it ranks above them. -/
theorem orphansLast_iff {toctrees : ToctreeReport} {corpus : Corpus} {s : Section}
    (hs : s ∈ (site.contents corpus toctrees).contents.sections)
    (hcorpus : ∀ r ∈ corpus.records, r.category ≠ .orphan) :
    s.OrphansLast ↔ (∀ i ∈ s.items, i.category ≠ .orphan) ∨
      ∀ r ∈ corpus.records, site.config.sectionFor r.folder = s.key →
        r.priority ≤ Category.orphanPriority := by
  have hitems := items_of_mem_sections hs
  simp only [entries, List.filter_append, List.map_append] at hitems
  have hdocuments : ∀ i ∈ ((corpus.records.map site.recordEntry).filter (·.1 = s.key)).map (·.2),
      i.category ≠ .orphan := by
    intro i hi
    obtain ⟨r, hr, -, rfl⟩ := mem_documentItems.1 hi
    exact hcorpus r hr
  unfold Section.OrphansLast
  rw [hitems, orphansLast_sortItems_iff hdocuments fun i hi => orphanItem_of_mem hi]
  apply or_congr
  · constructor
    · intro hnil i hi
      rw [hnil, List.append_nil] at hi
      exact hdocuments i (Contents.mem_sortItems.1 hi)
    · intro hnone
      rw [List.eq_nil_iff_forall_not_mem]
      intro i hi
      exact hnone i (Contents.mem_sortItems.2 (List.mem_append_right _ hi)) (orphanItem_of_mem hi).1
  · constructor
    · intro h r hr hkey
      exact h r.item (mem_documentItems.2 ⟨r, hr, hkey, rfl⟩)
    · intro h i hi
      obtain ⟨r, hr, hkey, rfl⟩ := mem_documentItems.1 hi
      exact h r hr hkey

end Site

namespace Session

variable {session : Session} {tree : Tree}

/-- A table of contents is made of the corpus and of some orphans of the documentation. -/
theorem generateContents_done {respectToctrees : Bool} {report : ContentsReport}
    (h : (session.generateContents tree respectToctrees).ending = .done report) :
    ∃ site toctrees, site.config = session.config ∧
      report.contents = (Site.contents site (session.fresh tree).corpus toctrees).contents := by
  obtain ⟨corpus, hcorpus, h⟩ := Outcome.andThen_done h
  obtain ⟨links, -, h⟩ := Outcome.andThen_done h
  obtain ⟨toctrees, -, h⟩ := Outcome.andThen_done h
  obtain ⟨built, hbuilt, h⟩ := Outcome.andThen_done h
  obtain ⟨rfl, hrecalls⟩ := discover_done hcorpus
  have hcontents := congrArg ContentsReport.contents (ending_settle_done hbuilt)
  cases h
  refine ⟨_, _, ?_, hcontents⟩
  simp only [site, loadToctrees, resolve, config_settle, hrecalls.config_eq]

/-- In each section of a table of contents the orphans come last exactly if there are none or no
document of the section ranks above them. -/
theorem orphansLast_generateContents {respectToctrees : Bool} {report : ContentsReport} {s : Section}
    (h : (session.generateContents tree respectToctrees).ending = .done report)
    (hs : s ∈ report.contents.sections) :
    s.OrphansLast ↔ (∀ i ∈ s.items, i.category ≠ .orphan) ∨
      ∀ f ∈ (session.fresh tree).kept, session.config.sectionFor f.folder = s.key →
        f.rank ≤ Category.orphanPriority := by
  obtain ⟨site, toctrees, hconfig, hcontents⟩ := generateContents_done h
  rw [hcontents] at hs
  rw [Site.orphansLast_iff hs fun r hr => Site.category_of_mem_records hr, hconfig]
  exact or_congr Iff.rfl Site.forall_priority_iff

end Session

/-- A document of the user and an orphan of the same section. -/
def shallowDocs : Tree where
  root := (Listing.nil.plantAt ["docs", "user_docs", "api", "x.md"] (.file "# X".toUTF8)).plantAt
    ["docs", "stray.md"] (.file "# S".toUTF8)
  wellFormed := by decide +kernel

/-- Near the top of the tree the orphan comes last. -/
theorem orphansLast_shallowDocs :
    ∃ report, (Session.usual.generateContents shallowDocs false).ending = .done report ∧
      ∀ s ∈ report.contents.sections, s.OrphansLast := by
  have hdir : shallowDocs.isDir Session.usual.layout.root = true := by decide +kernel
  have hsuffix : '/' ∉ Session.usual.config.outputSuffix.toList := by decide
  obtain ⟨_, _, _, hsurvey, -⟩ := Session.exists_surveyed hdir hsuffix
  have hreport := hsurvey.generateContents false
  have hranks : ∀ f ∈ (Session.usual.fresh shallowDocs).kept, f.rank ≤ Category.orphanPriority := by
    decide +kernel
  refine ⟨_, hreport, fun s hs => ?_⟩
  exact (Session.orphansLast_generateContents hreport hs).2 (Or.inr fun f hf _ => hranks f hf)

/-- A generated document eleven folders below that of its section, and an orphan. -/
def deepDocs : Tree where
  root := (Listing.nil.plantAt
      ["docs", "auto_docs", "api", "1", "2", "3", "4", "5", "6", "7", "8", "9", "10", "11", "x.md"]
      (.file "# X".toUTF8)).plantAt ["docs", "stray.md"] (.file "# S".toUTF8)
  wellFormed := by decide +kernel

instance (s : Section) : Decidable s.OrphansLast :=
  inferInstanceAs (Decidable (s.items.Pairwise fun i j => i.category = .orphan → j.category = .orphan))

/-- The document ranks at 92, behind the orphan. -/
theorem orphan_before_deep_document :
    ∃ report, (Session.usual.generateContents deepDocs false).ending = .done report ∧
      ∃ s ∈ report.contents.sections, ¬ s.OrphansLast := by
  have h : (Session.usual.generateContents deepDocs false).ending.any (fun report =>
      decide (∃ s ∈ report.contents.sections, ¬ s.OrphansLast)) = true := by
    decide +kernel
  obtain ⟨report, hreport, hsection⟩ := Ending.any_eq_true.1 h
  exact ⟨report, hreport, of_decide_eq_true hsection⟩

end DocAtlas
