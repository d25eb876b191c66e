import DocAtlas.Proofs.Classify.Choice
import DocAtlas.Proofs.Session.Addressing
import DocAtlas.Proofs.Site.Alike
import DocAtlas.Proofs.Site.Partition

/-! # Tables of contents that respect toctrees

A table that respects toctrees is the other one without the orphans that toctrees reach. Both have the
same sections, since orphans go to sections that every table starts with.

* `Contents.without`, `ContentsReport.without` — a table and a report without some orphans
* `Contents.pushAll_without` — leaving items out before they are pushed or afterwards
* `Site.contents_eq_without` — the report on a site
* `Session.generateContents_respects` — the two runs
-/

set_option autoImplicit false

namespace DocAtlas

/-- Whether an item is an orphan at one of the addresses. -/
def Item.isOrphanAt (urls : TextSet) (i : Item) : Bool := i.category = .orphan && urls.contains i.url

/-- The table without the items that a test drops. -/
def Contents.without (contents : Contents) (drops : Item → Bool) : Contents :=
  ⟨contents.sections.map fun s => { s with items := s.items.filter (!drops ·) }⟩

/-- The report without the orphans at some addresses, `url` being the address of a document. -/
def ContentsReport.without (report : ContentsReport) (url : Path → String) (urls : TextSet) :
    ContentsReport where
  issues := report.issues
  orphans := report.orphans.filter fun p => !urls.contains (url p)
  contents := report.contents.without (Item.isOrphanAt urls)

theorem ContentsReport.eq_of {first second : ContentsReport} (hissues : first.issues = second.issues)
    (horphans : first.orphans = second.orphans) (hcontents : first.contents = second.contents) :
    first = second := by
  cases first
  cases second
  cases hissues
  cases horphans
  cases hcontents
  rfl

/-! ## Leaving items out -/

namespace Contents

variable {contents : Contents} {drops : Item → Bool} {key : String} {item : Item}

theorem keys_without : (contents.without drops).keys = contents.keys := by
  simp [keys, without]

theorem touch_without : (contents.touch key).without drops = (contents.without drops).touch key := by
  rw [without, sections_touch, List.map_append]
  have hnew : ((if key ∈ contents.keys then [] else [⟨key, Title.ofStem key, []⟩] : List Section).map
      fun s => { s with items := s.items.filter (!drops ·) }) =
        if key ∈ contents.keys then [] else [⟨key, Title.ofStem key, []⟩] := by
    split <;> rfl
  have htouch := sections_touch (contents.without drops) key
  rw [keys_without] at htouch
  rw [hnew]
  cases h : (contents.without drops).touch key with
  | mk sections =>
    rw [h] at htouch
    exact congrArg Contents.mk htouch.symm

theorem touch_of_mem (h : key ∈ contents.keys) : contents.touch key = contents := by
  unfold touch
  rw [if_pos (isSome_get?.2 h)]

theorem push_without_of_not (h : drops item = false) :
    (contents.push key item).without drops = (contents.without drops).push key item := by
  unfold push
  rw [← touch_without]
  unfold without
  simp only [List.map_map]
  congr 1
  apply List.map_congr_left
  intro s _
  simp only [Function.comp_apply]
  split
  · simp [h]
  · rfl

theorem push_without (h : drops item = true) (hkey : key ∈ contents.keys) :
    (contents.push key item).without drops = contents.without drops := by
  unfold push without
  rw [touch_of_mem hkey]
  simp only [List.map_map]
  congr 1
  apply List.map_congr_left
  intro s _
  simp only [Function.comp_apply]
  split
  · simp [h]
  · rfl

/-- Items can be left out before they are pushed if the sections they go to are there. -/
theorem pushAll_without {entries : List (String × Item)}
    (h : ∀ entry ∈ entries, drops entry.2 = true → entry.1 ∈ contents.keys) :
    (contents.pushAll entries).without drops =
      (contents.without drops).pushAll (entries.filter (!drops ·.2)) := by
  induction entries generalizing contents with
  | nil => rfl
  | cons entry rest ih =>
    have hkeys : ∀ other ∈ rest, drops other.2 = true →
        other.1 ∈ (contents.push entry.1 entry.2).keys := by
      intro other hother hdrops
      rw [keys_push]
      exact keys_subset_touch contents entry.1 (h other (List.mem_cons_of_mem entry hother) hdrops)
    have hrest := ih hkeys
    cases hdrops : drops entry.2 with
    | true =>
      rw [push_without hdrops (h entry List.mem_cons_self hdrops)] at hrest
      rw [List.filter_cons_of_neg (by simp [hdrops])]
      exact hrest
    | false =>
      rw [push_without_of_not hdrops] at hrest
      rw [List.filter_cons_of_pos (by simp [hdrops])]
      exact hrest

theorem sort_without : contents.sort.without drops = (contents.without drops).sort := by
  unfold sort without
  simp only [List.map_map]
  congr 1
  apply List.map_congr_left
  intro s _
  simp only [Function.comp_apply, filter_sortItems]

end Contents

/-! ## Sections of orphans -/

namespace Classify

theorem sectionOf_mem_keys (stem : String) (content : Option String) :
    sectionOf stem content ∈ Contents.base.keys := by
  have hkeywords : sectionKeywords.map (·.1) ⊆ Contents.base.keys := by decide
  have hkey : ∀ row ∈ sectionKeywords, row.1 ∈ Contents.base.keys :=
    fun row hrow => hkeywords (List.mem_map_of_mem hrow)
  have hchosen := chosen_sectionOf stem content
  generalize sectionOf stem content = key at hchosen ⊢
  cases hchosen with
  | byName htable => exact hkey _ (by simp [htable])
  | byContent _ _ _ _ hmax => exact hkey _ hmax.mem
  | fallback => decide

end Classify

/-! ## The report on a site -/

namespace Site

variable {site : Site} {corpus : Corpus} {toctrees : ToctreeReport}

theorem orphans_contents :
    (site.contents corpus toctrees).orphans = site.orphans (knownUrls corpus toctrees) := rfl

theorem orphans_knownUrls_issuesOnly :
    site.orphans (knownUrls corpus toctrees) =
      (site.orphans (knownUrls corpus toctrees.issuesOnly)).filter
        fun p => !toctrees.tracked.contains (site.url p) := by
  have hknown : ∀ u, (knownUrls corpus toctrees).contains u =
      (toctrees.tracked.contains u || (knownUrls corpus toctrees.issuesOnly).contains u) := by
    intro u
    have hempty : u ∉ toctrees.issuesOnly.tracked := TextSet.not_mem_empty u
    rw [Bool.eq_iff_iff, Bool.or_eq_true, contains_knownUrls, contains_knownUrls,
      TextSet.contains_iff, or_iff_right hempty]
  unfold orphans
  rw [List.filter_filter]
  apply List.filter_congr
  intro p _
  rw [hknown, Bool.not_or]

theorem isOrphanAt_recordEntry {r : Record} (h : r.category ≠ .orphan) (urls : TextSet) :
    Item.isOrphanAt urls (site.recordEntry r).2 = false := by
  simp [Item.isOrphanAt, recordEntry, Record.item, h]

theorem isOrphanAt_orphanEntry (p : Path) (urls : TextSet) :
    Item.isOrphanAt urls (site.orphanEntry p).2 = urls.contains (site.url p) := by
  simp [Item.isOrphanAt, orphanEntry, place]

theorem filter_entries {records : List Record} (h : ∀ r ∈ records, r.category ≠ .orphan)
    (orphans : List Path) (urls : TextSet) :
    (site.entries records orphans).filter (fun entry => !Item.isOrphanAt urls entry.2) =
      site.entries records (orphans.filter fun p => !urls.contains (site.url p)) := by
  have hrecords : (records.map site.recordEntry).filter
      (fun entry => !Item.isOrphanAt urls entry.2) = records.map site.recordEntry := by
    rw [List.filter_eq_self]
    intro entry hentry
    obtain ⟨r, hr, rfl⟩ := List.mem_map.1 hentry
    rw [isOrphanAt_recordEntry (h r hr)]
    rfl
  have horphans : orphans.filter
      ((fun entry => !Item.isOrphanAt urls entry.2) ∘ site.orphanEntry) =
        orphans.filter fun p => !urls.contains (site.url p) :=
    List.filter_congr fun p _ => by rw [Function.comp_apply, isOrphanAt_orphanEntry]
  rw [entries, entries, List.filter_append, hrecords, List.filter_map, horphans]

theorem key_orphanEntry (p : Path) : (site.orphanEntry p).1 = site.orphanSection p := by
  simp only [orphanEntry, place]

theorem orphanSection_mem_keys (p : Path) : site.orphanSection p ∈ Contents.base.keys := by
  unfold orphanSection
  exact Classify.sectionOf_mem_keys _ _

theorem mem_keys_of_isOrphanAt {records : List Record} (h : ∀ r ∈ records, r.category ≠ .orphan)
    {orphans : List Path} {urls : TextSet} {entry : String × Item}
    (hentry : entry ∈ site.entries records orphans) (horphan : entry.2.isOrphanAt urls = true) :
    entry.1 ∈ Contents.base.keys := by
  rcases List.mem_append.1 hentry with hrecord | hplaced
  · obtain ⟨r, hr, rfl⟩ := List.mem_map.1 hrecord
    rw [isOrphanAt_recordEntry (h r hr)] at horphan
    cases horphan
  · obtain ⟨p, -, hplaced⟩ := List.mem_map.1 hplaced
    rw [← hplaced, key_orphanEntry]
    exact orphanSection_mem_keys p

/-- The report that respects toctrees is the other one without the orphans they reach. -/
theorem contents_eq_without (h : ∀ r ∈ corpus.records, r.category ≠ .orphan) :
    site.contents corpus toctrees =
      (site.contents corpus toctrees.issuesOnly).without site.url toctrees.tracked := by
  have horphans : (site.contents corpus toctrees).orphans =
      (site.contents corpus toctrees.issuesOnly).orphans.filter
        fun p => !toctrees.tracked.contains (site.url p) := by
    rw [orphans_contents, orphans_contents, orphans_knownUrls_issuesOnly]
  refine ContentsReport.eq_of rfl horphans ?_
  rw [contents_eq, horphans, ← filter_entries h, ContentsReport.without, contents_eq,
    Contents.sort_without,
    Contents.pushAll_without fun entry hentry horphan => mem_keys_of_isOrphanAt h hentry horphan]
  rfl

theorem reached_within {content : Path → Option String}
    (h : ∀ p ∈ site.allSources, content p = site.content p) :
    (site.within site.tree content).reached = site.reached ∧
      (site.within site.tree content).toctreeReport = site.toctreeReport := by
  have hsources : (site.within site.tree content).allSources = site.allSources := rfl
  have hmaster : (site.within site.tree content).master? = site.master? := rfl
  have hchecks : site.allSources.flatMap (site.within site.tree content).entryChecks =
      site.allSources.flatMap site.entryChecks := by
    refine List.flatMap_congr fun p hp => ?_
    unfold entryChecks
    rw [content_within, h p hp]
    rfl
  constructor
  · rw [reached, reached, hsources, hmaster, hchecks]
  · rw [toctreeReport, toctreeReport, hsources, hmaster, hchecks]
    rfl

end Site

/-! ## Two runs -/

namespace Session

variable {session last : Session} {tree : Tree} {corpus : Corpus} {links : LinkReport}
  {toctrees : ToctreeReport}

theorem ending_loadToctrees_congr {before after : Session} {known other : Path → Prop}
    (hbefore : before.Recalls tree session.layout session.config known)
    (hafter : after.Recalls tree session.layout session.config other)
    (h : ∀ p ∈ (session.fresh tree).allSources, after.content tree p = before.content tree p) :
    (after.loadToctrees tree).ending = (before.loadToctrees tree).ending := by
  have hsite : after.site tree =
      (before.site tree).within (before.site tree).tree (after.content tree) := by
    rw [hafter.site_eq, hbefore.site_eq]
    rfl
  have hcontent : ∀ p ∈ (before.site tree).allSources,
      after.content tree p = (before.site tree).content p := by
    intro p hp
    rw [sources_site hbefore] at hp
    exact h p hp
  obtain ⟨hreached, hreport⟩ := Site.reached_within hcontent
  rw [← hsite] at hreached hreport
  rw [ending_loadToctrees, ending_loadToctrees, hreached, hreport, hafter.config_eq,
    hbefore.config_eq]

/-- What a survey finds in toctrees is what is found in them without a survey, unless a find is another
spelling of a source file and reads otherwise. -/
theorem Surveyed.ending_renewed (h : session.Surveyed tree corpus links toctrees last)
    (hreads : ∀ f ∈ (session.fresh tree).kept, ∀ p ∈ (session.fresh tree).allSources,
      p.same f.path = true → tree.source? f.path = tree.source? p) :
    (session.renewed.loadToctrees tree).ending = .done toctrees := by
  have hrecalls := (recalls_finds h.isDir).resolve corpus
  have hnothing : session.renewed.Recalls tree session.layout session.config fun _ => False :=
    recalls_fresh tree session.layout session.config _
  rw [← h.loaded]
  refine ending_loadToctrees_congr hrecalls hnothing fun p hp => ?_
  have hfound := hrecalls.content_of_reads (p := p) fun q hq hsame => by
    obtain ⟨f, hf, rfl⟩ := hq
    exact hreads f hf p hp hsame
  rw [hfound]
  rfl

/-- Behind a table of contents toctrees are found to lead where they led before: what was read in
between are source files, and no two of them have the same components. -/
theorem Surveyed.ending_reloaded
    (h : session.Surveyed tree corpus links toctrees last) (respectToctrees : Bool) :
    ((session.generateContents tree respectToctrees).session.loadToctrees tree).ending =
      .done toctrees := by
  obtain ⟨inside, hentry⟩ := Tree.entry?_of_isDir h.isDir
  have hpairwise : (session.fresh tree).allSources.Pairwise (fun p q => p.same q = false) :=
    Tree.pairwise_sources hentry
  obtain ⟨-, hfirst⟩ := discover_done h.discovered
  have hbefore := hfirst.resolve corpus
  rw [h.session_generateContents, ← h.loaded]
  generalize (if respectToctrees then toctrees else toctrees.issuesOnly) = considered
  have hreads : ∀ q, .read q ∈ (last.site tree).contentsEvents corpus considered →
      q ∈ (session.fresh tree).allSources := by
    intro q hq
    rw [← sources_site h.recalls]
    exact Site.read_mem_contentsEvents hq
  have hafter : (last.buildContents tree corpus considered).session.Recalls tree session.layout
      session.config (session.fresh tree).Known :=
    h.recalls.settle (fun q hq => Or.inr (hreads q hq)) _
  refine ending_loadToctrees_congr hbefore hafter fun p hp => ?_
  have hbuild : (last.buildContents tree corpus considered).session.content tree p =
      last.content tree p :=
    content_settle _ (fun q hq hsame => by
      rw [Path.eq_of_same hpairwise hp (hreads q hq) hsame]) _
  rw [hbuild, h.last_eq]
  refine content_settle _ (fun q hq hsame => ?_) _
  have hsource := Site.read_mem_toctreeEvents hq
  rw [sources_site hbefore] at hsource
  rw [Path.eq_of_same hpairwise hp hsource hsame]

/-- Two tables of contents, one of which respects toctrees, fail alike, or neither can be made, or the
one that does is the other without the orphans at the addresses that toctrees are found to reach: on
the way to the tables, behind either of them, and by a session that has read nothing, unless a find is
another spelling of a source file and reads otherwise. -/
theorem generateContents_respects (session : Session) (tree : Tree) :
    (∃ fault, (session.generateContents tree false).ending = .failed fault ∧
      (session.generateContents tree true).ending = .failed fault) ∨
    ((session.generateContents tree false).ending = .aborted ∧
      (session.generateContents tree true).ending = .aborted) ∨
    ∃ corpus links toctrees last report,
      session.Surveyed tree corpus links toctrees last ∧
      (session.generateContents tree false).ending = .done report ∧
      (session.generateContents tree true).ending =
        .done (report.without (session.fresh tree).url toctrees.tracked) ∧
      (∀ respectToctrees,
        ((session.generateContents tree respectToctrees).session.loadToctrees tree).ending =
          .done toctrees) ∧
      ((∀ f ∈ (session.fresh tree).kept, ∀ p ∈ (session.fresh tree).allSources,
          p.same f.path = true → tree.source? f.path = tree.source? p) →
        (session.renewed.loadToctrees tree).ending = .done toctrees) := by
  cases hdir : tree.isDir session.layout.root with
  | false =>
    have hfailed : ∀ respectToctrees, (session.generateContents tree respectToctrees).ending =
        .failed (.docsDirNotFound session.layout.root) := fun _ =>
      Outcome.andThen_of_failed _ (by rw [discover_of_not_isDir hdir])
    exact Or.inl ⟨_, hfailed false, hfailed true⟩
  | true =>
    by_cases hsurvey : ∃ links toctrees last,
        session.Surveyed tree (session.fresh tree).corpus links toctrees last
    · obtain ⟨links, toctrees, last, h⟩ := hsurvey
      have hurl : (last.site tree).url = (session.fresh tree).url := by
        rw [h.recalls.site_eq]
        rfl
      have hwithout : (last.site tree).contents (session.fresh tree).corpus toctrees =
          ((last.site tree).contents (session.fresh tree).corpus toctrees.issuesOnly).without
            (last.site tree).url toctrees.tracked :=
        Site.contents_eq_without fun r hr => Site.category_of_mem_records hr
      refine Or.inr (Or.inr ⟨_, links, toctrees, last, _, h, h.generateContents false, ?_,
        h.ending_reloaded, h.ending_renewed⟩)
      rw [h.generateContents true, ← hurl]
      exact congrArg (fun report : ContentsReport =>
        Ending.done { report with issues := report.issues ++ links.issues }) hwithout
    · exact Or.inr (Or.inl ⟨(generateContents_aborted_iff_survey hdir false).2 hsurvey,
        (generateContents_aborted_iff_survey hdir true).2 hsurvey⟩)

end Session

end DocAtlas
