import DocAtlas.Command.Check
import DocAtlas.Proofs.Site.Partition

/-! # A check and the table of contents

A check leaves out the orphans that toctrees reach, a table of contents that respects toctrees leaves
out those with the address of a record as well. The two agree but for the documents whose addresses
declared directories take: these are orphans of the check only.

* `Findings.placed` — the orphans of a check that the table of contents has too
* `Findings.Agrees` — what a check and a report have in common
* `Findings.placeAll_done` — what placing orphans one by one ends in
* `Session.exists_agreement` — the findings of a check and the report agree
* `Run.check_agrees` — the same of the command, with its output and its exit code
-/

set_option autoImplicit false

namespace DocAtlas

namespace Findings

/-- The orphans of a check whose addresses no declared directory takes. -/
def placed (findings : Findings) (site : Site) : List (Path × Placement) :=
  findings.orphans.filter fun o => !site.layout.declaredDirs.any (site.shadows o.1)

/-- A check and a report have the same issues in the same order, the orphans of the report are those
of the check that are placed, and each stands in the section the check announces, in the same order. -/
structure Agrees (findings : Findings) (site : Site) (report : ContentsReport) : Prop where
  issues : findings.issues = report.issues
  orphans : report.orphans = (findings.placed site).map (·.1)
  sections : ∀ s ∈ report.contents.sections, s.items.filter (·.category = .orphan) =
    ((findings.placed site).filter (·.2.key = s.key)).map (·.2.item)
  keys : ∀ o ∈ findings.placed site, o.2.key ∈ report.contents.keys

theorem placed_map (site : Site) (documents : Nat) (orphans : List Path) (issues : List Issue) :
    (Findings.mk documents (orphans.map fun p => (p, site.place p)) issues).placed site =
      (orphans.filter fun p => !site.layout.declaredDirs.any (site.shadows p)).map fun p =>
        (p, site.place p) := by
  rw [placed, List.filter_map]
  rfl

/-- The orphans announced for a section are those whose entries go there. -/
theorem items_announced (site : Site) (orphans : List Path) (key : String) :
    ((orphans.map fun p => (p, site.place p)).filter (·.2.key = key)).map (·.2.item) =
      ((orphans.map site.orphanEntry).filter (·.1 = key)).map (·.2) := by
  induction orphans with
  | nil => rfl
  | cons p rest ih =>
    simp only [List.map_cons, List.filter_cons, Site.orphanEntry]
    by_cases hkey : (site.place p).key = key
    · simp only [hkey, decide_true, if_true, List.map_cons, ih]
    · simp only [hkey, decide_false, Bool.false_eq_true, if_false, ih]

/-! ## Orphans one by one -/

section Stages

variable {session : Session} {tree : Tree} {rootNames : List String} {inside : Listing}

/-- Placing orphans one by one ends in the places they have at first, though each is read before the
next one is placed. -/
theorem placeAll_done (hground : (session.fresh tree).Grounded rootNames inside) {last : Session}
    (h : last.Recalls tree session.layout session.config (session.fresh tree).Known)
    {orphans : List Path} (horphans : ∀ p ∈ orphans, p ∈ (session.fresh tree).strays) :
    (placeAll tree last orphans).ending =
      .done (orphans.map fun p => (p, (session.fresh tree).place p)) := by
  induction orphans generalizing last with
  | nil => rfl
  | cons p rest ih =>
    have hp : p ∈ (session.fresh tree).strays := horphans p (by simp)
    have haddress := h.canAddress hground.plain.suffix_noSlash
    have hplace : (last.place tree p).ending = .done ((session.fresh tree).place p) := by
      rw [← Session.place_of_stray hground h hp]
      exact Session.ending_settle haddress _ _
    have hnext : (last.place tree p).session.Recalls tree session.layout session.config
        (session.fresh tree).Known := by
      refine h.settle (fun q hq => Or.inr ?_) _
      rw [Site.read_mem_placeEvents hq]
      exact (List.mem_filter.1 hp).1
    have hrest := ih hnext fun q hq => horphans q (by simp [hq])
    rw [placeAll, (Outcome.andThen_of_done _ hplace).1, (Outcome.andThen_of_done _ hrest).1]
    rfl

end Stages

end Findings

/-! ## The orphans of a section -/

namespace Site

variable {site : Site} {corpus : Corpus} {toctrees : ToctreeReport}

/-- The orphans of a section, in the order they were found. -/
theorem filter_orphan_section (hcorpus : ∀ r ∈ corpus.records, r.category ≠ .orphan) {s : Section}
    (hs : s ∈ (site.contents corpus toctrees).contents.sections) :
    s.items.filter (·.category = .orphan) =
      (((site.contents corpus toctrees).orphans.map site.orphanEntry).filter
        (·.1 = s.key)).map (·.2) := by
  rw [items_of_mem_sections hs, Contents.filter_sortItems, entries, List.filter_append,
    List.map_append, List.filter_append]
  have hdocuments : (((corpus.records.map site.recordEntry).filter (·.1 = s.key)).map (·.2)).filter
      (fun i => i.category = .orphan) = [] := by
    rw [List.filter_eq_nil_iff]
    intro i hi
    obtain ⟨r, hr, -, rfl⟩ := mem_documentItems.1 hi
    rw [decide_eq_true_eq]
    exact hcorpus r hr
  have horphans : ((((site.contents corpus toctrees).orphans.map site.orphanEntry).filter
      (·.1 = s.key)).map (·.2)).filter (fun i => i.category = .orphan) =
        (((site.contents corpus toctrees).orphans.map site.orphanEntry).filter
          (·.1 = s.key)).map (·.2) := by
    rw [List.filter_eq_self]
    intro i hi
    rw [decide_eq_true_eq]
    exact (orphanItem_of_mem hi).1
  rw [hdocuments, horphans, List.nil_append]
  exact Contents.sortItems_of_priority fun i hi => (orphanItem_of_mem hi).2

theorem key_mem_contents (corpus : Corpus) (toctrees : ToctreeReport) {p : Path}
    (hp : p ∈ site.orphans (knownUrls corpus toctrees)) :
    (site.orphanEntry p).1 ∈ (site.contents corpus toctrees).contents.keys := by
  rw [contents_eq, Contents.keys_sort]
  have hentry : site.orphanEntry p ∈
      site.entries corpus.records (site.contents corpus toctrees).orphans :=
    List.mem_append_right _ (List.mem_map_of_mem hp)
  exact Contents.mem_keys_pushAll hentry

end Site

namespace Session

variable {session : Session} {tree : Tree} {rootNames : List String} {inside : Listing}

theorem orphanEntry_of_stray (hground : (session.fresh tree).Grounded rootNames inside)
    {last : Session}
    (h : last.Recalls tree session.layout session.config (session.fresh tree).Known) {p : Path}
    (hp : p ∈ (session.fresh tree).strays) :
    (last.site tree).orphanEntry p = (session.fresh tree).orphanEntry p := by
  rw [Site.orphanEntry, Site.orphanEntry, place_of_stray hground h hp]

theorem Surveyed.find (hground : (session.fresh tree).Grounded rootNames inside) {corpus : Corpus}
    {links : LinkReport} {toctrees : ToctreeReport} {last : Session}
    (hsurvey : session.Surveyed tree corpus links toctrees last)
    (h : last.Recalls tree session.layout session.config (session.fresh tree).Known) :
    (Findings.find tree session).ending = .done ⟨corpus.size,
      ((session.fresh tree).orphans toctrees.tracked).map
        (fun p => (p, (session.fresh tree).place p)), toctrees.issues ++ links.issues⟩ := by
  have hending := hsurvey.ending_andThen fun corpus links toctrees session =>
    (session.findOrphans tree toctrees.tracked).andThen fun orphans session =>
    (Findings.placeAll tree session orphans).andThen fun placements session =>
    ⟨.done (Findings.mk corpus.size placements (toctrees.issues ++ links.issues)), [], session⟩
  rw [show (Findings.find tree session).ending = _ from hending]
  have hfound : (last.findOrphans tree toctrees.tracked).ending =
      .done ((session.fresh tree).orphans toctrees.tracked) := by
    rw [← orphans_site h]
    exact ending_settle (h.canAddress hground.plain.suffix_noSlash) _ _
  have hnext : (last.findOrphans tree toctrees.tracked).session.Recalls tree session.layout
      session.config (session.fresh tree).Known :=
    h.settle (fun _ hq => absurd hq (Site.not_read_mem_orphanEvents _)) _
  have hplaced := Findings.placeAll_done hground hnext
    (fun p hp => Site.orphans_subset_strays _ toctrees.tracked hp)
  rw [(Outcome.andThen_of_done _ hfound).1, (Outcome.andThen_of_done _ hplaced).1]

theorem exists_agreement (hground : (session.fresh tree).Grounded rootNames inside)
    (hdir : tree.isDir session.layout.root = true) :
    ∃ findings report, (Findings.find tree session).ending = .done findings ∧
      (session.generateContents tree true).ending = .done report ∧
      findings.Agrees (session.fresh tree) report := by
  have hsuffix := hground.plain.suffix_noSlash
  obtain ⟨links, toctrees, last, hsurvey, hrecalls⟩ := exists_surveyed hdir hsuffix
  have hfind := hsurvey.find hground hrecalls
  have hgenerate := hsurvey.generateContents true
  rw [if_pos rfl] at hgenerate
  have horphans : (last.site tree).orphans (Site.knownUrls (session.fresh tree).corpus toctrees) =
      ((session.fresh tree).orphans toctrees.tracked).filter fun p =>
        !(session.fresh tree).layout.declaredDirs.any ((session.fresh tree).shadows p) := by
    rw [orphans_site hrecalls, hground.orphans_knownUrls]
  refine ⟨_, _, hfind, hgenerate, ?_⟩
  have hcorpus : ∀ r ∈ (session.fresh tree).corpus.records, r.category ≠ .orphan :=
    fun r hr => Site.category_of_mem_records hr
  have hentry : ∀ p ∈ (last.site tree).orphans (Site.knownUrls (session.fresh tree).corpus toctrees),
      (last.site tree).orphanEntry p = (session.fresh tree).orphanEntry p := by
    intro p hp
    rw [orphans_site hrecalls] at hp
    exact orphanEntry_of_stray hground hrecalls (Site.orphans_subset_strays _ _ hp)
  refine { issues := rfl, orphans := ?_, sections := ?_, keys := ?_ }
  · rw [Findings.placed_map, List.map_map]
    exact horphans.trans (List.map_id _).symm
  · intro s hs
    rw [Findings.placed_map, ← horphans, Findings.items_announced, ← List.map_congr_left hentry]
    exact Site.filter_orphan_section hcorpus hs
  · intro o ho
    rw [Findings.placed_map, ← horphans] at ho
    obtain ⟨p, hp, rfl⟩ := List.mem_map.1 ho
    have hkey := Site.key_mem_contents (session.fresh tree).corpus toctrees hp
    rw [hentry p hp, Site.orphanEntry] at hkey
    dsimp only at hkey ⊢
    exact hkey

theorem find_of_not_isDir (h : tree.isDir session.layout.root = false) :
    (Findings.find tree session).ending = .failed (.docsDirNotFound session.layout.root) := by
  unfold Findings.find
  exact Outcome.andThen_of_failed _ (by rw [discover_of_not_isDir h])

theorem generateContents_of_not_isDir (respectToctrees : Bool)
    (h : tree.isDir session.layout.root = false) :
    (session.generateContents tree respectToctrees).ending =
      .failed (.docsDirNotFound session.layout.root) := by
  unfold generateContents
  exact Outcome.andThen_of_failed _ (by rw [discover_of_not_isDir h])

/-- What was read before has no part in a table of contents. -/
theorem generateContents_memory (session : Session) (memory : Memory) (tree : Tree)
    (respectToctrees : Bool) (hdir : tree.isDir session.layout.root = true) :
    { session with memory := memory }.generateContents tree respectToctrees =
      session.generateContents tree respectToctrees := by
  have hdiscover : { session with memory := memory }.discover tree = session.discover tree := by
    rw [discover_of_isDir hdir, discover_of_isDir (by exact hdir)]
    rfl
  unfold generateContents
  rw [hdiscover]

end Session

/-! ## The command -/

namespace Run

theorem placed_eq_iff {findings : Findings} {site : Site} {report : ContentsReport}
    (h : findings.Agrees site report) :
    report.orphans = findings.orphans.map (·.1) ↔
      ∀ o ∈ findings.orphans, site.layout.declaredDirs.any (site.shadows o.1) = false := by
  rw [h.orphans]
  constructor
  · intro heq o ho
    have hlength : (findings.placed site).length = findings.orphans.length := by
      simpa using congrArg List.length heq
    have hall := List.length_filter_eq_length_iff.1 hlength o ho
    simpa using hall
  · intro hall
    have hplaced : findings.placed site = findings.orphans := by
      rw [Findings.placed, List.filter_eq_self]
      intro o ho
      rw [hall o ho]
      rfl
    rw [hplaced]

theorem check_of_done {tree : Tree} {docs : Option Path} {layout : Layout} {config : Config}
    {findings : Findings} (hopen : (Project.openDocs tree docs).result = .ok (layout, config))
    (hfind : (Findings.find tree ⟨layout, config, []⟩).ending = .done findings) :
    (check tree docs).code = findings.code ∧
      (check tree docs).stdout = unlines (findings.lines layout) := by
  unfold check ofSession
  simp only [hopen, hfind]
  exact ⟨rfl, trivial⟩

theorem check_of_failed {tree : Tree} {docs : Option Path} {layout : Layout} {config : Config}
    {fault : Fault} (hopen : (Project.openDocs tree docs).result = .ok (layout, config))
    (hfind : (Findings.find tree ⟨layout, config, []⟩).ending = .failed fault) :
    (check tree docs).ending = .failed fault := by
  unfold check ofSession
  simp only [hopen, hfind]

/-- A check agrees with the table of contents that respects toctrees: both fail where the root cannot
be opened, and else they have the same issues, the same orphans but for those with the address of a
declared directory, and the sections that are announced. The exit code is that of the findings. -/
theorem check_agrees {tree : Tree} {docs : Option Path} {layout : Layout} {config : Config}
    (hopen : (Project.openDocs tree docs).result = .ok (layout, config)) (hplain : config.IsPlain)
    (memory : Memory) :
    (tree.isDir layout.root = false ∧
      (check tree docs).ending = .failed (.docsDirNotFound layout.root) ∧
      (Session.generateContents ⟨layout, config, memory⟩ tree true).ending =
        .failed (.docsDirNotFound layout.root)) ∨
    ∃ findings report, (Findings.find tree ⟨layout, config, []⟩).ending = .done findings ∧
      (Session.generateContents ⟨layout, config, memory⟩ tree true).ending = .done report ∧
      findings.Agrees (Site.ofTree tree layout config) report ∧
      (report.orphans = findings.orphans.map (·.1) ↔ ∀ o ∈ findings.orphans,
        layout.declaredDirs.any ((Site.ofTree tree layout config).shadows o.1) = false) ∧
      (check tree docs).stdout = unlines (findings.lines layout) ∧
      (check tree docs).code =
        if report.issues ≠ [] then 2 else if findings.orphans ≠ [] then 1 else 0 := by
  cases hdir : tree.isDir layout.root with
  | false =>
    left
    refine ⟨rfl, check_of_failed hopen (Session.find_of_not_isDir hdir), ?_⟩
    exact Session.generateContents_of_not_isDir true hdir
  | true =>
    right
    obtain ⟨docs', root, hroot, hlayout⟩ := Project.openDocs_ok hopen
    obtain ⟨rootNames, inside, hground⟩ : ∃ rootNames inside,
        (Session.fresh ⟨layout, config, []⟩ tree).Grounded rootNames inside :=
      Session.grounded_fresh hroot hlayout hplain
    obtain ⟨findings, report, hfind, hgenerate, hagrees⟩ := Session.exists_agreement hground hdir
    have hmemory := Session.generateContents_memory ⟨layout, config, []⟩ memory tree true hdir
    obtain ⟨hcode, hstdout⟩ := check_of_done hopen hfind
    refine ⟨findings, report, hfind, by rw [← hgenerate, ← hmemory], hagrees,
      placed_eq_iff hagrees, hstdout, ?_⟩
    rw [hcode, Findings.code, hagrees.issues]

end Run

/-- In `plainDocs` the check and the table of contents have the same orphans. -/
theorem check_agrees_plainDocs :
    ∃ findings report, (Findings.find plainDocs Session.usual).ending = .done findings ∧
      (Session.usual.generateContents plainDocs true).ending = .done report ∧
      findings.Agrees (Session.usual.fresh plainDocs) report ∧
      report.orphans = findings.orphans.map (·.1) := by
  have hopen : (Project.openDocs plainDocs (some ⟨"docs"⟩)).result =
      .ok (Session.usual.layout, Session.usual.config) := by
    decide +kernel
  have hdir : plainDocs.isDir Session.usual.layout.root = true := by decide +kernel
  have hstems : ∀ declared ∈ Session.usual.layout.declaredDirs,
      ∀ f ∈ (Session.usual.fresh plainDocs).finds declared, f.path.fileStem ≠ some "." := by
    decide +kernel
  rcases Run.check_agrees hopen usual_isPlain [] with ⟨hnone, -, -⟩ |
    ⟨findings, report, hfind, hgenerate, hagrees, horphans, -, -⟩
  · rw [hdir] at hnone
    cases hnone
  · refine ⟨findings, report, hfind, hgenerate, hagrees, horphans.2 fun o _ => ?_⟩
    rw [List.any_eq_false]
    intro declared hd hshadows
    unfold Site.shadows at hshadows
    rw [Bool.and_eq_true, List.any_eq_true] at hshadows
    obtain ⟨-, f, hf, hstem⟩ := hshadows
    rw [Bool.and_eq_true, beq_iff_eq, beq_iff_eq] at hstem
    exact hstems declared hd f hf hstem.2

/-- The documentation of `shadowingDocs` with its configuration. -/
def shadowingProject : Tree :=
  shadowingDocs.plantFile ["docs", ".docforge.toml"] "user_docs = \"guide.html\"\n".toUTF8

/-- The check has an orphan that the table of contents has not. -/
theorem check_orphan_not_in_contents :
    ∃ layout config findings report,
      (Project.openDocs shadowingProject (some ⟨"docs"⟩)).result = .ok (layout, config) ∧
      (Findings.find shadowingProject ⟨layout, config, []⟩).ending = .done findings ∧
      (Session.generateContents ⟨layout, config, []⟩ shadowingProject true).ending = .done report ∧
      findings.orphans.map (·.1) = [⟨"/docs/guide.md"⟩] ∧ report.orphans = [] := by
  have hopen : (Project.openDocs shadowingProject (some ⟨"docs"⟩)).result =
      .ok (shadowingSession.layout, shadowingSession.config) := by
    decide +kernel
  have hfindings : (Findings.find shadowingProject shadowingSession).ending.any (fun findings =>
      findings.orphans.map (·.1) == [⟨"/docs/guide.md"⟩]) = true := by
    decide +kernel
  have hreport : (shadowingSession.generateContents shadowingProject true).ending.any (fun report =>
      report.orphans == []) = true := by
    decide +kernel
  obtain ⟨findings, hfind, horphans⟩ := Ending.any_eq_true.1 hfindings
  obtain ⟨report, hgenerate, hnone⟩ := Ending.any_eq_true.1 hreport
  exact ⟨_, _, findings, report, hopen, hfind, hgenerate, by simpa using horphans,
    by simpa using hnone⟩

end DocAtlas
