import DocAtlas.Proofs.Contents.Table
import DocAtlas.Proofs.Session.Addressing
import DocAtlas.Proofs.Site.Clash

/-! # Every source file has one place

With all orphans placed, each source file below the root is the document of one record or one orphan,
never both. Two kinds of files are missed: one behind declared directories of which none gets to it,
and one whose address a declared directory takes.

* `Site.isMissed` — whether a source file has no place
* `Site.Grounded.countP_records`, `Site.Grounded.countP_orphans` — how often a source file is a record
  and an orphan
* `Session.partition_generateContents` — the places of all source files, and the items made of them
-/

set_option autoImplicit false

namespace DocAtlas

namespace Site

/-- Whether a source file below the root has no place. -/
def isMissed (site : Site) (p : Path) : Bool :=
  if site.layout.contains p then !site.layout.declaredDirs.any (·.reaches p)
  else site.layout.declaredDirs.any (site.shadows p)

variable {site : Site} {rootNames : List String} {inside : Listing}

theorem contains_of_reaches {p : Path} (h : site.layout.declaredDirs.any (·.reaches p) = true) :
    site.layout.contains p = true := by
  obtain ⟨declared, hd, hreaches⟩ := List.any_eq_true.1 h
  simp only [DeclaredDir.reaches, Bool.and_eq_true] at hreaches
  exact List.any_eq_true.2 ⟨declared, hd, hreaches.1.1⟩

theorem Grounded.countP_records (h : site.Grounded rootNames inside) {p : Path}
    (hp : p ∈ site.allSources) :
    site.corpus.records.countP (fun r => p.same r.path) =
      if site.layout.declaredDirs.any (·.reaches p) then 1 else 0 := by
  have hpaths : (site.kept.map (·.path)).Pairwise (fun q r => q.same r = false) :=
    List.pairwise_map.2 (pairwise_kept site)
  have hcount := Path.countP_same hpaths p
  have hany : (site.kept.map (·.path)).any p.same =
      site.layout.declaredDirs.any (·.reaches p) := by
    rw [Bool.eq_iff_iff, List.any_eq_true, List.any_eq_true, ← h.exists_find_iff hp]
    simp
  rw [site.corpus.records_perm.countP_eq, found_corpus, List.countP_map, ← hany, ← hcount,
    List.countP_map]
  apply List.countP_congr
  intro f _
  simp only [Function.comp_apply, path_record]

theorem contains_knownUrls {corpus : Corpus} {toctrees : ToctreeReport} {u : String} :
    (knownUrls corpus toctrees).contains u = true ↔
      u ∈ toctrees.tracked ∨ ∃ r ∈ corpus.records, r.url = u := by
  unfold knownUrls
  rw [TextSet.contains_iff, TextSet.mem_foldl_insert, List.mem_map]

theorem exists_record_url {u : String} :
    (∃ r ∈ site.corpus.records, r.url = u) ↔ ∃ f ∈ site.kept, site.url f.path = u := by
  constructor
  · rintro ⟨r, hr, hurl⟩
    obtain ⟨f, hf, rfl⟩ := mem_records.1 hr
    exact ⟨f, hf, by rwa [url_record] at hurl⟩
  · rintro ⟨f, hf, hurl⟩
    exact ⟨site.record f, mem_records.2 ⟨f, hf, rfl⟩, by rwa [url_record]⟩

/-- The address of a document outside is known if a toctree reaches it or a declared directory takes
it. -/
theorem Grounded.contains_url (h : site.Grounded rootNames inside) (toctrees : ToctreeReport)
    {p : Path} (hp : p ∈ site.strays) :
    (knownUrls site.corpus toctrees).contains (site.url p) =
      (toctrees.tracked.contains (site.url p) || site.layout.declaredDirs.any (site.shadows p)) := by
  have hmem := List.mem_filter.1 hp
  have hout : site.layout.contains p = false := by simpa using hmem.2
  rw [Bool.eq_iff_iff, contains_knownUrls, Bool.or_eq_true, TextSet.contains_iff,
    exists_record_url, h.exists_clash_iff hmem.1 hout]

/-- The orphans beside a corpus are those that toctrees leave, without those whose addresses declared
directories take. -/
theorem Grounded.orphans_knownUrls (h : site.Grounded rootNames inside) (toctrees : ToctreeReport) :
    site.orphans (knownUrls site.corpus toctrees) =
      (site.orphans toctrees.tracked).filter fun p =>
        !site.layout.declaredDirs.any (site.shadows p) := by
  unfold orphans
  rw [List.filter_filter]
  apply List.filter_congr
  intro p hp
  rw [h.contains_url toctrees hp, Bool.not_or, Bool.and_comm]

theorem orphans_empty : site.orphans .empty = site.strays := by
  unfold orphans
  rw [List.filter_eq_self]
  intro p _
  rfl

theorem Rooted.eq_of_same (h : site.Rooted rootNames inside) {p q : Path}
    (hp : p ∈ site.allSources) (hq : q ∈ site.allSources) (hsame : p.same q = true) : p = q :=
  Path.eq_of_same h.pairwise_allSources hp hq hsame

/-- With all orphans placed, a document outside is one orphan if no declared directory takes its
address. -/
theorem Grounded.countP_orphans (h : site.Grounded rootNames inside) (issues : List Issue) {p : Path}
    (hp : p ∈ site.allSources) :
    (site.orphans (knownUrls site.corpus ⟨issues, .empty⟩)).countP p.same =
      if !site.layout.contains p && !site.layout.declaredDirs.any (site.shadows p) then 1 else 0 := by
  rw [h.orphans_knownUrls, orphans_empty]
  have hpairwise : (site.strays.filter fun p =>
      !site.layout.declaredDirs.any (site.shadows p)).Pairwise (fun q r => q.same r = false) :=
    (h.pairwise_allSources.filter _).filter _
  rw [Path.countP_same hpairwise]
  have hany : (site.strays.filter fun p =>
      !site.layout.declaredDirs.any (site.shadows p)).any p.same =
        (!site.layout.contains p && !site.layout.declaredDirs.any (site.shadows p)) := by
    rw [Bool.eq_iff_iff, List.any_eq_true]
    constructor
    · rintro ⟨q, hq, hsame⟩
      rw [List.mem_filter, strays, List.mem_filter] at hq
      obtain ⟨⟨hqmem, hout⟩, hshadows⟩ := hq
      rw [h.eq_of_same hp hqmem hsame, hout, hshadows]
      rfl
    · intro hplaced
      rw [Bool.and_eq_true] at hplaced
      refine ⟨p, ?_, Path.same_refl p⟩
      rw [List.mem_filter, strays, List.mem_filter]
      exact ⟨⟨hp, hplaced.1⟩, hplaced.2⟩
  rw [hany]

/-- With all orphans placed, every source file below the root that is not missed is the document of
one record or one orphan, not both. -/
theorem Grounded.countP_places (h : site.Grounded rootNames inside) (issues : List Issue) {p : Path}
    (hp : p ∈ site.allSources) :
    site.corpus.records.countP (fun r => p.same r.path) +
        (site.orphans (knownUrls site.corpus ⟨issues, .empty⟩)).countP p.same =
      if site.isMissed p then 0 else 1 := by
  rw [h.countP_records hp, h.countP_orphans issues hp, isMissed]
  cases hcontains : site.layout.contains p with
  | true =>
    cases hreaches : site.layout.declaredDirs.any (·.reaches p) <;> simp
  | false =>
    have hreaches : site.layout.declaredDirs.any (·.reaches p) = false := by
      rw [← Bool.not_eq_true]
      intro hreaches
      rw [contains_of_reaches hreaches] at hcontains
      cases hcontains
    cases hshadows : site.layout.declaredDirs.any (site.shadows p) <;> simp [hreaches]

end Site

/-! ## Reports -/

namespace Session

variable {session : Session} {tree : Tree} {rootNames : List String} {inside : Listing}

theorem orphans_site {last : Session} (h : last.Recalls tree session.layout session.config
    (session.fresh tree).Known) (tracked : TextSet) :
    (last.site tree).orphans tracked = (session.fresh tree).orphans tracked := by
  rw [h.site_eq]
  rfl

theorem content_of_stray (hground : (session.fresh tree).Grounded rootNames inside) {last : Session}
    (h : last.Recalls tree session.layout session.config (session.fresh tree).Known) {p : Path}
    (hp : p ∈ (session.fresh tree).strays) : last.content tree p = tree.source? p := by
  obtain ⟨hmem, hout⟩ := List.mem_filter.1 hp
  refine h.content_eq fun q hq hsame => ?_
  rcases hq with ⟨f, hf, rfl⟩ | hq
  · obtain ⟨declared, hd, hdir, q, hq, rfl⟩ := Site.mem_allFinds.1 (Site.mem_allFinds_of_mem_kept hf)
    obtain ⟨names, hspell⟩ := hground.declared_spells hd
    obtain ⟨between, name, hqspells, -⟩ := Site.spells_find hspell hdir hq
    rw [Site.path_find] at hsame
    have hpspells : p.Spells (rootNames ++ names ++ (between ++ [name])) :=
      (Path.same_iff.1 hsame).trans hqspells
    have hcontains : (session.fresh tree).layout.contains p = true :=
      List.any_eq_true.2 ⟨declared, hd,
        (hpspells.startsWith_iff hspell).2 (List.prefix_append _ _)⟩
    rw [hcontains] at hout
    cases hout
  · exact (hground.eq_of_same hmem hq hsame).symm

theorem place_of_stray (hground : (session.fresh tree).Grounded rootNames inside) {last : Session}
    (h : last.Recalls tree session.layout session.config (session.fresh tree).Known) {p : Path}
    (hp : p ∈ (session.fresh tree).strays) :
    (last.site tree).place p = (session.fresh tree).place p := by
  have hcontent := content_of_stray hground h hp
  have hsite : (last.site tree).content p = (session.fresh tree).content p := hcontent
  unfold Site.place Site.orphanSection Site.url
  rw [hsite, h.site_eq]
  rfl

theorem grounded_fresh {docs root : Path} (hroot : Project.resolveRoot tree docs = .ok root)
    (hlayout : session.layout = Layout.ofRoot root session.config)
    (hplain : session.config.IsPlain) :
    ∃ rootNames inside, (session.fresh tree).Grounded rootNames inside := by
  obtain ⟨rootNames, inside, rfl, hentry⟩ := Project.resolveRoot_ok hroot
  exact ⟨rootNames, inside, ⟨hlayout, hentry⟩, hplain⟩

/-- With all orphans placed, a table of contents is made of every source file below the root that is
not missed: each is the document of one record or one orphan, and each record and each orphan has one
item in one section. -/
theorem partition_generateContents {docs root : Path}
    (hroot : Project.resolveRoot tree docs = .ok root)
    (hlayout : session.layout = Layout.ofRoot root session.config)
    (hplain : session.config.IsPlain) (hdir : tree.isDir root = true) :
    ∃ corpus report, (session.discover tree).ending = .done corpus ∧
      (session.generateContents tree false).ending = .done report ∧
      (∀ p ∈ tree.sources session.config root,
        corpus.records.countP (fun r => p.same r.path) + report.orphans.countP p.same =
          if (session.fresh tree).isMissed p then 0 else 1) ∧
      report.contents.items.Perm (corpus.records.map Record.item ++
        report.orphans.map fun p => ((session.fresh tree).place p).item) ∧
      report.contents.keys.Nodup := by
  obtain ⟨rootNames, inside, hground⟩ := grounded_fresh hroot hlayout hplain
  have hopen : tree.isDir session.layout.root = true := by
    rw [hlayout]
    exact hdir
  obtain ⟨links, toctrees, last, hsurvey, hrecalls⟩ :=
    exists_surveyed hopen hplain.suffix_noSlash
  have hending := hsurvey.generateContents false
  have horphans := orphans_site hrecalls
    (Site.knownUrls (session.fresh tree).corpus toctrees.issuesOnly)
  refine ⟨_, _, hsurvey.discovered, hending, ?_, ?_, ?_⟩
  · intro p hp
    have hsources : p ∈ (session.fresh tree).allSources := by
      rw [show (session.fresh tree).allSources = tree.sources session.config session.layout.root
        from rfl, hlayout]
      exact hp
    rw [← hground.countP_places toctrees.issues hsources]
    exact congrArg (_ + List.countP p.same ·) horphans
  · refine Site.items_contents.trans (List.Perm.of_eq ?_)
    congr 1
    apply List.map_congr_left
    intro p hp
    have hstray : p ∈ (session.fresh tree).strays :=
      Site.orphans_subset_strays _ _ (by rw [← horphans]; exact hp)
    rw [place_of_stray hground hrecalls hstray]
  · exact Site.nodup_keys_contents

end Session

/-- A document of the user and an orphan. -/
def plainDocs : Tree where
  root := (Listing.nil.plantAt ["docs", "user_docs", "a.md"] (.file "# A".toUTF8)).plantAt
    ["docs", "g.md"] (.file "# G".toUTF8)
  wellFormed := by decide +kernel

theorem usual_isPlain : Session.usual.config.IsPlain where
  dirs := by decide +kernel
  suffix_ne := by decide
  suffix_noSlash := by decide

/-- The document is one record and the orphan is one orphan. -/
theorem partition_plainDocs :
    ∃ corpus report, (Session.usual.discover plainDocs).ending = .done corpus ∧
      (Session.usual.generateContents plainDocs false).ending = .done report ∧
      (∀ p ∈ plainDocs.sources {} ⟨"/docs"⟩,
        corpus.records.countP (fun r => p.same r.path) + report.orphans.countP p.same = 1) ∧
      report.contents.keys.Nodup := by
  have hroot : Project.resolveRoot plainDocs ⟨"docs"⟩ = .ok ⟨"/docs"⟩ := by rfl
  have hlayout : Session.usual.layout = Layout.ofRoot ⟨"/docs"⟩ Session.usual.config := rfl
  have hdir : plainDocs.isDir ⟨"/docs"⟩ = true := by decide +kernel
  have hplaced : ∀ p ∈ plainDocs.sources {} ⟨"/docs"⟩,
      (Session.usual.fresh plainDocs).isMissed p = false := by
    decide +kernel
  obtain ⟨corpus, report, hcorpus, hreport, hcount, -, hkeys⟩ :=
    Session.partition_generateContents hroot hlayout usual_isPlain hdir
  refine ⟨corpus, report, hcorpus, hreport, fun p hp => ?_, hkeys⟩
  rw [hcount p hp, hplaced p hp]
  rfl

/-- A declared directory called as the orphan is under the output suffix, with a document that has a
single dot as its stem. -/
def shadowingDocs : Tree where
  root := (Listing.nil.plantAt ["docs", "guide.html", "..md"] (.file "# A".toUTF8)).plantAt
    ["docs", "guide.md"] (.file "# G".toUTF8)
  wellFormed := by decide +kernel

/-- A session of the documentation with that directory declared. -/
def shadowingSession : Session :=
  ⟨Layout.ofRoot ⟨"/docs"⟩ { userDocs := "guide.html" }, { userDocs := "guide.html" }, []⟩

/-- The orphan is the document of no record and of no orphan. -/
theorem shadowed_document_missed :
    ∃ corpus report, (shadowingSession.discover shadowingDocs).ending = .done corpus ∧
      (shadowingSession.generateContents shadowingDocs false).ending = .done report ∧
      ∃ p ∈ shadowingDocs.sources shadowingSession.config ⟨"/docs"⟩,
        corpus.records.countP (fun r => p.same r.path) + report.orphans.countP p.same = 0 := by
  have hcorpus : (shadowingSession.discover shadowingDocs).ending.any (fun corpus =>
      corpus.records.countP (fun r => (Path.mk "/docs/guide.md").same r.path) == 0) = true := by
    decide +kernel
  have hreport : (shadowingSession.generateContents shadowingDocs false).ending.any (fun report =>
      report.orphans == []) = true := by
    decide +kernel
  obtain ⟨corpus, hdiscover, hnone⟩ := Ending.any_eq_true.1 hcorpus
  obtain ⟨report, hgenerate, hempty⟩ := Ending.any_eq_true.1 hreport
  refine ⟨corpus, report, hdiscover, hgenerate, ⟨"/docs/guide.md"⟩, by decide +kernel, ?_⟩
  rw [beq_iff_eq] at hnone hempty
  rw [hnone, hempty]
  rfl

end DocAtlas
