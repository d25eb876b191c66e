import DocAtlas.Proofs.Path.Parent
import DocAtlas.Proofs.Site.Agreement
import DocAtlas.Proofs.Site.LinkSoundness
import DocAtlas.Proofs.Tree.Reading

/-! # Which references a check looks at

A check resolves the references of records, so it says nothing of a document without one. Of every
other document all references are looked at, and where the exit code is not 2 each leads somewhere.

* `Site.resolves` — whether a candidate is a document or a file
* `Site.covers` — whether the references of a document are those of a record
* `Site.mem_issues_linkReport`, `Site.issues_linkReport_eq_nil` — which references are reported, and
  when none is
* `Run.check_covers` — what the exit code says of the references of a document
-/

set_option autoImplicit false

namespace DocAtlas

namespace Site

/-- Whether a candidate has the address of a document or is a file, as it stands or with any
extension. -/
def resolves (site : Site) (c : Path) : Bool :=
  site.documentUrls.contains (site.layout.referenceUrl c site.config.outputSuffix) ||
    site.existsWithAnyExtension c

/-- Whether a document is that of a record, with a content that was read. -/
def covers (site : Site) (p : Path) : Bool :=
  site.corpus.records.any fun r => p.same r.path && (site.content r.path).isSome

variable {site : Site} {rootNames : List String} {inside : Listing} {p q c : Path}

theorem resolves_iff : site.resolves c = true ↔
    (∃ d ∈ site.allSources, site.url d = site.layout.referenceUrl c site.config.outputSuffix) ∨
      site.existsWithAnyExtension c = true := by
  rw [resolves, Bool.or_eq_true, documentUrls, TextSet.contains_iff, TextSet.mem_ofList, List.mem_map]

/-! ## Reported references -/

theorem issue?_check {r : Record} {t : String} :
    (site.check site.documentUrls r t).issue? = none ↔ site.resolves (site.candidateOf r t) = true := by
  unfold ReferenceCheck.issue? check resolves candidateOf
  simp only [Bool.or_eq_true]
  split
  · rename_i hverdict
    split at hverdict
    · cases hverdict
    · rename_i hdocument
      split at hverdict
      · cases hverdict
      · rename_i hfile
        simp [hdocument, hfile]
  · rename_i hverdict
    refine iff_of_true rfl ?_
    by_contra hnone
    rw [not_or] at hnone
    exact hverdict (by rw [if_neg hnone.1, if_neg hnone.2])

theorem mem_issues_linkReport {corpus : Corpus} {issue : Issue} :
    issue ∈ (site.linkReport corpus).issues ↔
      ∃ r ∈ corpus.records, ∃ t ∈ r.references, site.resolves (site.candidateOf r t) = false ∧
        issue = .unresolvedReference (site.layout.relative r.path) t := by
  have hcheck : ∀ r t, (site.check site.documentUrls r t).issue? = some issue ↔
      site.resolves (site.candidateOf r t) = false ∧
        issue = .unresolvedReference (site.layout.relative r.path) t := by
    intro r t
    have hsource : (site.check site.documentUrls r t).source = site.layout.relative r.path := rfl
    have hreference : (site.check site.documentUrls r t).reference = t := rfl
    rw [← Bool.not_eq_true, ← issue?_check]
    unfold ReferenceCheck.issue?
    rw [hsource, hreference]
    split
    · simp [eq_comm]
    · simp
  unfold linkReport checks
  simp only [List.mem_filterMap, List.mem_flatMap, List.mem_map]
  constructor
  · rintro ⟨_, ⟨r, hr, t, ht, rfl⟩, hissue⟩
    exact ⟨r, hr, t, ht, (hcheck r t).1 hissue⟩
  · rintro ⟨r, hr, t, ht, hissue⟩
    exact ⟨_, ⟨r, hr, t, ht, rfl⟩, (hcheck r t).2 hissue⟩

theorem issues_linkReport_eq_nil {corpus : Corpus} :
    (site.linkReport corpus).issues = [] ↔
      ∀ r ∈ corpus.records, ∀ t ∈ r.references, site.resolves (site.candidateOf r t) = true := by
  rw [List.eq_nil_iff_forall_not_mem]
  constructor
  · intro h r hr t ht
    by_contra hfalse
    exact h _ (mem_issues_linkReport.2 ⟨r, hr, t, ht, by simpa using hfalse, rfl⟩)
  · intro h issue hissue
    obtain ⟨r, hr, t, ht, hfalse, -⟩ := mem_issues_linkReport.1 hissue
    rw [h r hr t ht] at hfalse
    cases hfalse

/-! ## Documents and their records -/

theorem candidate_congr {dir other : Path} (hdir : dir.isAbsolute = true)
    (h : dir.components = other.components) (t : String) :
    site.candidate dir t = site.candidate other t := by
  unfold candidate
  split
  · rfl
  · rename_i hslash
    have hrelative : (Path.mk t).isAbsolute = false := by
      by_contra habs
      obtain ⟨rest, hrest⟩ := (Path.isAbsolute_iff _).1 (by simpa using habs)
      exact hslash rest hrest
    have hother : other.isAbsolute = true :=
      Path.isAbsolute_of_components (h ▸ Path.components_of_absolute hdir)
    apply Path.normalize_congr
    rw [Path.components_join hdir hrelative, Path.components_join hother hrelative, h]

/-- The directories of two spellings of a path have the same components. -/
theorem baseOf_congr (hp : p.isAbsolute = true) (h : p.same q = true) :
    (site.baseOf p).components = (site.baseOf q).components := by
  rw [Path.same_iff] at h
  have hroot := Path.components_of_absolute hp
  rcases List.eq_nil_or_concat' (p.segments.filterMap Component.ofSegment) with hnil | ⟨front, c, hcat⟩
  · rw [hnil] at hroot
    have hnone : ∀ x : Path, x.components = [.root] → x.parent = none := by
      intro x hx
      rw [Path.parent, hx]
      rfl
    rw [baseOf, baseOf, hnone p hroot, hnone q (h ▸ hroot)]
  · rw [hcat] at hroot
    obtain ⟨dir, hdir, hfront⟩ := Path.exists_parent hroot
    obtain ⟨other, hother, hback⟩ := Path.exists_parent (h ▸ hroot)
    rw [baseOf, baseOf, hdir, hother, Option.getD_some, Option.getD_some, hfront, hback]

theorem candidate_of_same (hroot : site.layout.root.isAbsolute = true) (hp : p.isAbsolute = true)
    (h : p.same q = true) (t : String) :
    site.candidate (site.baseOf p) t = site.candidate (site.baseOf q) t :=
  candidate_congr (isAbsolute_baseOf hroot hp) (baseOf_congr hp h) t

theorem ofPath_of_same (h : p.same q = true) : Markup.ofPath p = Markup.ofPath q := by
  have hname : p.fileName = q.fileName := by
    rw [Path.fileName, Path.fileName, Path.same_iff.1 h]
  unfold Markup.ofPath Path.extension
  rw [hname]

/-- A document that is read in two spellings has one text. -/
theorem Rooted.source?_of_same (h : site.Rooted rootNames inside) (hp : p ∈ site.allSources)
    {dir : Path} (habs : dir.isAbsolute = true) (hdir : site.tree.isDir dir = true)
    (hq : q ∈ site.sources dir) (hsame : p.same q = true) {text other : String}
    (htext : site.tree.source? p = some text) (hother : site.tree.source? q = some other) :
    other = text := by
  obtain ⟨folders, name, hsource, rfl, hspells⟩ := h.mem_allSources hp
  obtain ⟨within, hentry⟩ := Tree.entry?_of_isDir hdir
  obtain ⟨between, last, hlast, rfl⟩ := (Tree.mem_sources_iff hentry).1 hq
  obtain ⟨bytes, hfile⟩ := hsource.file
  have hnames := hsource.isName h.wellFormed_inside
  have hbytes : site.tree.root.entryAt? (rootNames ++ folders ++ [name]) = some (.file bytes) := by
    rw [List.append_assoc, Listing.entryAt?_append _ h.dir, hfile]
  have hlastName : IsName last := hlast.isName (Tree.wellFormed_of_present hentry) last (by simp)
  -- both spellings go along the same names to the same directory
  have hother' := (Path.same_iff.1 hsame).symm.trans hspells
  rw [← List.append_assoc] at hother'
  obtain ⟨hbase, rfl⟩ := Path.Spells.of_child (Path.isAbsolute_below habs between) hlastName hother'
  rw [Tree.source?_child (h.folder_spells hnames) hbytes] at htext
  rw [Tree.source?_child hbase hbytes] at hother
  split at htext
  · cases htext
  · split at hother
    · cases hother
    · rw [htext] at hother
      exact (Option.some.inj hother).symm

theorem references_of_record {r : Record} (hr : r ∈ site.corpus.records) {text : String}
    (htext : site.content r.path = some text) :
    r.references = Reference.ofContent (Markup.ofPath r.path) text := by
  obtain ⟨f, -, rfl⟩ := mem_records.1 hr
  rw [path_record] at htext ⊢
  rw [record, htext]
  rfl

/-- The references of a document that is covered are those of a record. -/
theorem Rooted.exists_record (h : site.Rooted rootNames inside) (hread : site.content = site.tree.source?)
    (hp : p ∈ site.allSources) {text : String} (htext : site.tree.source? p = some text)
    (hcovers : site.covers p = true) :
    ∃ r ∈ site.corpus.records, r.references = Reference.ofContent (Markup.ofPath p) text ∧
      ∀ t, site.candidateOf r t = site.candidate (site.baseOf p) t := by
  rw [covers, List.any_eq_true] at hcovers
  obtain ⟨r, hr, hsame⟩ := hcovers
  rw [Bool.and_eq_true, Option.isSome_iff_exists] at hsame
  obtain ⟨hsame, other, hother⟩ := hsame
  have hreferences := references_of_record hr hother
  refine ⟨r, hr, ?_, fun t =>
    (candidate_of_same h.root_spells.isAbsolute (h.isAbsolute_source hp) hsame t).symm⟩
  obtain ⟨f, hf, rfl⟩ := mem_records.1 hr
  obtain ⟨declared, hd, hdir, q, hq, rfl⟩ := mem_allFinds.1 (mem_allFinds_of_mem_kept hf)
  have habs := h.isAbsolute_declared hd
  rw [path_record, path_find] at hsame hother hreferences
  rw [hread] at hother
  rw [hreferences, ofPath_of_same hsame,
    h.source?_of_same hp habs hdir hq hsame htext hother]

end Site

namespace Findings

/-- A check that is done made a survey, and its issues are those of the survey. -/
theorem exists_survey {tree : Tree} {session : Session} {findings : Findings}
    (h : (find tree session).ending = .done findings) :
    ∃ corpus links toctrees last, session.Surveyed tree corpus links toctrees last ∧
      findings.issues = toctrees.issues ++ links.issues := by
  obtain ⟨corpus, hcorpus, h⟩ := Outcome.andThen_done h
  obtain ⟨links, hlinks, h⟩ := Outcome.andThen_done h
  obtain ⟨toctrees, htoctrees, h⟩ := Outcome.andThen_done h
  obtain ⟨orphans, -, h⟩ := Outcome.andThen_done h
  obtain ⟨placements, -, h⟩ := Outcome.andThen_done h
  cases h
  exact ⟨corpus, links, toctrees, _, ⟨hcorpus, hlinks, htoctrees, rfl⟩, rfl⟩

theorem code_eq_two_iff {findings : Findings} : findings.code = 2 ↔ findings.issues ≠ [] := by
  unfold code
  split
  · simp_all
  · split <;> simp_all

end Findings

namespace Run

theorem check_of_aborted {tree : Tree} {docs : Option Path} {layout : Layout} {config : Config}
    (hopen : (Project.openDocs tree docs).result = .ok (layout, config))
    (hfind : (Findings.find tree ⟨layout, config, []⟩).ending = .aborted) :
    (check tree docs).ending = .aborted := by
  unfold check ofSession
  simp only [hopen, hfind]

/-- The exit codes 0 and 1 are those of a check that is done and has no issues. -/
theorem exists_findings {tree : Tree} {docs : Option Path} {layout : Layout} {config : Config}
    (hopen : (Project.openDocs tree docs).result = .ok (layout, config))
    (hcode : (check tree docs).code = 0 ∨ (check tree docs).code = 1) :
    ∃ findings, (Findings.find tree ⟨layout, config, []⟩).ending = .done findings ∧
      findings.issues = [] := by
  cases hfind : (Findings.find tree ⟨layout, config, []⟩).ending with
  | done findings =>
    refine ⟨findings, rfl, ?_⟩
    by_contra hissues
    rw [(check_of_done hopen hfind).1, Findings.code_eq_two_iff.2 hissues] at hcode
    omega
  | failed fault =>
    rw [code, check_of_failed hopen hfind] at hcode
    simp [failureCode] at hcode
  | aborted =>
    rw [code, check_of_aborted hopen hfind] at hcode
    simp [abortCode] at hcode

/-- Where a check ends in 0 or 1, the references of records lead somewhere. -/
theorem resolves_of_check {tree : Tree} {docs : Option Path} {layout : Layout} {config : Config}
    (hopen : (Project.openDocs tree docs).result = .ok (layout, config))
    (hcode : (check tree docs).code = 0 ∨ (check tree docs).code = 1) :
    ∀ r ∈ (Site.ofTree tree layout config).corpus.records, ∀ t ∈ r.references,
      (Site.ofTree tree layout config).resolves ((Site.ofTree tree layout config).candidateOf r t) =
        true := by
  obtain ⟨findings, hfind, hnone⟩ := exists_findings hopen hcode
  obtain ⟨corpus, links, toctrees, last, hsurvey, hissues⟩ := Findings.exists_survey hfind
  have hlinks : links.issues = [] := (List.append_eq_nil_iff.1 (hissues.symm.trans hnone)).2
  have hreport := Session.report_of_resolved hsurvey.discovered hsurvey.resolved
  obtain ⟨rfl, -⟩ := Session.discover_done hsurvey.discovered
  rw [hreport] at hlinks
  exact Site.issues_linkReport_eq_nil.1 hlinks

/-- Where a check ends in 0 or 1, each reference of a document that is covered leads to a document or
a file. -/
theorem check_covers {tree : Tree} {docs : Option Path} {layout : Layout} {config : Config}
    (hopen : (Project.openDocs tree docs).result = .ok (layout, config))
    (hcode : (check tree docs).code = 0 ∨ (check tree docs).code = 1) {p : Path}
    (hp : p ∈ tree.sources config layout.root) {text : String}
    (htext : tree.source? p = some text)
    (hcovers : (Site.ofTree tree layout config).covers p = true) :
    ∀ t ∈ Reference.ofContent (Markup.ofPath p) text,
      let site := Site.ofTree tree layout config
      let candidate := site.candidate (site.baseOf p) t
      (∃ d ∈ site.allSources,
          site.url d = site.layout.referenceUrl candidate site.config.outputSuffix) ∨
        site.existsWithAnyExtension candidate = true := by
  intro t ht
  obtain ⟨rootNames, inside, hrooted⟩ := Project.exists_rooted hopen
  obtain ⟨r, hr, hreferences, hcandidate⟩ := hrooted.exists_record rfl hp htext hcovers
  rw [← hreferences] at ht
  have hresolves := resolves_of_check hopen hcode r hr t ht
  rw [hcandidate] at hresolves
  exact Site.resolves_iff.1 hresolves

end Run

/-- In `linkedDocs` the reference of `a.md` leads to a document. -/
theorem check_covers_linkedDocs :
    (Run.check linkedDocs (some ⟨"docs"⟩)).code = 0 ∧
      ∀ t ∈ Reference.ofContent (Markup.ofPath ⟨"/docs/user_docs/a.md"⟩) "[b](b.md)",
        let site := Site.ofTree linkedDocs Session.usual.layout Session.usual.config
        let candidate := site.candidate (site.baseOf ⟨"/docs/user_docs/a.md"⟩) t
        (∃ d ∈ site.allSources,
            site.url d = site.layout.referenceUrl candidate site.config.outputSuffix) ∨
          site.existsWithAnyExtension candidate = true := by
  have hopen : (Project.openDocs linkedDocs (some ⟨"docs"⟩)).result =
      .ok (Session.usual.layout, Session.usual.config) := by
    decide +kernel
  have hcode : (Run.check linkedDocs (some ⟨"docs"⟩)).code = 0 := by decide +kernel
  have hsource : ⟨"/docs/user_docs/a.md"⟩ ∈
      linkedDocs.sources Session.usual.config Session.usual.layout.root := by
    decide +kernel
  have htext : linkedDocs.source? ⟨"/docs/user_docs/a.md"⟩ = some "[b](b.md)" := by decide +kernel
  have hcovers : (Site.ofTree linkedDocs Session.usual.layout Session.usual.config).covers
      ⟨"/docs/user_docs/a.md"⟩ = true := by
    decide +kernel
  exact ⟨hcode, Run.check_covers hopen (Or.inl hcode) hsource htext hcovers⟩

/-- A master document without a record. -/
def masterDocs : Tree where
  root := Listing.nil.plantAt ["docs", "index.md"] (.file "[x](missing)".toUTF8)
  wellFormed := by decide +kernel

/-- The check ends in 0, though the reference of the master document leads nowhere. -/
theorem master_reference_not_checked :
    (Project.openDocs masterDocs (some ⟨"docs"⟩)).result =
        .ok (Session.usual.layout, Session.usual.config) ∧
      (Run.check masterDocs (some ⟨"docs"⟩)).code = 0 ∧
      ⟨"/docs/index.md"⟩ ∈ masterDocs.sources {} ⟨"/docs"⟩ ∧
      masterDocs.source? ⟨"/docs/index.md"⟩ = some "[x](missing)" ∧
      "missing" ∈ Reference.ofContent .markdown "[x](missing)" ∧
      let site := Session.usual.fresh masterDocs
      let candidate := site.candidate (site.baseOf ⟨"/docs/index.md"⟩) "missing"
      (∀ d ∈ site.allSources,
          site.url d ≠ site.layout.referenceUrl candidate site.config.outputSuffix) ∧
        site.existsWithAnyExtension candidate = false := by
  refine ⟨by decide +kernel, by decide +kernel, by decide +kernel, by decide +kernel, ?_, ?_⟩
  · rw [TextSet.mem_def]
    decide +kernel
  · decide +kernel

end DocAtlas
