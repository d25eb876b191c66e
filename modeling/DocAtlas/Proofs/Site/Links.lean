import DocAtlas.Site.References
import DocAtlas.Proofs.Path.Spelling

/-! # Links of a corpus

The links of a corpus are gathered reference by reference: an address is linked to exactly if some
reference was found to lead to it.

* `Links.Has` — whether a document links to an address
* `Links.has_add`, `Links.has_foldl` — what one more reference adds, and what all of them add
* `Site.has_linkReport` — the links of a corpus are the references with the address of a document
-/

set_option autoImplicit false

namespace DocAtlas

namespace Links

/-- Whether a document links to an address. -/
def Has (links : Links) (source : Path) (url : String) : Prop :=
  ∃ l ∈ links, l.source.same source = true ∧ url ∈ l.urls

variable {links : Links} {source s : Path} {url u : String}

theorem not_has_nil : ¬ Has [] s u := by
  rintro ⟨l, hl, -⟩
  cases hl

theorem has_cons {l : DocumentLinks} :
    Has (l :: links) s u ↔ (l.source.same s = true ∧ u ∈ l.urls) ∨ links.Has s u := by
  unfold Has
  simp only [List.mem_cons, or_and_right, exists_or, exists_eq_left]

theorem has_add : (links.add source url).Has s u ↔
    links.Has s u ∨ (source.same s = true ∧ u = url) := by
  unfold add
  induction links with
  | nil =>
    rw [update, has_cons, TextSet.mem_insert]
    simp [not_has_nil]
  | cons l rest ih =>
    rw [update]
    split
    · rename_i hsame
      rw [has_cons, has_cons, TextSet.mem_insert, Path.same_congr hsame s]
      tauto
    · split
      · rw [has_cons, TextSet.mem_insert]
        simp only [TextSet.not_mem_empty, or_false]
        exact or_comm
      · rw [has_cons, has_cons, ih]
        exact or_assoc.symm

theorem has_foldl {checks : List ReferenceCheck} :
    Has (checks.foldl ReferenceCheck.addLink links) s u ↔ links.Has s u ∨
      ∃ check ∈ checks, check.source.same s = true ∧ check.verdict = .link u := by
  induction checks generalizing links with
  | nil => simp
  | cons check rest ih =>
    have hone : Has (check.addLink links) s u ↔ links.Has s u ∨
        (check.source.same s = true ∧ check.verdict = .link u) := by
      unfold ReferenceCheck.addLink
      cases hverdict : check.verdict with
      | link url =>
        rw [Verdict.link.injEq, eq_comm (a := url)]
        exact has_add
      | asset => simp
      | nothing => simp
    rw [List.foldl_cons, ih, hone, or_assoc]
    simp only [List.mem_cons, or_and_right, exists_or, exists_eq_left]

end Links

namespace Site

variable {site : Site} {s : Path} {u : String}

theorem verdict_check {record : Record} {reference : String} :
    (site.check site.documentUrls record reference).verdict = .link u ↔
      site.layout.referenceUrl (site.candidate (site.baseOf record.path) reference)
          site.config.outputSuffix = u ∧ ∃ d ∈ site.allSources, site.url d = u := by
  unfold check
  simp only
  have hmem : ∀ v, site.documentUrls.contains v = true ↔ ∃ d ∈ site.allSources, site.url d = v := by
    intro v
    rw [documentUrls, TextSet.contains_iff, TextSet.mem_ofList, List.mem_map]
  split
  · rename_i hcontains
    rw [Verdict.link.injEq]
    constructor
    · rintro rfl
      exact ⟨rfl, (hmem _).1 hcontains⟩
    · exact And.left
  · rename_i hcontains
    have hnone : ¬ (site.layout.referenceUrl (site.candidate (site.baseOf record.path) reference)
        site.config.outputSuffix = u ∧ ∃ d ∈ site.allSources, site.url d = u) := by
      rintro ⟨rfl, hd⟩
      exact hcontains ((hmem _).2 hd)
    refine iff_of_false ?_ hnone
    split <;> simp

theorem has_linkReport {corpus : Corpus} :
    (site.linkReport corpus).links.Has s u ↔ ∃ r ∈ corpus.records, ∃ t ∈ r.references,
      (site.layout.relative r.path).same s = true ∧
        site.layout.referenceUrl (site.candidate (site.baseOf r.path) t)
          site.config.outputSuffix = u ∧ ∃ d ∈ site.allSources, site.url d = u := by
  unfold linkReport checks
  simp only
  rw [Links.has_foldl]
  constructor
  · rintro (hnil | ⟨check, hcheck, hsource, hverdict⟩)
    · exact absurd hnil Links.not_has_nil
    · obtain ⟨r, hr, hmem⟩ := List.mem_flatMap.1 hcheck
      obtain ⟨t, ht, rfl⟩ := List.mem_map.1 hmem
      exact ⟨r, hr, t, ht, hsource, verdict_check.1 hverdict⟩
  · rintro ⟨r, hr, t, ht, hsource, hlink⟩
    refine Or.inr ⟨site.check site.documentUrls r t, ?_, hsource, verdict_check.2 hlink⟩
    exact List.mem_flatMap.2 ⟨r, hr, List.mem_map_of_mem ht⟩

end Site

end DocAtlas
