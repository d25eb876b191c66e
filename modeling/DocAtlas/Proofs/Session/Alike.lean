import DocAtlas.Command.Check
import DocAtlas.Proofs.Session.Survey
import DocAtlas.Proofs.Site.Alike

/-! # A check in two trees

A session that looks at two trees which look alike ends each operation alike in both, and remembers the
same. What it logs may differ: a document that cannot be read may be unreadable for another reason.

* `Outcome.Same` — the same ending and the same session behind it
* `Session.settle_same` — the same events have the same outcome if what is read is the same
* `Site.LeadsAlike` — references, toctree entries and the root document lead to the same in both trees
* `Findings.find_same` — a check finds the same
-/

set_option autoImplicit false

namespace DocAtlas

/-! ## Outcomes -/

/-- Two outcomes with the same ending and the same session behind it, whatever they log. -/
structure Outcome.Same {α : Type} (first second : Outcome α) : Prop where
  ending_eq : first.ending = second.ending
  session_eq : first.session = second.session

/-- Outcomes stay the same if what is done behind them is the same. -/
theorem Outcome.Same.andThen {α β : Type} {first second : Outcome α}
    {next others : α → Session → Outcome β} (h : first.Same second)
    (hnext : ∀ value, first.ending = .done value →
      (next value first.session).Same (others value first.session)) :
    (first.andThen next).Same (second.andThen others) := by
  unfold Outcome.andThen
  rw [← h.ending_eq, ← h.session_eq]
  cases hending : first.ending with
  | done value => exact ⟨(hnext value hending).ending_eq, (hnext value hending).session_eq⟩
  | failed fault => exact ⟨rfl, rfl⟩
  | aborted => exact ⟨rfl, rfl⟩

namespace Session

variable {tree other : Tree} {α : Type}

theorem settleFrom_eq {events : List Event}
    (hread : ∀ p, .read p ∈ events → other.source? p = tree.source? p) (addressing : Bool)
    (memory : Memory) :
    (settleFrom other addressing memory events).2 = (settleFrom tree addressing memory events).2 := by
  induction events generalizing memory with
  | nil => rfl
  | cons event rest ih =>
    have hrest := ih fun p hp => hread p (List.mem_cons_of_mem event hp)
    cases event with
    | log entry => exact hrest memory
    | read p =>
      have hremember : (remember other memory p).2 = (remember tree memory p).2 := by
        unfold remember
        rw [hread p List.mem_cons_self]
        split <;> rfl
      simp only [settleFrom]
      rw [hremember, hrest]
    | address p =>
      simp only [settleFrom]
      split
      · exact hrest memory
      · rfl

/-- The same events and the same value have the same outcome in two trees in which what is read is the
same. -/
theorem settle_same {events others : List Event} {value v : α} (session : Session)
    (hevents : others = events) (hvalue : v = value)
    (hread : ∀ p, .read p ∈ events → other.source? p = tree.source? p) :
    (session.settle tree events value).Same (session.settle other others v) := by
  subst hevents hvalue
  have hbehind := settleFrom_eq hread (canAddress session.config) session.memory
  unfold settle
  constructor
  · simp only [hbehind]
  · simp only [hbehind]

end Session

theorem Site.mem_allSources_of_mem_orphans {site : Site} {tracked : TextSet} {p : Path}
    (h : p ∈ site.orphans tracked) : p ∈ site.allSources := by
  unfold Site.orphans Site.strays at h
  exact (List.mem_filter.1 (List.mem_filter.1 h).1).1

/-! ## Where references lead -/

/-- Which documents are read does not depend on what they say. -/
theorem Site.known_of_content {site : Site} {content : Path → Option String} {p : Path}
    (h : { site with content := content }.Known p) : site.Known p := by
  unfold Site.Known at h ⊢
  rw [Site.kept_eq] at h ⊢
  exact h

/-- References that name no document, toctree entries and the root document lead to the same in both
trees. -/
structure Site.LeadsAlike (site : Site) (other : Tree) : Prop where
  files : ∀ check ∈ site.checks site.corpus, (∀ url, check.verdict ≠ .link url) →
    (site.within other other.source?).existsWithAnyExtension check.candidate =
      site.existsWithAnyExtension check.candidate
  master : (site.within other other.source?).master? = site.master?
  entries : ∀ p ∈ site.allSources, ∀ d, site.Known d → p.same d = true →
    ∀ text, site.content d = some text → ∀ t ∈ Toctree.entries (Markup.ofPath p) text,
      (site.within other other.source?).existingSource? (site.candidate (site.baseOf p) t) =
        site.existingSource? (site.candidate (site.baseOf p) t)

namespace Session

variable {session : Session} {tree other : Tree} {layout : Layout} {config : Config}

/-- What is remembered of a document is the text of one with its components. -/
theorem Recalls.exists_source {known : Path → Prop} (h : session.Recalls tree layout config known)
    {p : Path} (hp : known p) {text : String} (htext : session.content tree p = some text) :
    ∃ d, known d ∧ p.same d = true ∧ tree.source? d = some text := by
  cases hfind : List.find? (fun entry => p.same entry.1) session.memory with
  | none =>
    rw [content, Memory.find?, hfind] at htext
    exact ⟨p, hp, Path.same_refl p, htext⟩
  | some entry =>
    obtain ⟨hcontent, hknown, hsame⟩ := h.content_of_find? hfind
    exact ⟨entry.1, hknown, hsame, hcontent.symm.trans htext⟩

/-- Trees that look alike look alike to a session that remembers documents of the one. -/
theorem Recalls.alike
    (h : session.Recalls tree layout config (Site.ofTree tree layout config).Known)
    (halike : (Site.ofTree tree layout config).Alike other other.source?) :
    (session.site tree).Alike other (session.content other) := by
  rw [h.site_eq]
  refine { halike with content_eq := fun p hp => ?_ }
  have hsource : other.source? p = tree.source? p :=
    halike.content_eq p (Site.known_of_content hp)
  show session.content other p = session.content tree p
  rw [content, content, hsource]

theorem Recalls.findOrphans {known : Path → Prop} (h : session.Recalls tree layout config known)
    (tracked : TextSet) : (session.findOrphans tree tracked).session.Recalls tree layout config known :=
  h.settle (fun _ hp => absurd hp (Site.not_read_mem_orphanEvents tracked)) _

theorem Recalls.place {known : Path → Prop} (h : session.Recalls tree layout config known) {p : Path}
    (hp : known p) : (session.place tree p).session.Recalls tree layout config known :=
  h.settle (fun _ hq => Site.read_mem_placeEvents hq ▸ hp) _

/-! ## The operations of a check -/

variable (halike : (session.fresh tree).Alike other other.source?)

include halike

theorem discover_same (hroot : other.isDir session.layout.root = tree.isDir session.layout.root) :
    (session.discover tree).Same (session.discover other) := by
  cases hdir : tree.isDir session.layout.root with
  | false =>
    rw [discover_of_not_isDir hdir, discover_of_not_isDir (hroot.trans hdir)]
    exact ⟨rfl, rfl⟩
  | true =>
    rw [discover_of_isDir hdir, discover_of_isDir (hroot.trans hdir)]
    exact settle_same _ halike.corpusEvents_eq halike.corpus_eq
      fun p hp => halike.content_eq p (Or.inl (Site.read_mem_corpusEvents hp))

variable {last : Session}
  (h : last.Recalls tree session.layout session.config (session.fresh tree).Known)

include h

theorem resolve_same (hleads : (session.fresh tree).LeadsAlike other) :
    (last.resolve tree (session.fresh tree).corpus).Same
      (last.resolve other (session.fresh tree).corpus) := by
  have hsite := h.alike halike
  have hchecks : ((last.site tree).within other (last.content other)).checks
      (session.fresh tree).corpus = (last.site tree).checks (session.fresh tree).corpus := by
    refine hsite.checks_eq ?_
    rw [h.site_eq]
    exact hleads.files
  have hevents := hsite.linkEvents_eq hchecks
  have hreport := Site.Alike.linkReport_eq hchecks
  unfold resolve
  exact settle_same _ hevents hreport fun p hp => absurd hp (Site.not_read_mem_linkEvents _)

theorem loadToctrees_same (hleads : (session.fresh tree).LeadsAlike other) :
    (last.loadToctrees tree).Same (last.loadToctrees other) := by
  have hsite := h.alike halike
  have hsources := sources_site h
  have hentries : ∀ p ∈ (last.site tree).allSources,
      ((last.site tree).within other (last.content other)).entryChecks p =
        (last.site tree).entryChecks p := by
    intro p hp
    refine hsite.entryChecks_eq hp fun text htext t ht => ?_
    rw [hsources] at hp
    obtain ⟨d, hd, hsame, hsource⟩ := h.exists_source (Or.inr hp) htext
    have hentry := hleads.entries p hp d hd hsame text hsource t ht
    rw [h.site_eq]
    exact hentry
  have hmaster : ((last.site tree).within other (last.content other)).master? =
      (last.site tree).master? := by
    rw [h.site_eq]
    exact hleads.master
  have hevents := hsite.toctreeEvents_eq hentries hmaster
  have hreport := hsite.toctreeReport_eq hentries hmaster
  unfold loadToctrees
  refine settle_same _ hevents hreport fun p hp => ?_
  have hmem := Site.read_mem_toctreeEvents hp
  rw [hsources] at hmem
  exact halike.content_eq p (Or.inr hmem)

theorem findOrphans_same (tracked : TextSet) :
    (last.findOrphans tree tracked).Same (last.findOrphans other tracked) := by
  have hsite := h.alike halike
  unfold findOrphans
  exact settle_same _ (hsite.orphanEvents_eq tracked) (hsite.orphans_eq tracked)
    fun p hp => absurd hp (Site.not_read_mem_orphanEvents tracked)

theorem place_same {p : Path} (hp : p ∈ (session.fresh tree).allSources) :
    (last.place tree p).Same (last.place other p) := by
  have hsite := h.alike halike
  have hmem : p ∈ (last.site tree).allSources := by
    rw [h.site_eq]
    exact hp
  unfold place
  refine settle_same _ (hsite.placeEvents_eq hmem) (hsite.place_eq hmem) fun q hq => ?_
  rw [Site.read_mem_placeEvents hq]
  exact halike.content_eq p (Or.inr hp)

end Session

namespace Findings

variable {session : Session} {tree other : Tree}

/-- Orphans are placed alike one after the other. -/
theorem placeAll_same (halike : (session.fresh tree).Alike other other.source?) {last : Session}
    (h : last.Recalls tree session.layout session.config (session.fresh tree).Known)
    {orphans : List Path} (horphans : ∀ p ∈ orphans, p ∈ (session.fresh tree).allSources) :
    (placeAll tree last orphans).Same (placeAll other last orphans) := by
  induction orphans generalizing last with
  | nil => exact ⟨rfl, rfl⟩
  | cons p rest ih =>
    have hp := horphans p List.mem_cons_self
    have hrest := ih (h.place (Or.inr hp)) fun q hq => horphans q (List.mem_cons_of_mem p hq)
    refine (Session.place_same halike h hp).andThen fun placement _ => ?_
    exact hrest.andThen fun placements _ => ⟨rfl, rfl⟩

/-- A check finds the same in trees that look alike and whose references lead alike. -/
theorem find_same (halike : (session.fresh tree).Alike other other.source?)
    (hleads : (session.fresh tree).LeadsAlike other)
    (hroot : other.isDir session.layout.root = tree.isDir session.layout.root) :
    (find tree session).Same (find other session) := by
  refine (Session.discover_same halike hroot).andThen fun corpus hcorpus => ?_
  obtain ⟨rfl, hfirst⟩ := Session.discover_done hcorpus
  have hsecond := hfirst.resolve (session.fresh tree).corpus
  have hthird := hsecond.loadToctrees fun p hp => Or.inr hp
  refine (Session.resolve_same halike hfirst hleads).andThen fun links _ => ?_
  refine (Session.loadToctrees_same halike hsecond hleads).andThen fun toctrees _ => ?_
  refine (Session.findOrphans_same halike hthird _).andThen fun orphans horphans => ?_
  have hmem : ∀ p ∈ orphans, p ∈ (session.fresh tree).allSources := by
    intro p hp
    unfold Session.findOrphans at horphans
    rw [Session.ending_settle_done horphans] at hp
    rw [← Session.sources_site hthird]
    exact Site.mem_allSources_of_mem_orphans hp
  have hplaced := placeAll_same halike (hthird.findOrphans toctrees.tracked) hmem
  exact hplaced.andThen fun placements _ => ⟨rfl, rfl⟩

end Findings

end DocAtlas
