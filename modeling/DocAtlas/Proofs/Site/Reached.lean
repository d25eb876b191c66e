import DocAtlas.Proofs.Site.Partition
import DocAtlas.Proofs.Site.Relevance

/-! # Documents that toctrees reach

An entry that names a document without its extension is looked up under the configured extensions, as
they are spelled there. It leads to the document if the first of them that makes it a file is an
extension; a document whose own extension is spelled otherwise may be overlooked.

* `Site.spelling?` — the extension under which an entry is found
* `Site.mem_issues_toctreeReport` — which entries are reported
* `Site.Rooted.url_appendExtension_iff` — when what is found has the address of the document
* `Session.entry_reaches` — what comes of an entry that names a document
-/

set_option autoImplicit false

namespace DocAtlas

/-- Whether a text is the whole extension of every name it is spelled behind. -/
def isExtension (text : String) : Bool := !text.toList.contains '.' && !text.toList.contains '/'

theorem isExtension_iff {text : String} :
    isExtension text = true ↔ '.' ∉ text.toList ∧ '/' ∉ text.toList := by
  simp [isExtension]

namespace Site

/-- The first configured extension with which a path is a file. -/
def spelling? (site : Site) (c : Path) : Option String :=
  site.config.extensions.find? fun x => site.tree.isFile (appendExtension c x)

variable {site : Site} {rootNames folders : List String} {name last : String} {inside : Listing}
  {c d f : Path} {text t x : String}

/-! ## Entries -/

theorem mem_tracked {u : String} :
    u ∈ site.toctreeReport.tracked ↔ ∃ p ∈ site.reached, site.url p = u := by
  rw [show site.toctreeReport.tracked = TextSet.ofList (site.reached.map site.url) from rfl,
    TextSet.mem_ofList, List.mem_map]

theorem existingSource?_of_not_isFile (h : site.tree.isFile c = false) :
    site.existingSource? c = (site.spelling? c).map (appendExtension c) := by
  unfold existingSource? spelling?
  rw [h, Bool.and_false, if_neg (by simp), List.find?_map]
  rfl

theorem spelling?_eq_none :
    site.spelling? c = none ↔
      ∀ x ∈ site.config.extensions, site.tree.isFile (appendExtension c x) = false := by
  simp [spelling?]

theorem mem_entryChecks (htext : site.content f = some text) {check : EntryCheck} :
    check ∈ site.entryChecks f ↔ ∃ t ∈ Toctree.entries (Markup.ofPath f) text,
      check = ⟨site.layout.relative f, t,
        site.existingSource? (site.candidate (site.baseOf f) t)⟩ := by
  unfold entryChecks
  simp only [htext, List.mem_map, eq_comm]

theorem mem_reached_of_entry (hf : f ∈ site.allSources) (htext : site.content f = some text)
    (ht : t ∈ Toctree.entries (Markup.ofPath f) text)
    (hfound : site.existingSource? (site.candidate (site.baseOf f) t) = some d) :
    d ∈ site.reached := by
  have hcheck := (mem_entryChecks htext).2 ⟨t, ht, rfl⟩
  rw [hfound] at hcheck
  exact List.mem_append_right _
    (List.mem_filterMap.2 ⟨_, List.mem_flatMap.2 ⟨f, hf, hcheck⟩, rfl⟩)

theorem mem_issues_toctreeReport {issue : Issue} : issue ∈ site.toctreeReport.issues ↔
    ∃ p ∈ site.allSources, ∃ text, site.content p = some text ∧
      ∃ t ∈ Toctree.entries (Markup.ofPath p) text,
        site.existingSource? (site.candidate (site.baseOf p) t) = none ∧
          issue = .missingTarget (site.layout.relative p) t := by
  have hissue : ∀ check : EntryCheck, check.issue? = some issue ↔
      check.target = none ∧ issue = .missingTarget check.source check.entry := by
    intro check
    unfold EntryCheck.issue?
    split
    · rename_i hnone
      simp [hnone, eq_comm]
    · rename_i hsome
      simp [hsome]
  constructor
  · intro h
    obtain ⟨check, hcheck, hmissing⟩ := List.mem_filterMap.1 h
    obtain ⟨hnone, rfl⟩ := (hissue check).1 hmissing
    obtain ⟨p, hp, hcheck⟩ := List.mem_flatMap.1 hcheck
    cases htext : site.content p with
    | none =>
      rw [entryChecks, htext] at hcheck
      cases hcheck
    | some text =>
      obtain ⟨t, ht, rfl⟩ := (mem_entryChecks htext).1 hcheck
      exact ⟨p, hp, text, htext, t, ht, hnone, rfl⟩
  · rintro ⟨p, hp, text, htext, t, ht, hnone, rfl⟩
    exact List.mem_filterMap.2 ⟨_, List.mem_flatMap.2 ⟨p, hp, (mem_entryChecks htext).2 ⟨t, ht, rfl⟩⟩,
      (hissue _).2 ⟨hnone, rfl⟩⟩

theorem Rooted.missingTarget_iff (h : site.Rooted rootNames inside) (hf : f ∈ site.allSources)
    (htext : site.content f = some text) (ht : t ∈ Toctree.entries (Markup.ofPath f) text) :
    .missingTarget (site.layout.relative f) t ∈ site.toctreeReport.issues ↔
      site.existingSource? (site.candidate (site.baseOf f) t) = none := by
  rw [mem_issues_toctreeReport]
  constructor
  · rintro ⟨p, hp, -, -, s, -, hnone, heq⟩
    rw [Issue.missingTarget.injEq] at heq
    obtain ⟨hsource, rfl⟩ := heq
    -- the path below the root tells the document, so that the entry is the one of `f`
    obtain rfl := h.eq_of_same hf hp (Layout.same_of_relative_eq h.root_spells.isAbsolute
      (h.isAbsolute_source hf) (h.isAbsolute_source hp) hsource)
    exact hnone
  · intro hnone
    exact ⟨f, hf, text, htext, t, ht, hnone, rfl⟩

/-! ## Extensions -/

theorem appendExtension_pathOf {names : List String} (hlast : IsName last)
    (hslash : '/' ∉ x.toList) :
    appendExtension (Tree.pathOf (names ++ [last])) x =
      (Tree.pathOf names).child (last ++ "." ++ x) := by
  have hwhole := hlast.append_suffix hslash
  rw [String.append_assoc] at hwhole ⊢
  rw [appendExtension, Tree.pathOf_concat, String.append_assoc, Path.child_append hlast hwhole]

theorem Rooted.below_root (h : site.Rooted rootNames inside) (folders : List String) :
    site.layout.root.below folders = Tree.pathOf (rootNames ++ folders) := by
  rw [h.root_eq, Tree.pathOf, Tree.pathOf, List.foldl_append]
  rfl

theorem Rooted.exists_stem (h : site.Rooted rootNames inside) (hd : d ∈ site.allSources)
    {names : List String} (hnames : ∀ n ∈ names, IsName n)
    (hrefers : (Tree.pathOf names).refersTo d = true) :
    ∃ folders name last, d = (Tree.pathOf (rootNames ++ folders)).child name ∧
      d.Spells (rootNames ++ (folders ++ [name])) ∧
      names = rootNames ++ folders ++ [last] ∧ (splitExtension name.toList).1 = last.toList := by
  obtain ⟨folders, name, hsource, rfl, hspells⟩ := h.mem_allSources hd
  obtain ⟨last, rfl, hstem⟩ :=
    (h.refersTo_iff (hsource.isName h.wellFormed_inside) hnames).1 hrefers
  exact ⟨folders, name, last, by rw [h.below_root], hspells, by simp, hstem⟩

/-- What is found under an extension has the address of the document exactly if the extension has no
dots. -/
theorem Rooted.url_appendExtension_iff (h : site.Rooted rootNames inside)
    (hsuffix : '/' ∉ site.config.outputSuffix.toList) (hd : d ∈ site.allSources)
    {names : List String} (hnames : ∀ n ∈ names, IsName n)
    (hrefers : (Tree.pathOf names).refersTo d = true) (hslash : '/' ∉ x.toList) :
    site.url (appendExtension (Tree.pathOf names) x) = site.url d ↔ '.' ∉ x.toList := by
  obtain ⟨folders, name, last, -, hspells, rfl, hstem⟩ := h.exists_stem hd hnames hrefers
  have hlast : IsName last := hnames last (by simp)
  have hfront : (Tree.pathOf (rootNames ++ folders)).Spells (rootNames ++ folders) :=
    Tree.spells_pathOf fun n hn => hnames n (List.mem_append_left _ hn)
  have hfound := hfront.child (hlast.append_suffix hslash)
  rw [List.append_assoc] at hfound
  rw [appendExtension_pathOf hlast hslash, url, url,
    Layout.urlFor_eq_iff h.root_spells hfound hspells hsuffix, List.append_cancel_left_eq,
    outputNames_of_ofSegment (ofSegment_of_stem_eq hlast hsuffix hstem)]
  constructor
  · intro heq hdot
    apply notMem_outputNames_append site.config.outputSuffix hlast.1 hdot
    rw [heq]
    exact List.mem_singleton_self _
  · exact outputNames_append hlast hsuffix

theorem Rooted.appendExtension_eq (h : site.Rooted rootNames inside) (hd : d ∈ site.allSources)
    {names : List String} (hnames : ∀ n ∈ names, IsName n)
    (hrefers : (Tree.pathOf names).refersTo d = true) {e : String} (he : d.extension = some e) :
    appendExtension (Tree.pathOf names) e = d := by
  obtain ⟨folders, name, last, hpath, hspells, rfl, hstem⟩ := h.exists_stem hd hnames hrefers
  have hlast : IsName last := hnames last (by simp)
  have hname : IsName name := hspells.isName name (by simp)
  have hext : (splitExtension name.toList).2 = some e.toList := by
    rw [← List.append_assoc] at hspells
    rw [Path.extension, Path.fileName_of_spells hspells, Option.bind_some,
      Option.map_eq_some_iff] at he
    obtain ⟨behind, hbehind, rfl⟩ := he
    rw [hbehind, String.toList_ofList]
  have hspelled : name = last ++ "." ++ e := by
    rcases splitExtension_spec name.toList with hnone | ⟨stem, ext, hsplit, hspell, -, -⟩
    · rw [hnone] at hext
      cases hext
    · rw [hsplit] at hext hstem
      cases hext
      obtain rfl : stem = last.toList := hstem
      apply String.toList_inj.1
      rw [hspell]
      simp
  have hslash : '/' ∉ e.toList := by
    intro hmem
    apply hname.2.2.2
    rw [hspelled]
    simp [hmem]
  rw [appendExtension_pathOf hlast hslash, hpath, hspelled]

end Site

namespace Session

variable {session : Session} {tree : Tree}

/-- Of an entry that names a document without its extension, and is no file as it stands: it is
reported exactly if no configured extension makes it a file; the document is tracked if the first one
that does is an extension; and one of them does if the document's own extension is configured as it is
spelled. -/
theorem entry_reaches {docs root : Path} (hroot : Project.resolveRoot tree docs = .ok root)
    (hlayout : session.layout = Layout.ofRoot root session.config)
    (hsuffix : '/' ∉ session.config.outputSuffix.toList) :
    ∃ toctrees, (session.loadToctrees tree).ending = .done toctrees ∧
      ∀ f ∈ tree.sources session.config root, ∀ d ∈ tree.sources session.config root,
      ∀ text, session.content tree f = some text →
      ∀ t ∈ Toctree.entries (Markup.ofPath f) text,
        let site := session.fresh tree
        let c := site.candidate (site.baseOf f) t
        c.refersTo d = true → tree.isFile c = false →
          (.missingTarget (session.layout.relative f) t ∈ toctrees.issues ↔
            site.spelling? c = none) ∧
          (∀ x, site.spelling? c = some x → isExtension x = true →
            site.url d ∈ toctrees.tracked) ∧
          (∀ e ∈ session.config.extensions, d.extension = some e → tree.isFile d = true →
            site.spelling? c ≠ none) := by
  obtain ⟨rootNames, inside, rfl, hentry⟩ := Project.resolveRoot_ok hroot
  have hrooted : (session.site tree).Rooted rootNames inside := ⟨hlayout, hentry⟩
  have haddress : canAddress session.config = true := by simpa [canAddress] using hsuffix
  refine ⟨(session.site tree).toctreeReport, ending_settle haddress _ _, ?_⟩
  intro f hf d hd text htext t ht site c hrefers hfile
  have hsources : tree.sources session.config (Tree.pathOf rootNames) =
      (session.site tree).allSources := by
    rw [Site.allSources, hrooted.root_eq]
    rfl
  rw [hsources] at hf hd
  obtain ⟨names, hcandidate, hnames⟩ := Site.exists_names_candidate
    hrooted.root_spells.isAbsolute (hrooted.isAbsolute_source hf) t
  have hc : c = Tree.pathOf names := hcandidate
  have hfound : (session.site tree).existingSource? c =
      (site.spelling? c).map (Site.appendExtension c) :=
    Site.existingSource?_of_not_isFile hfile
  refine ⟨?_, fun x hx hproper => ?_, fun e he hext hthere hnone => ?_⟩
  · have hiff := hrooted.missingTarget_iff hf htext ht
    rw [show (session.site tree).candidate ((session.site tree).baseOf f) t = c from rfl, hfound,
      Option.map_eq_none_iff] at hiff
    exact hiff
  · obtain ⟨hdot, hslash⟩ := isExtension_iff.1 hproper
    rw [hx, Option.map_some] at hfound
    refine Site.mem_tracked.2 ⟨_, Site.mem_reached_of_entry hf htext ht hfound, ?_⟩
    rw [hc] at hrefers ⊢
    exact (hrooted.url_appendExtension_iff hsuffix hd hnames hrefers hslash).2 hdot
  · rw [hc] at hrefers hnone
    have hmissing := Site.spelling?_eq_none.1 hnone e he
    rw [hrooted.appendExtension_eq hd hnames hrefers hext] at hmissing
    rw [show site.tree.isFile d = true from hthere] at hmissing
    cases hmissing

end Session

/-- A root document whose toctree names a guide, which is called `name`. -/
def guideDocs (name : String) : Tree where
  root := (Listing.nil.plantAt ["docs", "index.md"]
      (.file "```\x7btoctree\x7d\nguide\n```\n".toUTF8)).plantAt
    ["docs", name] (.file "# G".toUTF8)
  wellFormed := Listing.wellFormed_plantAt rfl (Listing.wellFormed_plantAt rfl rfl)

/-- The entry leads to `guide.md`. -/
theorem entry_reaches_guideDocs :
    ∃ toctrees, (Session.usual.loadToctrees (guideDocs "guide.md")).ending = .done toctrees ∧
      "guide.html" ∈ toctrees.tracked ∧
      .missingTarget ⟨"index.md"⟩ "guide" ∉ toctrees.issues := by
  have hroot : Project.resolveRoot (guideDocs "guide.md") ⟨"docs"⟩ = .ok ⟨"/docs"⟩ := by rfl
  have hlayout : Session.usual.layout = Layout.ofRoot ⟨"/docs"⟩ Session.usual.config := rfl
  have hsources : (guideDocs "guide.md").sources Session.usual.config ⟨"/docs"⟩ =
      [⟨"/docs/guide.md"⟩, ⟨"/docs/index.md"⟩] := by
    decide +kernel
  have htext : Session.usual.content (guideDocs "guide.md") ⟨"/docs/index.md"⟩ =
      some "```\x7btoctree\x7d\nguide\n```\n" := by
    decide +kernel
  have hcandidate : (Session.usual.fresh (guideDocs "guide.md")).candidate
      ((Session.usual.fresh (guideDocs "guide.md")).baseOf ⟨"/docs/index.md"⟩) "guide" =
        ⟨"/docs/guide"⟩ := by
    decide +kernel
  have hspelled : (Session.usual.fresh (guideDocs "guide.md")).spelling? ⟨"/docs/guide"⟩ =
      some "md" := by
    decide +kernel
  obtain ⟨toctrees, hload, hentries⟩ := Session.entry_reaches hroot hlayout (by decide)
  have hguide := hentries ⟨"/docs/index.md"⟩ (by simp [hsources]) ⟨"/docs/guide.md"⟩
    (by simp [hsources]) _ htext "guide" (by decide +kernel)
  dsimp only at hguide
  rw [hcandidate, hspelled] at hguide
  obtain ⟨hmissing, htracked, -⟩ := hguide (by decide +kernel) (by decide +kernel)
  refine ⟨toctrees, hload, htracked "md" rfl (by decide), fun hissue => ?_⟩
  cases hmissing.1 hissue

/-- The walk finds `guide.MD`, but the entry does not lead there. -/
theorem upper_case_extension_missing :
    ⟨"/docs/guide.MD"⟩ ∈ (guideDocs "guide.MD").sources Session.usual.config ⟨"/docs"⟩ ∧
      Path.refersTo ⟨"/docs/guide"⟩ ⟨"/docs/guide.MD"⟩ = true ∧
      (guideDocs "guide.MD").isFile ⟨"/docs/guide"⟩ = false ∧
      (Session.usual.loadToctrees (guideDocs "guide.MD")).ending.any (fun toctrees =>
        toctrees.issues == [.missingTarget ⟨"index.md"⟩ "guide"] &&
          !toctrees.tracked.contains
            ((Session.usual.fresh (guideDocs "guide.MD")).url ⟨"/docs/guide.MD"⟩)) = true := by
  refine ⟨by decide +kernel, by decide +kernel, by decide +kernel, by decide +kernel⟩

end DocAtlas
