import Mathlib.Data.List.Find
import DocAtlas.Proofs.Layout.Relevance
import DocAtlas.Proofs.Project.Opening
import DocAtlas.Proofs.Session.Alike
import DocAtlas.Proofs.Site.Coverage
import DocAtlas.Proofs.Tree.Planting

/-! # Changes that do not matter

A check of two trees that agree on the relevant files says the same, as long as they also agree on the
source files below declared directories that are passed over, and have the same files under the names
that references, toctree entries and the root document ask for. A reference asks for files of any
extension, so it does matter whether a file is there that is neither a source file nor relevant.

* `Site.Asks` — the paths of which a check asks whether they are files
* `Site.Rooted.leadsAlike` — if they are in both trees, references lead to the same
* `Run.check_eq_of_agree` — a check of both trees says the same
-/

set_option autoImplicit false

namespace DocAtlas

/-! ## Files that are asked for -/

namespace Site

/-- The paths that stand for a document of which `p` is the path without or with its extension. -/
def targets (site : Site) (p : Path) : List Path :=
  (if site.config.supports p then [p] else []) ++ site.config.extensions.map (appendExtension p)

/-- The paths of which a check asks whether they are files. -/
inductive Asks (site : Site) : Path → Prop where
  /-- A reference that names no document, as it stands. -/
  | reference {check : ReferenceCheck} (hcheck : check ∈ site.checks site.corpus)
      (hnone : ∀ url, check.verdict ≠ .link url) : site.Asks check.candidate
  /-- The same with an extension. -/
  | extended {check : ReferenceCheck} {dir : Path} {name file : String}
      (hcheck : check ∈ site.checks site.corpus) (hnone : ∀ url, check.verdict ≠ .link url)
      (hdir : check.candidate.parent = some dir) (hname : check.candidate.fileName = some name)
      (hfile : isEntryName file = true) (hstem : (dir.child file).fileStem = some name) :
      site.Asks (dir.child file)
  /-- The root document. -/
  | master {q : Path} (hq : q ∈ site.targets (site.layout.root.join ⟨site.config.masterDoc⟩)) :
      site.Asks q
  /-- A toctree entry of a source file, in the text of the document with its components. -/
  | entry {p d q : Path} {text t : String} (hp : p ∈ site.allSources) (hd : site.Known d)
      (hsame : p.same d = true) (htext : site.content d = some text)
      (ht : t ∈ Toctree.entries (Markup.ofPath p) text)
      (hq : q ∈ site.targets (site.candidate (site.baseOf p) t)) : site.Asks q

variable {site : Site} {other : Tree} {content : Path → Option String}

theorem existingSource?_eq {c : Path}
    (hfile : ∀ q ∈ site.targets c, other.isFile q = site.tree.isFile q) :
    (site.within other content).existingSource? c = site.existingSource? c := by
  have hfind : (site.config.extensions.map (appendExtension c)).find? other.isFile =
      (site.config.extensions.map (appendExtension c)).find? site.tree.isFile :=
    List.find?_congr fun q hq => hfile q (List.mem_append_right _ hq)
  unfold existingSource?
  rw [tree_within, config_within, hfind]
  cases hsupports : site.config.supports c with
  | false => rfl
  | true => rw [hfile c (List.mem_append_left _ (by simp [hsupports]))]

end Site

/-! ## Files with any extension -/

theorem Listing.isEntryName_of_mem_names {listing : Listing} (hw : listing.wellFormed = true)
    {n : String} (hn : n ∈ listing.names) : isEntryName n = true := by
  induction listing using cons_induction with
  | nil => cases hn
  | cons m e rest ih =>
    obtain ⟨hm, -, -, hrest⟩ := wellFormed_cons.1 hw
    rw [names_cons] at hn
    rcases List.mem_cons.1 hn with rfl | hn
    · exact hm
    · exact ih hrest hn

/-- A file in a directory along names is one of the names of that directory. -/
theorem Tree.exists_listing_of_isFile {tree : Tree} (h : tree.root.isUnlinked = true) {dir : Path}
    {front : List String} {file : String} (hdir : dir.Spells front) (hname : IsName file)
    (hfile : tree.isFile (dir.child file) = true) :
    ∃ inside, tree.listing? dir = some inside ∧ file ∈ inside.names := by
  obtain ⟨bytes, hentry⟩ := entry?_of_isFile hfile
  have hfound := entryAt?_of_spells h (hdir.child hname) hentry
  obtain ⟨inside, hinside, hlast⟩ := Listing.exists_dir_of_entryAt?_append (by simp) hfound
  refine ⟨inside, ?_, Listing.mem_names_of_find? hlast⟩
  have hlong : isTooLong (dir.below [file]) = false := isTooLong_of_present hentry
  have hshort := isTooLong_of_below (by simpa using hname) hlong
  rw [listing?, entry?_of_dir hdir hinside, if_neg (by simp [hshort])]

/-- Nothing is said before a walk from a directory along names. -/
theorem Tree.walkEvents_of_dir {tree : Tree} {p : Path} {names : List String} {inside : Listing}
    (hp : p.Spells names) (hlong : isTooLong p = false)
    (h : tree.root.entryAt? names = some (.dir inside)) : tree.walkEvents p = [] := by
  have hresolve : tree.resolve p = .ok names := by
    rw [resolve, locate_of_dir hp h, if_neg (by simp [hlong])]
  rw [walkEvents, hresolve]

namespace Site

variable {site : Site} {other : Tree} {content : Path → Option String} {c : Path}

/-- There is a file under a name with any extension exactly if one of the paths so spelled is a file. -/
theorem existsWithAnyExtension_iff (h : site.tree.root.isUnlinked = true) {names : List String}
    (hc : c.Spells names) : site.existsWithAnyExtension c = true ↔ site.tree.isFile c = true ∨
      ∃ dir name file, c.parent = some dir ∧ c.fileName = some name ∧ isEntryName file = true ∧
        (dir.child file).fileStem = some name ∧ site.tree.isFile (dir.child file) = true := by
  unfold existsWithAnyExtension
  rw [Bool.or_eq_true]
  refine or_congr_right ⟨fun hany => ?_, ?_⟩
  · split at hany
    · rename_i dir name hdir hname
      split at hany
      · rename_i inside hinside
        obtain ⟨file, hfile, hboth⟩ := List.any_eq_true.1 hany
        rw [Bool.and_eq_true, beq_iff_eq] at hboth
        have hentry : site.tree.entry? dir = some (.dir inside) := by
          unfold Tree.listing? at hinside
          split at hinside
          · rename_i within hwithin
            cases hinside
            exact hwithin
          · cases hinside
        have hname' := Listing.isEntryName_of_mem_names (Tree.wellFormed_of_present hentry) hfile
        exact ⟨dir, name, file, hdir, hname, hname', hboth.2, hboth.1⟩
      · cases hany
    · cases hany
  · rintro ⟨dir, name, file, hdir, hname, hentry, hstem, hfile⟩
    rcases List.eq_nil_or_concat' names with rfl | ⟨front, last, rfl⟩
    · rw [Path.fileName, show c.components = [.root] from hc] at hname
      cases hname
    · obtain ⟨parent, hparent, hspells⟩ := hc.exists_parent
      obtain rfl := Option.some.inj (hparent.symm.trans hdir)
      obtain ⟨inside, hinside, hmem⟩ :=
        Tree.exists_listing_of_isFile h hspells (isName_of_isEntryName hentry) hfile
      simp only [hdir, hname, hinside]
      exact List.any_eq_true.2 ⟨file, hmem, by simp [hfile, hstem]⟩

/-- It is the same in two trees if the path and its extensions stand for files in both or in neither. -/
theorem existsWithAnyExtension_congr (h : site.tree.root.isUnlinked = true)
    (hother : other.root.isUnlinked = true) {names : List String} (hc : c.Spells names)
    (hself : other.isFile c = site.tree.isFile c)
    (hextended : ∀ dir name file, c.parent = some dir → c.fileName = some name →
      isEntryName file = true → (dir.child file).fileStem = some name →
      other.isFile (dir.child file) = site.tree.isFile (dir.child file)) :
    (site.within other content).existsWithAnyExtension c = site.existsWithAnyExtension c := by
  rw [Bool.eq_iff_iff, existsWithAnyExtension_iff hother hc, existsWithAnyExtension_iff h hc,
    tree_within, hself]
  refine or_congr_right ⟨?_, ?_⟩
  · rintro ⟨dir, name, file, hdir, hname, hentry, hstem, hfile⟩
    exact ⟨dir, name, file, hdir, hname, hentry, hstem,
      (hextended dir name file hdir hname hentry hstem).symm.trans hfile⟩
  · rintro ⟨dir, name, file, hdir, hname, hentry, hstem, hfile⟩
    exact ⟨dir, name, file, hdir, hname, hentry, hstem,
      (hextended dir name file hdir hname hentry hstem).trans hfile⟩

/-! ## Relevant changes -/

variable {tree : Tree} {layout : Layout} {config : Config} {rootNames : List String}
  {inside : Listing}

/-- A path stands for a file in both trees or in neither if it is worked out to a relevant one. -/
theorem isFile_eq_of_agree
    (h : tree.root.AgreeOn (fun names => layout.isRelevant config (Tree.pathOf names)) other.root)
    {p : Path} (hp : p.isAbsolute = true) (hrelevant : layout.isRelevant config p.normalize = true) :
    other.isFile p = tree.isFile p := by
  obtain ⟨names, hstack, -⟩ := Path.exists_stack hp
  rw [Path.normalize_of_stack hstack] at hrelevant
  rw [Tree.isFile_eq, Tree.isFile_eq, h.bytes?_eq hp hstack (h.files names hrelevant)]

theorem isAbsolute_of_mem_targets {p q : Path} (hp : p.isAbsolute = true) (hq : q ∈ site.targets p) :
    q.isAbsolute = true := by
  rcases List.mem_append.1 hq with hq | hq
  · split at hq
    · rw [List.mem_singleton.1 hq]
      exact hp
    · cases hq
  · obtain ⟨extension, -, rfl⟩ := List.mem_map.1 hq
    obtain ⟨rest, hrest⟩ := (Path.isAbsolute_iff p).1 hp
    refine (Path.isAbsolute_iff _).2 ⟨rest ++ ("." ++ extension).toList, ?_⟩
    rw [appendExtension, String.append_assoc, String.toList_append, hrest, List.cons_append]

theorem isAbsolute_candidate {p : Path} (hroot : site.layout.root.isAbsolute = true)
    (hp : p.isAbsolute = true) (t : String) :
    (site.candidate (site.baseOf p) t).isAbsolute = true := by
  obtain ⟨names, hnames, hisName⟩ := exists_names_candidate hroot hp t
  rw [hnames]
  exact (Tree.spells_pathOf hisName).isAbsolute

theorem Rooted.exists_spells_candidate (h : site.Rooted rootNames inside) {check : ReferenceCheck}
    (hcheck : check ∈ site.checks site.corpus) : ∃ names, check.candidate.Spells names := by
  obtain ⟨r, hr, hcheck⟩ := List.mem_flatMap.1 hcheck
  obtain ⟨t, -, rfl⟩ := List.mem_map.1 hcheck
  obtain ⟨names, hcandidate, hnames⟩ := h.exists_candidate hr t
  refine ⟨names, ?_⟩
  rw [show (site.check _ r t).candidate = _ from hcandidate]
  exact Tree.spells_pathOf hnames

section

variable (hrooted : (Site.ofTree tree layout config).Rooted rootNames inside)
  (hagree : tree.root.AgreeOn (fun names => layout.isRelevant config (Tree.pathOf names)) other.root)

include hrooted hagree

/-- References and toctree entries lead to the same if the irrelevant paths that are asked for stand
for files in both trees or in neither. -/
theorem Rooted.leadsAlike
    (hasked : ∀ p, (Site.ofTree tree layout config).Asks p →
      layout.isRelevant config p.normalize = false → other.isFile p = tree.isFile p) :
    (Site.ofTree tree layout config).LeadsAlike other := by
  have hroot := hrooted.root_spells.isAbsolute
  have hfile : ∀ p : Path, p.isAbsolute = true → (Site.ofTree tree layout config).Asks p →
      other.isFile p = tree.isFile p := by
    intro p hp hasks
    cases hrelevant : layout.isRelevant config p.normalize with
    | true => exact isFile_eq_of_agree hagree hp hrelevant
    | false => exact hasked p hasks hrelevant
  refine ⟨fun check hcheck hnone => ?_, ?_, fun p hp d hd hsame text htext t ht => ?_⟩
  · obtain ⟨names, hc⟩ := hrooted.exists_spells_candidate hcheck
    refine existsWithAnyExtension_congr hagree.unlinked hagree.unlinked_other hc
      (hfile _ hc.isAbsolute (Asks.reference hcheck hnone)) ?_
    intro dir name file hdir hname hentry hstem
    refine hfile _ ?_ (Asks.extended hcheck hnone hdir hname hentry hstem)
    exact Path.isAbsolute_join_left (Path.isAbsolute_parent hc.isAbsolute hdir)
  · refine existingSource?_eq fun q hq => hfile q ?_ (Asks.master hq)
    exact isAbsolute_of_mem_targets (Path.isAbsolute_join_left hroot) hq
  · refine existingSource?_eq fun q hq => hfile q ?_ (Asks.entry hp hd hsame htext ht hq)
    exact isAbsolute_of_mem_targets
      (isAbsolute_candidate hroot (hrooted.isAbsolute_source hp) t) hq

/-- The two trees look alike to a survey if they have the same source files below the declared
directories that are passed over. -/
theorem Rooted.alike
    (hdeclared : ∀ declared ∈ layout.declaredDirs,
      layout.excludes config declared.dir.normalize = true →
        tree.SameSources config other declared.dir)
    (hdir : tree.isDir layout.root = true) :
    (Site.ofTree tree layout config).Alike other other.source? := by
  have hroot : layout.root.Spells rootNames := hrooted.root_spells
  have habs : ∀ declared ∈ layout.declaredDirs, declared.dir.isAbsolute = true :=
    fun declared hd => hrooted.isAbsolute_declared hd
  have hsameRoot : tree.SameSources config other layout.root :=
    hagree.sameSources hroot hroot.isAbsolute (Layout.excludes_root hroot)
  have hsame : ∀ declared ∈ layout.declaredDirs, tree.SameSources config other declared.dir := by
    intro declared hd
    cases hexcl : layout.excludes config declared.dir.normalize with
    | true => exact hdeclared declared hd hexcl
    | false => exact hagree.sameSources hroot (habs declared hd) hexcl
  refine ⟨fun declared hd => (hagree.isDir_eq (habs declared hd)).symm, fun dir hwalked => ?_, ?_,
    fun p hp => ?_⟩
  · rcases List.mem_cons.1 hwalked with rfl | hwalked
    · exact hagree.steps_dir hroot.isAbsolute hsameRoot hdir
    · obtain ⟨hmem, hthere⟩ := List.mem_filter.1 hwalked
      obtain ⟨declared, hd, rfl⟩ := List.mem_map.1 hmem
      exact hagree.steps_dir (habs declared hd) (hsame declared hd) hthere
  · obtain ⟨within, hwithin⟩ := hagree.exists_dir hrooted.dir
    have hlong := Tree.isTooLong_of_isDir hdir
    exact (Tree.walkEvents_of_dir hroot hlong hwithin).trans
      (Tree.walkEvents_of_dir hroot hlong hrooted.dir).symm
  · rcases hp with ⟨f, hf, rfl⟩ | hp
    · obtain ⟨declared, hd, hthere, p, hp, rfl⟩ := mem_allFinds.1 (mem_allFinds_of_mem_kept hf)
      rw [path_find]
      exact hagree.source?_eq (habs declared hd) (hsame declared hd) hthere hp
    · exact hagree.source?_eq hroot.isAbsolute hsameRoot hdir hp

end

end Site

namespace Run

theorem check_of_ending {tree other : Tree} {docs : Option Path} {layout : Layout} {config : Config}
    (hopen : (Project.openDocs tree docs).result = .ok (layout, config))
    (hother : (Project.openDocs other docs).result = .ok (layout, config))
    (h : (Findings.find tree ⟨layout, config, []⟩).ending =
      (Findings.find other ⟨layout, config, []⟩).ending) :
    (check tree docs).stdout = (check other docs).stdout ∧
      (check tree docs).code = (check other docs).code := by
  unfold check ofSession code
  simp only [hopen, hother, ← h]
  cases (Findings.find tree ⟨layout, config, []⟩).ending with
  | done findings => exact ⟨rfl, rfl⟩
  | failed fault => exact ⟨rfl, rfl⟩
  | aborted => exact ⟨rfl, rfl⟩

/-- A check of two trees that agree on the relevant files says the same and ends in the same code, if
they have the same source files below declared directories that are passed over and the same files
among the irrelevant paths that are asked for. -/
theorem check_eq_of_agree {tree other : Tree} {docs : Option Path} {layout : Layout} {config : Config}
    (hopen : (Project.openDocs tree docs).result = .ok (layout, config))
    (hother : (Project.openDocs other docs).result = .ok (layout, config))
    (hagree : tree.root.AgreeOn (fun names => layout.isRelevant config (Tree.pathOf names)) other.root)
    (hdeclared : ∀ declared ∈ layout.declaredDirs,
      layout.excludes config declared.dir.normalize = true →
        tree.SameSources config other declared.dir)
    (hasked : ∀ p, (Site.ofTree tree layout config).Asks p →
      layout.isRelevant config p.normalize = false → other.isFile p = tree.isFile p) :
    (check tree docs).stdout = (check other docs).stdout ∧
      (check tree docs).code = (check other docs).code := by
  obtain ⟨rootNames, inside, hrooted⟩ := Project.exists_rooted hopen
  have hisDir := hagree.isDir_eq hrooted.root_spells.isAbsolute
  have hending : (Findings.find tree ⟨layout, config, []⟩).ending =
      (Findings.find other ⟨layout, config, []⟩).ending := by
    cases hdir : tree.isDir layout.root with
    | true =>
      have halike : (Session.fresh ⟨layout, config, []⟩ tree).Alike other other.source? :=
        hrooted.alike hagree hdeclared hdir
      have hleads : (Session.fresh ⟨layout, config, []⟩ tree).LeadsAlike other :=
        hrooted.leadsAlike hagree hasked
      exact (Findings.find_same halike hleads hisDir.symm).ending_eq
    | false =>
      have hfails : ∀ which : Tree, which.isDir layout.root = false →
          (Findings.find which ⟨layout, config, []⟩).ending =
            .failed (.docsDirNotFound layout.root) :=
        fun _ hnot => Session.find_of_not_isDir hnot
      rw [hfails tree hdir, hfails other (hisDir.symm.trans hdir)]
  exact check_of_ending hopen hother hending

end Run

/-- A picture beside the documents of `linkedDocs` changes nothing. -/
theorem check_eq_linkedDocs :
    (Run.check linkedDocs (some ⟨"/docs"⟩)).stdout =
        (Run.check (linkedDocs.plantFile ["docs", "user_docs", "image.png"] ByteArray.empty)
          (some ⟨"/docs"⟩)).stdout ∧
      (Run.check linkedDocs (some ⟨"/docs"⟩)).code =
        (Run.check (linkedDocs.plantFile ["docs", "user_docs", "image.png"] ByteArray.empty)
          (some ⟨"/docs"⟩)).code := by
  have hopen : (Project.openDocs linkedDocs (some ⟨"/docs"⟩)).result =
      .ok (Session.usual.layout, Session.usual.config) := by
    decide +kernel
  have hagree : linkedDocs.root.AgreeOn
      (fun names => Session.usual.layout.isRelevant Session.usual.config (Tree.pathOf names))
      (linkedDocs.plantFile ["docs", "user_docs", "image.png"] ByteArray.empty).root := by
    refine @Tree.agreeOn_plantFile _ _ ["docs", "user_docs"] "image.png" _ ?_ ?_ ?_ ?_ ?_
    all_goals decide +kernel
  have hother : (Project.openDocs (linkedDocs.plantFile ["docs", "user_docs", "image.png"]
      ByteArray.empty) (some ⟨"/docs"⟩)).result = .ok (Session.usual.layout, Session.usual.config) := by
    have hspells : Path.Spells ⟨"/docs"⟩ ["docs"] := by rfl
    rw [Project.openDocs_of_agree hagree hspells rfl (by decide +kernel), hopen]
  have hincluded : ∀ declared ∈ Session.usual.layout.declaredDirs,
      Session.usual.layout.excludes Session.usual.config declared.dir.normalize = false := by
    decide +kernel
  -- every reference names a document, and no document has a toctree
  have hlinked : ∀ check ∈ (Session.usual.fresh linkedDocs).checks (Session.usual.fresh linkedDocs).corpus,
      check.verdict = .link "user_docs/b.html" := by
    decide +kernel
  have hmaster : ∀ p ∈ (Session.usual.fresh linkedDocs).targets ⟨"/docs/index"⟩,
      Session.usual.layout.isRelevant Session.usual.config p.normalize = true := by
    decide +kernel
  have hentries : ∀ p ∈ (Session.usual.fresh linkedDocs).allSources,
      ∀ d ∈ (Session.usual.fresh linkedDocs).kept.map (·.path) ++ (Session.usual.fresh linkedDocs).allSources,
      ∀ text ∈ (linkedDocs.source? d).toList, Toctree.entries (Markup.ofPath p) text = [] := by
    decide +kernel
  refine Run.check_eq_of_agree hopen hother hagree (fun declared hd hexcl => ?_) fun p hasks hirrelevant => ?_
  · rw [hincluded declared hd] at hexcl
    cases hexcl
  · cases hasks with
    | reference hcheck hnone => exact absurd (hlinked _ hcheck) (hnone _)
    | extended hcheck hnone => exact absurd (hlinked _ hcheck) (hnone _)
    | master hq =>
      rw [hmaster p hq] at hirrelevant
      cases hirrelevant
    | @entry source d _ text t hsource hd _ htext ht _ =>
      have hmem : d ∈ (Session.usual.fresh linkedDocs).kept.map (·.path) ++
          (Session.usual.fresh linkedDocs).allSources :=
        List.mem_append.2 (hd.imp_left List.mem_map.2)
      rw [hentries source hsource d hmem text (Option.mem_toList.2 htext)] at ht
      cases ht

/-- A document that refers to a picture, which is not there. -/
def pictureDocs : Tree where
  root := Listing.nil.plantAt ["docs", "user_docs", "a.md"] (.file "[x](image.png)".toUTF8)
  wellFormed := by decide +kernel

/-- Once the picture is there, the check ends in 0, though no relevant file has changed. -/
theorem picture_changes_check :
    (Project.openDocs pictureDocs (some ⟨"docs"⟩)).result =
        .ok (Session.usual.layout, Session.usual.config) ∧
      (Project.openDocs (pictureDocs.plantFile ["docs", "user_docs", "image.png"] ByteArray.empty)
        (some ⟨"docs"⟩)).result = .ok (Session.usual.layout, Session.usual.config) ∧
      pictureDocs.root.AgreeOn
        (fun names => Session.usual.layout.isRelevant Session.usual.config (Tree.pathOf names))
        (pictureDocs.plantFile ["docs", "user_docs", "image.png"] ByteArray.empty).root ∧
      (Run.check pictureDocs (some ⟨"docs"⟩)).code = 2 ∧
      (Run.check (pictureDocs.plantFile ["docs", "user_docs", "image.png"] ByteArray.empty)
        (some ⟨"docs"⟩)).code = 0 := by
  refine ⟨by decide +kernel, by decide +kernel, ?_, by decide +kernel, by decide +kernel⟩
  refine @Tree.agreeOn_plantFile _ _ ["docs", "user_docs"] "image.png" _ ?_ ?_ ?_ ?_ ?_
  all_goals decide +kernel

end DocAtlas
