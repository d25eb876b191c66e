import DocAtlas.Proofs.Path.Parent
import DocAtlas.Proofs.Site.Reached

/-! # What an address tells of a document

An address is made of names below the root. Of a document below the root whose path is spelled without
`..` it tells the directory and the stem, as long as something is left of the name. A path outside is
addressed by all its names and `..` is left out, so that such an address may tell another document.

* `Path.sameDocument` — whether two paths lie in one directory and have one stem
* `Site.addressed` — the path below the root that an address tells
* `Site.Rooted.url_eq_iff_addressed` — when two paths have one address
* `Session.url_identifies` — what comes across in a session, and what its addresses tell
-/

set_option autoImplicit false

namespace DocAtlas

namespace Path

/-- Whether two paths lie in one directory and have one stem. -/
def sameDocument (p q : Path) : Bool :=
  p.parent.map normalize == q.parent.map normalize && p.fileStem == q.fileStem

/-- Whether the text of a path ends in a name. -/
def endsInName (p : Path) : Bool :=
  ((p.body.getLast?.bind Component.ofSegment).bind Component.name?).isSome

variable {p q : Path} {names others : List String} {name other : String}
  {front : List (List Char)}

/-! ## The last name -/

theorem endsInName_iff :
    p.endsInName = true ↔ ∃ front name, p.body = front ++ [name.toList] ∧ IsName name := by
  rw [endsInName, Option.isSome_iff_exists]
  constructor
  · rintro ⟨name, hname⟩
    obtain ⟨c, hc, hcname⟩ := Option.bind_eq_some_iff.1 hname
    obtain ⟨last, hlast, hsegment⟩ := Option.bind_eq_some_iff.1 hc
    obtain rfl := Component.name?_eq_some.1 hcname
    obtain ⟨front, hfront⟩ := List.getLast?_eq_some_iff.1 hlast
    obtain ⟨rfl, h0, h1, h2⟩ := Component.ofSegment_eq_normal hsegment
    exact ⟨front, name, hfront, h0, h1, h2, noSlash_of_mem_body _ (by rw [hfront]; simp)⟩
  · rintro ⟨front, name, hbody, hname⟩
    refine ⟨name, ?_⟩
    rw [hbody, List.getLast?_concat, Option.bind_some, Component.ofSegment_name hname]
    rfl

theorem endsInName_child (hp : p.isAbsolute = true) (hname : IsName name) :
    (p.child name).endsInName = true := by
  obtain ⟨front, hbody, -⟩ := body_child hp hname
  exact endsInName_iff.2 ⟨front, name, hbody, hname⟩

theorem components_of_body (h : p.body = front ++ [name.toList]) (hname : IsName name) :
    p.components = p.lead ++ front.filterMap Component.ofSegment ++ [.normal name] := by
  rw [components, h, List.filterMap_append,
    List.filterMap_cons_some (Component.ofSegment_name hname), List.filterMap_nil,
    List.append_assoc]

theorem fileName_of_body (h : p.body = front ++ [name.toList]) (hname : IsName name) :
    p.fileName = some name := by
  rw [fileName, components_of_body h hname, List.getLast?_concat]
  rfl

theorem names_of_body (h : p.body = front ++ [name.toList]) (hname : IsName name) :
    p.names = (front.filterMap Component.ofSegment).filterMap Component.name? ++ [name] := by
  rw [names_eq, ← filterMap_body, h, List.filterMap_append, List.filterMap_append,
    List.filterMap_cons_some (Component.ofSegment_name hname)]
  rfl

/-! ## Paths without `..` -/

theorem spells_names (hp : p.isAbsolute = true) (h : .parent ∉ p.components) :
    p.Spells p.names := by
  have hparent : .parent ∉ p.segments.filterMap Component.ofSegment := by
    intro hmem
    rw [components_of_absolute hp] at h
    exact h (List.mem_cons_of_mem _ hmem)
  rw [Spells, components_of_absolute hp, filterMap_segments_eq hparent]

theorem Spells.not_parent (h : p.Spells names) : .parent ∉ p.components := by
  rw [show p.components = _ from h]
  simp

theorem Spells.normalize_eq (h : p.Spells names) : p.normalize = Tree.pathOf names :=
  normalize_of_stack h.stack

theorem Spells.sameDocument_iff (hp : p.Spells (names ++ [name]))
    (hq : q.Spells (others ++ [other])) :
    p.sameDocument q = true ↔
      names = others ∧ (splitExtension name.toList).1 = (splitExtension other.toList).1 := by
  obtain ⟨dir, hdir, hnames⟩ := hp.exists_parent
  obtain ⟨folder, hfolder, hothers⟩ := hq.exists_parent
  have hpaths : Tree.pathOf names = Tree.pathOf others ↔ names = others := by
    constructor
    · intro h
      rw [← Tree.names_pathOf hnames.isName, h, Tree.names_pathOf hothers.isName]
    · rintro rfl
      rfl
  rw [sameDocument, Bool.and_eq_true, beq_iff_eq, beq_iff_eq, hdir, hfolder, fileStem, fileStem,
    fileName_of_spells hp, fileName_of_spells hq]
  simp only [Option.map_some, Option.some.injEq, hnames.normalize_eq, hothers.normalize_eq, hpaths,
    String.ofList_inj]

end Path

theorem Layout.exists_body_relative {layout : Layout} {p : Path}
    (hroot : layout.root.isAbsolute = true) (hends : p.endsInName = true)
    (hne : p.same layout.root = false) :
    ∃ front name, (layout.relative p).body = front ++ [name.toList] ∧ IsName name ∧
      p.fileName = some name := by
  obtain ⟨front, name, hbody, hname⟩ := Path.endsInName_iff.1 hends
  have hfile := Path.fileName_of_body hbody hname
  cases hstarts : p.startsWith layout.root with
  | false => exact ⟨front, name, by rw [relative_outside hstarts, hbody], hname, hfile⟩
  | true =>
    obtain ⟨segments, hrelative, htrim, hcomponents⟩ := relative_of_startsWith hroot hstarts
    have hlast := Path.components_of_body hbody hname
    rcases List.eq_nil_or_concat' (segments.filterMap Component.ofSegment) with
      hnil | ⟨before, c, hconcat⟩
    · rw [hnil, List.append_nil] at hcomponents
      rw [Path.same_iff.2 hcomponents] at hne
      cases hne
    · rw [hconcat, ← List.append_assoc, hlast] at hcomponents
      obtain ⟨-, hc⟩ := List.append_inj' hcomponents rfl
      rw [← (List.cons.inj hc).1] at hconcat
      obtain ⟨behind, rfl, -⟩ := htrim.eq_append hconcat
      refine ⟨behind, name, ?_, hname, hfile⟩
      rw [hrelative, Path.body, Path.isAbsolute_spell_false htrim, if_neg (by simp),
        Path.segments_spell false (by simp) htrim.noSlash]
      rfl

theorem Tree.isFile_dots (tree : Tree) {text : String} (h : text = "/." ∨ text = "/..") :
    tree.isFile ⟨text⟩ = false := by
  rcases h with rfl | rfl
  · exact Tree.isFile_of_dir (show (Path.mk "/.").Spells [] by unfold Path.Spells; decide) rfl
  · have hbody : (Path.mk "/..").body = [['.', '.']] := by decide
    have hlocate : tree.locate ⟨"/.."⟩ = .found [] := by
      rw [Tree.locate, Tree.stop, if_neg (by decide), if_neg (by decide), if_neg (by decide),
        if_pos (by decide), hbody]
      rfl
    unfold Tree.isFile Tree.entry?
    rw [hlocate]
    rfl

namespace Site

/-- Whether something is left of the name of a document under the output suffix. Nothing is left of a
stem that is `.`, or `..` under no suffix. -/
def leavesName (site : Site) (p : Path) : Bool :=
  p.fileStem != some "." && !(p.fileStem == some ".." && site.config.outputSuffix == "")

/-- Whether the address of a path has the name of a document: the path ends in a name, is not that of
the root, and something is left of the name. -/
def keepsName (site : Site) (p : Path) : Bool :=
  p.isAbsolute && p.endsInName && !p.same site.layout.root && site.leavesName p

/-- The path below the root that the address of a path tells. It is the path itself if that lies below
the root and is spelled without `..`, else its names are taken for names below the root. -/
def addressed (site : Site) (p : Path) : Path :=
  if site.layout.isBelow p && !p.components.contains .parent then p
  else site.layout.root.below (site.layout.relative p).names

variable {site : Site} {rootNames names folders others : List String} {name other : String}
  {inside : Listing} {p q c d dir : Path}

/-! ## What an address tells -/

theorem leavesName_congr (h : p.fileName = q.fileName) : site.leavesName p = site.leavesName q := by
  rw [leavesName, leavesName, Path.fileStem, Path.fileStem, h]

theorem Rooted.addressed_of_spells (h : site.Rooted rootNames inside)
    (hp : p.Spells (rootNames ++ (folders ++ [name]))) : site.addressed p = p := by
  have hbelow := (Layout.isBelow_iff h.root_spells hp).2 ⟨folders, name, rfl⟩
  have hparent := hp.not_parent
  rw [addressed, if_pos (by simp [hbelow, hparent])]

theorem outputNames_of_leavesName (hp : p.Spells (names ++ [name]))
    (hleft : site.leavesName p = true) :
    outputNames site.config.outputSuffix name = [String.ofList
      ((splitExtension name.toList).1 ++ Path.dotted site.config.outputSuffix.toList)] := by
  have hname : IsName name := hp.isName name (by simp)
  rw [leavesName, Path.fileStem, Path.fileName_of_spells hp] at hleft
  simp only [Option.map_some, Bool.and_eq_true, bne_iff_ne, ne_eq, Option.some.injEq,
    Bool.not_eq_true', Bool.and_eq_false_iff, beq_eq_false_iff_ne] at hleft
  obtain ⟨hdot, hdots⟩ := hleft
  have hstem : (splitExtension name.toList).1 ≠ ['.'] := fun e => hdot (by rw [e])
  refine outputNames_of_ofSegment ?_
  by_cases hsuffix : site.config.outputSuffix = ""
  · have hleft : IsName (String.ofList (splitExtension name.toList).1) := by
      refine ⟨?_, hdot, hdots.resolve_right (fun hne => hne hsuffix), ?_⟩
      · intro e
        have hnil : (splitExtension name.toList).1 = [] := by simpa using congrArg String.toList e
        exact stem_ne_nil (toList_ne_of_ne (t := "") hname.1) hnil
      · rw [String.toList_ofList]
        exact fun hslash => hname.2.2.2 (stem_subset _ _ hslash)
    rw [hsuffix]
    refine ofSegment_outputSegment_of_isName ?_ hstem (by simp)
    simpa [Path.dotted] using hleft
  · have hne : site.config.outputSuffix.toList ≠ [] := toList_ne_of_ne (t := "") hsuffix
    rw [Path.dotted, if_neg hne]
    exact ofSegment_outputSegment_of_stem_ne hname.1 hsuffix hstem

/-- Paths below the root that leave a name have one address exactly if they are of one document. -/
theorem Rooted.url_eq_iff_sameDocument (h : site.Rooted rootNames inside)
    (hsuffix : '/' ∉ site.config.outputSuffix.toList)
    (hp : p.Spells (rootNames ++ (folders ++ [name])))
    (hq : q.Spells (rootNames ++ (others ++ [other]))) (hpleft : site.leavesName p = true)
    (hqleft : site.leavesName q = true) : site.url p = site.url q ↔ p.sameDocument q = true := by
  have hends := hp
  have hends' := hq
  rw [← List.append_assoc] at hends hends'
  rw [url, url, Layout.urlFor_eq_iff h.root_spells hp hq hsuffix,
    outputNames_of_leavesName hends hpleft, outputNames_of_leavesName hends' hqleft,
    hends.sameDocument_iff hends', List.append_cancel_left_eq]
  constructor
  · intro heq
    obtain ⟨hfolders, hparts⟩ := List.append_inj' heq rfl
    have hlist := String.ofList_inj.1 (List.cons.inj hparts).1
    exact ⟨hfolders, List.append_cancel_right hlist⟩
  · rintro ⟨rfl, hstem⟩
    rw [hstem]

/-- The path that an address tells lies below the root and has the same address. -/
theorem Rooted.exists_addressed (h : site.Rooted rootNames inside)
    (hsuffix : '/' ∉ site.config.outputSuffix.toList) (hp : site.keepsName p = true) :
    ∃ folders name, (site.addressed p).Spells (rootNames ++ (folders ++ [name])) ∧
      site.leavesName (site.addressed p) = true ∧ site.url (site.addressed p) = site.url p := by
  simp only [keepsName, Bool.and_eq_true, Bool.not_eq_true'] at hp
  obtain ⟨⟨⟨habs, hends⟩, hne⟩, hleft⟩ := hp
  by_cases hplain : site.layout.isBelow p = true ∧ .parent ∉ p.components
  · obtain ⟨hbelow, hparent⟩ := hplain
    have hspells := Path.spells_names habs hparent
    obtain ⟨folders, name, hnames⟩ := (Layout.isBelow_iff h.root_spells hspells).1 hbelow
    rw [hnames] at hspells
    rw [h.addressed_of_spells hspells]
    exact ⟨folders, name, hspells, hleft, rfl⟩
  · have haddressed : site.addressed p =
        site.layout.root.below (site.layout.relative p).names := by
      rw [addressed, if_neg (by simpa using hplain)]
    obtain ⟨front, name, hbody, hname, hfile⟩ :=
      Layout.exists_body_relative h.root_spells.isAbsolute hends hne
    have hnames := Path.names_of_body hbody hname
    have hvalid : ∀ n ∈ (site.layout.relative p).names, IsName n := fun n hn =>
      Path.isName_of_mem_names hn
    have hspells := h.root_spells.below hvalid
    rw [← haddressed, hnames] at hspells
    refine ⟨_, name, hspells, ?_, ?_⟩
    · rw [← List.append_assoc] at hspells
      rwa [leavesName_congr ((Path.fileName_of_spells hspells).trans hfile.symm)]
    · rw [url, url, Layout.urlFor_below h.root_spells hspells hsuffix,
        Layout.urlFor_of_body hbody hname hsuffix]

/-- Two paths have one address exactly if their addresses tell one document. -/
theorem Rooted.url_eq_iff_addressed (h : site.Rooted rootNames inside)
    (hsuffix : '/' ∉ site.config.outputSuffix.toList) (hp : site.keepsName p = true)
    (hq : site.keepsName q = true) :
    site.url p = site.url q ↔ (site.addressed p).sameDocument (site.addressed q) = true := by
  obtain ⟨folders, name, hspells, hleft, hurl⟩ := h.exists_addressed hsuffix hp
  obtain ⟨others, other, hspells', hleft', hurl'⟩ := h.exists_addressed hsuffix hq
  rw [← hurl, ← hurl']
  exact h.url_eq_iff_sameDocument hsuffix hspells hspells' hleft hleft'

/-! ## What is come across -/

theorem keepsName_child (hdir : dir.isAbsolute = true) (hname : IsName name)
    (hne : (dir.child name).same site.layout.root = false) :
    site.keepsName (dir.child name) = site.leavesName (dir.child name) := by
  have habs : (dir.child name).isAbsolute = true :=
    Path.isAbsolute_join hdir (Path.isAbsolute_name hname)
  rw [keepsName, habs, Path.endsInName_child hdir hname, hne]
  rfl

theorem Rooted.ne_root_of_isFile (h : site.Rooted rootNames inside)
    (hfile : site.tree.isFile p = true) : p.same site.layout.root = false := by
  by_contra hsame
  have hspells : p.Spells rootNames :=
    (Path.same_iff.1 (by simpa using hsame)).trans h.root_spells
  rw [Tree.isFile_of_dir hspells h.dir] at hfile
  cases hfile

theorem Rooted.ne_root_of_hasSource (h : site.Rooted rootNames inside) {within : Listing}
    (hdir : dir.isAbsolute = true) (hentry : site.tree.entry? dir = some (.dir within))
    (hsource : within.HasSource site.config dir folders name) :
    ((dir.below folders).child name).same site.layout.root = false := by
  by_contra hsame
  have hvalid := hsource.isName (Tree.wellFormed_of_present hentry)
  have hcomponents : ((dir.below folders).child name).components =
      .root :: (dir.segments.filterMap Component.ofSegment ++
        (folders ++ [name]).map .normal) := by
    rw [Path.components_child (Path.isAbsolute_below hdir folders) (hvalid name (by simp)),
      Path.components_below hdir fun n hn => hvalid n (by simp [hn]),
      Path.components_of_absolute hdir]
    simp
  have hroot : dir.segments.filterMap Component.ofSegment ++ (folders ++ [name]).map .normal =
      rootNames.map .normal := by
    rw [Bool.not_eq_false, Path.same_iff, hcomponents,
      show site.layout.root.components = _ from h.root_spells] at hsame
    exact (List.cons.inj hsame).2
  -- the directory lies above the root, and there the file is a directory
  obtain ⟨above, behind, rfl, habove, hbehind⟩ := List.map_eq_append_iff.1 hroot.symm
  obtain rfl := List.map_injective_iff.2 Component.normal_injective hbehind
  have hspells : dir.Spells above := by
    rw [Path.Spells, Path.components_of_absolute hdir, habove]
  obtain ⟨between, hbetween, hlast⟩ := Listing.exists_dir_of_entryAt?_append (by simp) h.dir
  have hfound := Tree.entry?_of_dir hspells hbetween
  rw [hentry, Tree.isTooLong_of_present hentry] at hfound
  obtain ⟨bytes, hfile⟩ := hsource.file
  cases hfound
  rw [hlast] at hfile
  cases hfile

theorem Rooted.keepsName_source (h : site.Rooted rootNames inside) (hp : p ∈ site.allSources) :
    site.keepsName p = site.leavesName p ∧ site.addressed p = p := by
  obtain ⟨folders, name, hsource, rfl, hspells⟩ := h.mem_allSources hp
  have hdir := Path.isAbsolute_below h.root_spells.isAbsolute folders
  have hname : IsName name := hspells.isName name (by simp)
  refine ⟨keepsName_child hdir hname ?_, h.addressed_of_spells hspells⟩
  rw [← Bool.not_eq_true, hspells.same_iff h.root_spells]
  simp

theorem Rooted.keepsName_record (h : site.Rooted rootNames inside) {r : Record}
    (hr : r ∈ site.corpus.records) : site.keepsName r.path = site.leavesName r.path := by
  obtain ⟨declared, -, habs, within, hentry, folders, name, hsource, hpath⟩ := h.exists_find hr
  have hname := hsource.isName (Tree.wellFormed_of_present hentry) name (by simp)
  rw [hpath]
  exact keepsName_child (Path.isAbsolute_below habs folders) hname
    (h.ne_root_of_hasSource habs hentry hsource)

theorem Rooted.addressed_record (h : site.Rooted rootNames inside)
    (hplain : ∀ text ∈ site.config.declaredTexts, (Path.mk text).isPlain = true) {r : Record}
    (hr : r ∈ site.corpus.records) : site.addressed r.path = r.path := by
  obtain ⟨declared, hd, -, within, hentry, folders, name, hsource, hpath⟩ := h.exists_find hr
  obtain ⟨names, hnames⟩ := h.declared_spells hplain hd
  have hspells := hsource.spells (Tree.wellFormed_of_present hentry) hnames
  rw [← hpath, List.append_assoc, ← List.append_assoc names] at hspells
  exact h.addressed_of_spells hspells

theorem exists_child_of_isFile {x : String} (hnames : ∀ n ∈ names, IsName n)
    (hslash : '/' ∉ x.toList) (hfile : site.tree.isFile (appendExtension (Tree.pathOf names) x) = true) :
    ∃ front last, appendExtension (Tree.pathOf names) x = (Tree.pathOf front).child last ∧
      ∀ n ∈ front ++ [last], IsName n := by
  rcases List.eq_nil_or_concat' names with rfl | ⟨front, last, rfl⟩
  · by_cases hname : IsName ("." ++ x)
    · refine ⟨[], "." ++ x, ?_, by simpa using hname⟩
      rw [show Tree.pathOf [] = ⟨"/"⟩ from rfl, Path.child_slash hname, appendExtension,
        String.append_assoc]
    · have htext : "/" ++ "." ++ x = "/." ∨ "/" ++ "." ++ x = "/.." :=
        (eq_of_not_isName_append hslash hname).imp (fun e => by rw [e]; rfl) fun e => by rw [e]; rfl
      have hnone := site.tree.isFile_dots htext
      rw [show appendExtension (Tree.pathOf []) x = ⟨"/" ++ "." ++ x⟩ from rfl, hnone] at hfile
      cases hfile
  · have hlast : IsName last := hnames last (by simp)
    refine ⟨front, last ++ "." ++ x, appendExtension_pathOf hlast hslash, fun n hn => ?_⟩
    rcases List.mem_append.1 hn with hn | hn
    · exact hnames n (List.mem_append_left _ hn)
    · rw [List.mem_singleton.1 hn]
      exact hlast.append_suffix hslash

theorem exists_child_of_found (hnames : ∀ n ∈ names, IsName n)
    (hextensions : ∀ x ∈ site.config.extensions, '/' ∉ x.toList)
    (hfound : site.existingSource? (Tree.pathOf names) = some d) :
    site.tree.isFile d = true ∧ ∃ front last, d = (Tree.pathOf front).child last ∧
      ∀ n ∈ front ++ [last], IsName n := by
  unfold existingSource? at hfound
  split at hfound
  · rename_i hself
    obtain rfl := Option.some.inj hfound
    obtain ⟨-, hfile⟩ := Bool.and_eq_true_iff.1 hself
    refine ⟨hfile, ?_⟩
    rcases List.eq_nil_or_concat' names with rfl | ⟨front, last, rfl⟩
    · rw [show Tree.pathOf [] = ⟨"/"⟩ from rfl, Tree.isFile_of_dir Tree.spells_slash rfl] at hfile
      cases hfile
    · exact ⟨front, last, Tree.pathOf_concat front last, hnames⟩
  · have hfile : site.tree.isFile d = true := List.find?_some hfound
    obtain ⟨x, hx, rfl⟩ := List.mem_map.1 (List.mem_of_find?_eq_some hfound)
    exact ⟨hfile, exists_child_of_isFile hnames (hextensions x hx) hfile⟩

theorem Rooted.keepsName_found (h : site.Rooted rootNames inside)
    (hnames : ∀ n ∈ names, IsName n)
    (hextensions : ∀ x ∈ site.config.extensions, '/' ∉ x.toList)
    (hfound : site.existingSource? (Tree.pathOf names) = some d) :
    site.keepsName d = site.leavesName d ∧ .parent ∉ d.components := by
  obtain ⟨hfile, front, last, rfl, hvalid⟩ := exists_child_of_found hnames hextensions hfound
  have hfront := Tree.spells_pathOf fun n hn => hvalid n (List.mem_append_left [last] hn)
  have hlast : IsName last := hvalid last (by simp)
  exact ⟨keepsName_child hfront.isAbsolute hlast (h.ne_root_of_isFile hfile),
    (hfront.child hlast).not_parent⟩

end Site

namespace Session

variable {session : Session} {tree : Tree}

/-- Paths whose addresses have their names have one address exactly if these tell one document. The
address of a source file below the root tells the file, and that of a record does if the declared
directories are plain; all of them, and what toctrees are found to lead to, have their names unless
nothing is left of them. -/
theorem url_identifies {docs root : Path} (hroot : Project.resolveRoot tree docs = .ok root)
    (hlayout : session.layout = Layout.ofRoot root session.config)
    (hsuffix : '/' ∉ session.config.outputSuffix.toList) :
    let site := session.fresh tree
    (∀ p q, site.keepsName p = true → site.keepsName q = true →
      (site.url p = site.url q ↔ (site.addressed p).sameDocument (site.addressed q) = true)) ∧
    (∀ p ∈ tree.sources session.config root,
      site.keepsName p = site.leavesName p ∧ site.addressed p = p) ∧
    (∀ corpus, (session.discover tree).ending = .done corpus → ∀ r ∈ corpus.records,
      site.keepsName r.path = site.leavesName r.path ∧
      ((∀ text ∈ session.config.declaredTexts, (Path.mk text).isPlain = true) →
        site.addressed r.path = r.path)) ∧
    ((∀ x ∈ session.config.extensions, '/' ∉ x.toList) →
      ∀ f ∈ tree.sources session.config root, ∀ t d,
        site.existingSource? (site.candidate (site.baseOf f) t) = some d →
        site.keepsName d = site.leavesName d ∧ .parent ∉ d.components) := by
  intro site
  obtain ⟨rootNames, inside, rfl, hentry⟩ := Project.resolveRoot_ok hroot
  have hrooted : site.Rooted rootNames inside := ⟨hlayout, hentry⟩
  have hsources : tree.sources session.config (Tree.pathOf rootNames) = site.allSources := by
    rw [Site.allSources, hrooted.root_eq]
    rfl
  rw [hsources]
  refine ⟨fun p q hp hq => hrooted.url_eq_iff_addressed hsuffix hp hq,
    fun p hp => hrooted.keepsName_source hp, ?_, ?_⟩
  · intro corpus hdone r hr
    obtain ⟨rfl, -⟩ := discover_done hdone
    exact ⟨hrooted.keepsName_record hr, fun hplain => hrooted.addressed_record hplain hr⟩
  · intro hextensions f hf t d hfound
    obtain ⟨names, hcandidate, hnames⟩ := Site.exists_names_candidate
      hrooted.root_spells.isAbsolute (hrooted.isAbsolute_source hf) t
    rw [hcandidate] at hfound
    exact hrooted.keepsName_found hnames hextensions hfound

end Session

/-- A record has the address of a source file exactly if both are of one document. -/
theorem url_identifies_plainDocs :
    ∃ corpus, (Session.usual.discover plainDocs).ending = .done corpus ∧
      ∀ r ∈ corpus.records, ∀ p ∈ plainDocs.sources Session.usual.config ⟨"/docs"⟩,
        (Session.usual.fresh plainDocs).url r.path = (Session.usual.fresh plainDocs).url p ↔
          r.path.sameDocument p = true := by
  have hroot : Project.resolveRoot plainDocs ⟨"docs"⟩ = .ok ⟨"/docs"⟩ := by rfl
  have hlayout : Session.usual.layout = Layout.ofRoot ⟨"/docs"⟩ Session.usual.config := rfl
  have hdone : (Session.usual.discover plainDocs).ending =
      .done (Session.usual.fresh plainDocs).corpus :=
    Session.ending_discover (by decide +kernel) (by decide)
  have hrecords : ∀ r ∈ (Session.usual.fresh plainDocs).corpus.records,
      (Session.usual.fresh plainDocs).leavesName r.path = true := by
    decide +kernel
  have hsources : ∀ p ∈ plainDocs.sources Session.usual.config ⟨"/docs"⟩,
      (Session.usual.fresh plainDocs).leavesName p = true := by
    decide +kernel
  obtain ⟨hurl, hsource, hrecord, -⟩ := Session.url_identifies hroot hlayout (by decide)
  refine ⟨_, hdone, fun r hr p hp => ?_⟩
  obtain ⟨hkeeps, haddressed⟩ := hrecord _ hdone r hr
  obtain ⟨hkeeps', haddressed'⟩ := hsource p hp
  have hiff := hurl r.path p (hkeeps.trans (hrecords r hr)) (hkeeps'.trans (hsources p hp))
  rwa [haddressed usual_isPlain.dirs, haddressed'] at hiff

/-- A configuration that declares a directory outside the root, and a document of one name there and
below the root. -/
def outsideDocs : Tree where
  root := ((Listing.nil.plantAt ["docs", ".docforge.toml"]
      (.file "auto_roots = [\"../api\"]\n".toUTF8)).plantAt
    ["api", "x.md"] (.file "# X".toUTF8)).plantAt
    ["docs", "api", "x.md"] (.file "# Y".toUTF8)
  wellFormed := by decide +kernel

/-- A session of that documentation. -/
def outsideSession : Session :=
  ⟨Layout.ofRoot ⟨"/docs"⟩ { autoRoots := ["../api"] }, { autoRoots := ["../api"] }, []⟩

/-- The two documents share an address, though they lie in different directories. -/
theorem outside_record_shares_address :
    (Project.openDocs outsideDocs (some ⟨"docs"⟩)).result =
        .ok (outsideSession.layout, outsideSession.config) ∧
      (outsideSession.discover outsideDocs).ending.any (fun corpus =>
        corpus.records.map (·.path) == [⟨"/docs/../api/x.md"⟩]) = true ∧
      ⟨"/docs/api/x.md"⟩ ∈ outsideDocs.sources outsideSession.config ⟨"/docs"⟩ ∧
      (outsideSession.fresh outsideDocs).url ⟨"/docs/../api/x.md"⟩ =
        (outsideSession.fresh outsideDocs).url ⟨"/docs/api/x.md"⟩ ∧
      Path.sameDocument ⟨"/docs/../api/x.md"⟩ ⟨"/docs/api/x.md"⟩ = false := by
  refine ⟨by decide +kernel, by decide +kernel, by decide +kernel, by decide +kernel,
    by decide +kernel⟩

end DocAtlas
