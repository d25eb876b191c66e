import DocAtlas.Proofs.Markup.Roles
import DocAtlas.Proofs.Site.Coverage

/-! # Naming documents

A role names a document by its path from the root, behind a slash, or from the folder of the record,
back by `..` and then down; the extension is left out. The reference that the role makes is that text,
unless what follows the last dot of the stem is taken for an extension again, and it leads to the
document unless its last part is `.` or `..`.

* `Path.isReferable` — whether a document can be named by its stem
* `Site.Names` — the texts that name a document in a record
* `Site.Rooted.exists_reference` — what the reference of such a text leads to
* `Session.links_of_role` — the link that a role makes
-/

set_option autoImplicit false

namespace DocAtlas

/-- Whether the stem of a document is a name that has no extension of its own. -/
def Path.isReferable (d : Path) : Bool :=
  match d.fileStem with
  | some stem =>
    stem != "." && stem != ".." && Reference.withoutExtension stem.toList == stem.toList
  | none => false

/-- The texts that name a document in a record. -/
inductive Site.Names (site : Site) (r : Record) (d : Path) : String → Prop
  /-- By the folders below the root, behind a slash. -/
  | fromRoot {folders : List String} {name stem : String}
      (hd : d.names = site.layout.root.names ++ folders ++ [name])
      (hstem : d.fileStem = some stem) :
      Names site r d ("/" ++ "/".intercalate (folders ++ [stem]))
  /-- From the folder of the record back to a folder that both have in common, then down. -/
  | fromFolder {common up down : List String} {name stem : String}
      (hr : (site.baseOf r.path).normalize.names = common ++ up)
      (hd : d.names = common ++ down ++ [name])
      (hstem : d.fileStem = some stem) :
      Names site r d ("/".intercalate (up.map (fun _ => "..") ++ down ++ [stem]))

/-! ## Texts made of parts -/

theorem toList_intercalate_concat (parts : List String) (last : String) :
    ("/".intercalate (parts ++ [last])).toList =
      parts.flatMap (fun part => part.toList ++ ['/']) ++ last.toList := by
  rw [String.toList_intercalate, show "/".toList = ['/'] from rfl]
  induction parts with
  | nil => simp
  | cons part parts ih =>
    obtain ⟨next, others, hnext⟩ := List.exists_cons_of_ne_nil (l := parts ++ [last]) (by simp)
    rw [hnext, List.map_cons] at ih
    rw [List.cons_append, hnext, List.map_cons, List.map_cons, List.intercalate_cons_cons, ih,
      List.flatMap_cons]
    simp

namespace Path

variable {parts : List String} {last : String}

theorem segments_intercalate (h : ∀ part ∈ parts ++ [last], '/' ∉ part.toList) :
    (Path.mk ("/".intercalate (parts ++ [last]))).segments = (parts ++ [last]).map String.toList := by
  unfold segments
  rw [String.toList_intercalate]
  refine List.splitOn_intercalate '/' (fun l hl => ?_) (by simp)
  obtain ⟨part, hpart, rfl⟩ := List.mem_map.1 hl
  exact h part hpart

theorem isAbsolute_intercalate (h : ∀ part ∈ parts ++ [last], IsPart part) :
    (Path.mk ("/".intercalate (parts ++ [last]))).isAbsolute = false := by
  by_contra habs
  obtain ⟨tail, htail⟩ := segments_of_absolute (by simpa using habs)
  obtain ⟨first, others, hfirst⟩ := List.exists_cons_of_ne_nil (l := parts ++ [last]) (by simp)
  rw [segments_intercalate fun part hpart => (h part hpart).2, hfirst] at htail
  have hempty : first.toList = [] := (List.cons.inj htail).1
  exact (h first (by simp [hfirst])).1 (String.toList_eq_nil_iff.1 hempty)

/-! ## The last part -/

/-- Where names lead with one more part behind them. -/
def finish (names : List String) (part : String) : List String :=
  match Component.ofSegment part.toList with
  | some (.normal name) => names ++ [name]
  | some .parent => names.dropLast
  | _ => names

theorem foldl_pushNormal_finish (names : List String) (part : String) :
    (Component.ofSegment part.toList).toList.foldl pushNormal (stackOf names) =
      stackOf (finish names part) := by
  unfold finish
  cases hsegment : Component.ofSegment part.toList with
  | none => rfl
  | some c =>
    obtain rfl | ⟨name, rfl⟩ := Component.ofSegment_cases hsegment
    · exact pushNormal_parent names
    · exact pushNormal_name names name

theorem isName_of_mem_finish {names : List String} {part : String} (hnames : ∀ n ∈ names, IsName n)
    (hpart : IsPart part) : ∀ n ∈ finish names part, IsName n := by
  unfold finish
  split
  · rename_i name hsegment
    obtain ⟨heq, hne, hdot, hdots⟩ := Component.ofSegment_eq_normal hsegment
    obtain rfl := String.toList_inj.1 heq
    intro n hn
    rcases List.mem_append.1 hn with hn | hn
    · exact hnames n hn
    · rw [List.mem_singleton.1 hn]
      exact ⟨hne, hdot, hdots, hpart.2⟩
  · exact fun n hn => hnames n (List.dropLast_subset _ hn)
  · exact hnames

/-- Only a name leads one name further. -/
theorem finish_eq_concat {names : List String} {part name : String} (hpart : IsPart part) :
    finish names part = names ++ [name] ↔ part = name ∧ IsName name := by
  have hshort : ∀ others : List String, others.length ≤ names.length → others ≠ names ++ [name] := by
    rintro others hlength rfl
    rw [List.length_append, List.length_singleton] at hlength
    omega
  unfold finish
  constructor
  · intro h
    split at h
    · rename_i other hsegment
      obtain ⟨heq, hne, hdot, hdots⟩ := Component.ofSegment_eq_normal hsegment
      obtain rfl := String.toList_inj.1 heq
      obtain rfl : part = name := (List.cons.inj (List.append_cancel_left h)).1
      exact ⟨rfl, hne, hdot, hdots, hpart.2⟩
    · exact absurd h (hshort _ (by rw [List.length_dropLast]; omega))
    · exact absurd h (hshort _ (Nat.le_refl _))
  · rintro ⟨rfl, hname⟩
    rw [Component.ofSegment_name hname]

theorem isPart_steps {up down : List String} (hdown : ∀ n ∈ down, IsName n) (hlast : IsPart last) :
    ∀ part ∈ up.map (fun _ => "..") ++ down ++ [last], IsPart part := by
  intro part hpart
  rcases List.mem_append.1 hpart with hpart | hpart
  · rcases List.mem_append.1 hpart with hpart | hpart
    · obtain ⟨-, -, rfl⟩ := List.mem_map.1 hpart
      exact ⟨by decide, by decide⟩
    · exact (hdown part hpart).isPart
  · rw [List.mem_singleton.1 hpart]
    exact hlast

theorem filterMap_segments_steps {up down : List String} (hdown : ∀ n ∈ down, IsName n)
    (hlast : IsPart last) :
    (Path.mk ("/".intercalate (up.map (fun _ => "..") ++ down ++ [last]))).segments.filterMap
        Component.ofSegment =
      List.replicate up.length .parent ++ down.map .normal ++
        (Component.ofSegment last.toList).toList := by
  have hups : ((up.map fun _ => "..").map String.toList).filterMap Component.ofSegment =
      List.replicate up.length .parent := by
    have hdots : Component.ofSegment "..".toList = some .parent := rfl
    rw [List.map_const', List.map_replicate, List.filterMap_replicate_of_some hdots]
  have hdowns : (down.map String.toList).filterMap Component.ofSegment = down.map .normal := by
    induction down with
    | nil => rfl
    | cons n down ih =>
      have hn := Component.ofSegment_name (hdown n (by simp))
      rw [List.map_cons, List.filterMap_cons_some hn, ih fun m hm => hdown m (by simp [hm]),
        List.map_cons]
  rw [segments_intercalate fun part hpart => (isPart_steps hdown hlast part hpart).2, List.map_append,
    List.map_append, List.filterMap_append, List.filterMap_append, hups, hdowns]
  cases hsegment : Component.ofSegment last.toList <;> simp [hsegment]

/-- What is left of a text that goes back from a directory, then down. -/
theorem normalize_join_intercalate {base : Path} {common up down : List String}
    (hbase : base.isAbsolute = true) (hstack : base.components.foldl pushNormal [] = stackOf (common ++ up))
    (hdown : ∀ n ∈ down, IsName n) (hlast : IsPart last) :
    (base.join ⟨"/".intercalate (up.map (fun _ => "..") ++ down ++ [last])⟩).normalize =
      Tree.pathOf (finish (common ++ down) last) := by
  refine normalize_join hbase (isAbsolute_intercalate (isPart_steps hdown hlast)) hstack ?_
  have hcommon : (common ++ up).take ((common ++ up).length - up.length) = common := by
    rw [List.length_append, Nat.add_sub_cancel, List.take_left]
  rw [filterMap_segments_steps hdown hlast, List.foldl_append, List.foldl_append,
    foldl_pushNormal_parents, hcommon, foldl_pushNormal_names, foldl_pushNormal_finish]

end Path

/-! ## The reference of a text -/

namespace Reference

theorem prefix_of_withoutExtension (file : List Char) : withoutExtension file <+: file := by
  unfold withoutExtension
  split
  · rename_i stem ext hsplit
    obtain ⟨rfl, -⟩ := Text.splitAtLast_eq_some hsplit
    split
    · exact List.prefix_append _ _
    · exact List.prefix_refl _
  · exact List.prefix_refl _

/-- The last part of a reference to a stem. -/
def lastPart (stem : String) : String := String.ofList (withoutExtension stem.toList)

theorem isPart_lastPart {stem : String} (h : IsPart stem) : IsPart (lastPart stem) := by
  have hne : stem.toList ≠ [] := toList_ne_of_ne (t := "") h.1
  constructor
  · intro hempty
    have hnil : withoutExtension stem.toList = [] := by
      simpa [lastPart] using congrArg String.toList hempty
    exact withoutExtension_ne_nil hne hnil
  · rw [lastPart, String.toList_ofList]
    exact fun hslash => h.2 ((prefix_of_withoutExtension _).subset hslash)

theorem lastPart_eq_iff {stem : String} :
    lastPart stem = stem ↔ withoutExtension stem.toList = stem.toList := by
  rw [← String.toList_inj, lastPart, String.toList_ofList]

/-- The reference of a text made of parts is that text with the last part shortened. -/
theorem ofWritten_parts {lead : String} (hlead : lead = "" ∨ lead = "/") {parts : List String}
    {stem : String} (hstem : IsPart stem)
    (h : IsPlain (lead ++ "/".intercalate (parts ++ [stem])).toList) :
    ofWritten (lead ++ "/".intercalate (parts ++ [stem])).toList =
      some (lead ++ "/".intercalate (parts ++ [lastPart stem])) := by
  have htext : ∀ last : String, (lead ++ "/".intercalate (parts ++ [last])).toList =
      (lead.toList ++ parts.flatMap fun part => part.toList ++ ['/']) ++ last.toList := by
    intro last
    rw [String.toList_append, toList_intercalate_concat, List.append_assoc]
  have hends : (lead.toList ++ parts.flatMap fun part => part.toList ++ ['/']) = [] ∨
      ∃ front, (lead.toList ++ parts.flatMap fun part => part.toList ++ ['/']) = front ++ ['/'] := by
    rcases List.eq_nil_or_concat' parts with rfl | ⟨front, last, rfl⟩
    · rcases hlead with rfl | rfl
      · exact Or.inl rfl
      · exact Or.inr ⟨[], rfl⟩
    · exact Or.inr ⟨lead.toList ++ (front.flatMap fun part => part.toList ++ ['/']) ++ last.toList,
        by simp⟩
  rw [htext] at h ⊢
  rw [ofWritten_plain hends hstem.2 (toList_ne_of_ne (t := "") hstem.1) h, Option.some.injEq,
    ← String.toList_inj, htext, lastPart, String.toList_ofList, String.toList_ofList]

end Reference

theorem Path.isReferable_iff {d : Path} {stem : String} (h : d.fileStem = some stem) :
    d.isReferable = true ↔ stem ≠ "." ∧ stem ≠ ".." ∧ Reference.lastPart stem = stem := by
  unfold isReferable
  rw [h, Reference.lastPart_eq_iff]
  simp [and_assoc]

namespace Site

open Reference (lastPart isPart_lastPart)

variable {site : Site} {rootNames folders : List String} {name : String} {inside : Listing} {r : Record}
  {d : Path} {t : String}

/-! ## Candidates -/

theorem candidate_of_relative {dir : Path} (h : (Path.mk t).isAbsolute = false) :
    site.candidate dir t = (dir.join ⟨t⟩).normalize := by
  unfold candidate
  split
  · rename_i rest hslash
    have habs := (Path.isAbsolute_iff ⟨t⟩).2 ⟨rest, hslash⟩
    rw [h] at habs
    cases habs
  · rfl

theorem candidate_of_slash (dir : Path) (t : String) :
    site.candidate dir ("/" ++ t) = (site.layout.root.join ⟨t⟩).normalize := by
  have htext : ("/" ++ t).toList = '/' :: t.toList := by rw [String.toList_append]; rfl
  unfold candidate
  rw [htext]
  simp only [String.ofList_toList]

theorem isPart_stem {stem : String} (hname : IsName name)
    (hstem : (splitExtension name.toList).1 = stem.toList) : IsPart stem := by
  constructor
  · intro hempty
    rw [hempty] at hstem
    exact stem_ne_nil (toList_ne_of_ne (t := "") hname.1) hstem
  · rw [← hstem]
    exact fun hslash => hname.2.2.2 (stem_subset _ _ hslash)

theorem Rooted.fileStem_source (h : site.Rooted rootNames inside)
    (hd : ∀ n ∈ folders ++ [name], IsName n) :
    ((site.layout.root.below folders).child name).fileStem =
      some (String.ofList (splitExtension name.toList).1) := by
  rw [Path.fileStem, Path.fileName_of_spells ((h.folder_spells hd).child (hd name (by simp))),
    Option.map_some]

/-- The names along which a last part leads are those of the document exactly if the document is
referable. -/
theorem Rooted.refersTo_finish (h : site.Rooted rootNames inside)
    (hd : ∀ n ∈ folders ++ [name], IsName n) {stem : String}
    (hstem : (splitExtension name.toList).1 = stem.toList) :
    (Tree.pathOf (Path.finish (rootNames ++ folders) (lastPart stem))).refersTo
        ((site.layout.root.below folders).child name) =
      ((site.layout.root.below folders).child name).isReferable := by
  have hpart : IsPart stem := isPart_stem (hd name (by simp)) hstem
  have hlast := isPart_lastPart hpart
  have hspells := h.folder_spells hd
  have hfile : ((site.layout.root.below folders).child name).fileStem = some stem := by
    rw [h.fileStem_source hd, hstem, String.ofList_toList]
  have hnames : ∀ n ∈ Path.finish (rootNames ++ folders) (lastPart stem), IsName n :=
    Path.isName_of_mem_finish hspells.isName hlast
  have hrefers : (Tree.pathOf (Path.finish (rootNames ++ folders) (lastPart stem))).refersTo
        ((site.layout.root.below folders).child name) = true ↔
      Path.finish (rootNames ++ folders) (lastPart stem) = rootNames ++ folders ++ [stem] := by
    rw [h.refersTo_iff hd hnames, hstem]
    constructor
    · rintro ⟨last, hfinish, hsame⟩
      rw [hfinish, String.toList_inj.1 hsame, List.append_assoc]
    · intro hfinish
      exact ⟨stem, by rw [hfinish, List.append_assoc], rfl⟩
  rw [Bool.eq_iff_iff, hrefers, Path.finish_eq_concat hlast, Path.isReferable_iff hfile]
  constructor
  · rintro ⟨hkept, -, hdot, hdots, -⟩
    exact ⟨hdot, hdots, hkept⟩
  · rintro ⟨hdot, hdots, hkept⟩
    exact ⟨hkept, hpart.1, hdot, hdots, hpart.2⟩

/-- The steps back from a directory to a folder above the document, then down to its stem, lead to the
document exactly if the document is referable. -/
theorem Rooted.refersTo_steps (h : site.Rooted rootNames inside)
    (hd : ∀ n ∈ folders ++ [name], IsName n) {stem : String}
    (hstem : (splitExtension name.toList).1 = stem.toList) {base : Path} {common up down : List String}
    (hbase : base.isAbsolute = true)
    (hstack : base.components.foldl Path.pushNormal [] = Path.stackOf (common ++ up))
    (hdown : ∀ n ∈ down, IsName n) (hsame : rootNames ++ folders = common ++ down) :
    ((base.join ⟨"/".intercalate (up.map (fun _ => "..") ++ down ++ [lastPart stem])⟩).normalize).refersTo
        ((site.layout.root.below folders).child name) =
      ((site.layout.root.below folders).child name).isReferable := by
  have hlast := isPart_lastPart (isPart_stem (hd name (by simp)) hstem)
  rw [Path.normalize_join_intercalate hbase hstack hdown hlast, ← hsame]
  exact h.refersTo_finish hd hstem

theorem Rooted.refersTo_fromRoot (h : site.Rooted rootNames inside)
    (hd : ∀ n ∈ folders ++ [name], IsName n) {stem : String}
    (hstem : (splitExtension name.toList).1 = stem.toList) (r : Record) :
    (site.candidateOf r ("/" ++ "/".intercalate (folders ++ [lastPart stem]))).refersTo
        ((site.layout.root.below folders).child name) =
      ((site.layout.root.below folders).child name).isReferable := by
  have hroot := h.root_spells
  have hstack : site.layout.root.components.foldl Path.pushNormal [] =
      Path.stackOf (rootNames ++ []) := by
    rw [List.append_nil]
    exact hroot.stack
  have hrefers := h.refersTo_steps hd hstem hroot.isAbsolute hstack
    (fun n hn => hd n (List.mem_append_left [name] hn)) rfl
  rw [List.map_nil, List.nil_append] at hrefers
  rw [candidateOf, candidate_of_slash]
  exact hrefers

theorem Rooted.refersTo_fromFolder (h : site.Rooted rootNames inside)
    (hr : r ∈ site.corpus.records) (hd : ∀ n ∈ folders ++ [name], IsName n) {stem : String}
    (hstem : (splitExtension name.toList).1 = stem.toList) {common up down : List String}
    (hback : (site.baseOf r.path).normalize.names = common ++ up)
    (hsame : rootNames ++ folders = common ++ down) :
    (site.candidateOf r
          ("/".intercalate (up.map (fun _ => "..") ++ down ++ [lastPart stem]))).refersTo
        ((site.layout.root.below folders).child name) =
      ((site.layout.root.below folders).child name).isReferable := by
  have hbase := isAbsolute_baseOf h.root_spells.isAbsolute (h.isAbsolute_record hr)
  obtain ⟨base, hstack, hbaseNames⟩ := Path.exists_stack hbase
  rw [Path.normalize_of_stack hstack, (Tree.spells_pathOf hbaseNames).names_eq] at hback
  subst hback
  have hdown : ∀ n ∈ down, IsName n := fun n hn =>
    (h.folder_spells hd).isName n (hsame ▸ List.mem_append_right common hn)
  have hlast := isPart_lastPart (isPart_stem (hd name (by simp)) hstem)
  rw [candidateOf, candidate_of_relative (Path.isAbsolute_intercalate (Path.isPart_steps hdown hlast))]
  exact h.refersTo_steps hd hstem hbase hstack hdown hsame

/-- A text that names a document makes a reference, which leads to the document exactly if that is
referable. -/
theorem Rooted.exists_reference (h : site.Rooted rootNames inside) (hr : r ∈ site.corpus.records)
    (hd : d ∈ site.allSources) (ht : site.Names r d t) (hplain : Reference.IsPlain t.toList) :
    ∃ reference, Reference.ofWritten t.toList = some reference ∧
      (site.candidateOf r reference).refersTo d = d.isReferable ∧
      (d.isReferable = true → reference = t) := by
  obtain ⟨folders, name, hsource, rfl, hspells⟩ := h.mem_allSources hd
  have hnames : ∀ n ∈ folders ++ [name], IsName n := hsource.isName h.wellFormed_inside
  have hfile := h.fileStem_source hnames
  have hpart : IsPart (String.ofList (splitExtension name.toList).1) :=
    isPart_stem (hnames name (by simp)) String.toList_ofList.symm
  cases ht with
  | @fromRoot others other stem hothers hstem =>
    rw [hspells.names_eq, h.root_spells.names_eq, List.append_assoc,
      List.append_cancel_left_eq] at hothers
    obtain ⟨rfl, -⟩ := List.append_inj' hothers rfl
    obtain rfl := Option.some.inj (hfile.symm.trans hstem)
    refine ⟨_, Reference.ofWritten_parts (Or.inr rfl) hpart hplain,
      h.refersTo_fromRoot hnames String.toList_ofList.symm r, fun hreferable => ?_⟩
    rw [((Path.isReferable_iff hfile).1 hreferable).2.2]
  | @fromFolder common up down other stem hback hdown hstem =>
    rw [hspells.names_eq, ← List.append_assoc] at hdown
    obtain ⟨hsame, -⟩ := List.append_inj' hdown rfl
    obtain rfl := Option.some.inj (hfile.symm.trans hstem)
    rw [← String.empty_append (s := "/".intercalate _)] at hplain
    have hreference := Reference.ofWritten_parts (Or.inl rfl) hpart hplain
    rw [String.empty_append, String.empty_append] at hreference
    refine ⟨_, hreference, h.refersTo_fromFolder hr hnames String.toList_ofList.symm hback hsame,
      fun hreferable => ?_⟩
    rw [((Path.isReferable_iff hfile).1 hreferable).2.2]

/-! ## The link of a role -/

theorem Rooted.not_reported (h : site.Rooted rootNames inside) (hr : r ∈ site.corpus.records)
    (hresolves : site.resolves (site.candidateOf r t) = true) :
    .unresolvedReference (site.layout.relative r.path) t ∉ (site.linkReport site.corpus).issues := by
  intro hmem
  obtain ⟨check, hcheck, hissue⟩ := List.mem_filterMap.1 hmem
  obtain ⟨s, hs, hcheck⟩ := List.mem_flatMap.1 hcheck
  obtain ⟨u, -, rfl⟩ := List.mem_map.1 hcheck
  have hreported : site.layout.relative s.path = site.layout.relative r.path ∧ u = t := by
    unfold ReferenceCheck.issue? at hissue
    split at hissue
    · exact Issue.unresolvedReference.inj (Option.some.inj hissue)
    · cases hissue
  obtain ⟨hrelative, rfl⟩ := hreported
  have hroot := h.root_spells.isAbsolute
  have hsame := Layout.same_of_relative_eq hroot (h.isAbsolute_record hs) (h.isAbsolute_record hr)
    hrelative
  rw [candidateOf, ← candidate_of_same hroot (h.isAbsolute_record hs) hsame] at hresolves
  rw [issue?_check.2 hresolves] at hissue
  cases hissue

/-- A reference that leads to a document is no reference to nothing. -/
theorem Rooted.resolves_of_refersTo (h : site.Rooted rootNames inside)
    (hslash : '/' ∉ site.config.outputSuffix.toList) (hdot : '.' ∉ site.config.outputSuffix.toList)
    (hr : r ∈ site.corpus.records) (hd : d ∈ site.allSources)
    (hrefers : (site.candidateOf r t).refersTo d = true) :
    site.resolves (site.candidateOf r t) = true := by
  obtain ⟨names, hcandidate, hnames⟩ := h.exists_candidate hr t
  rw [hcandidate] at hrefers ⊢
  exact resolves_iff.2 (Or.inl ⟨d, hd, (h.url_eq_iff hslash hd hnames).2 (Or.inl ⟨hdot, hrefers⟩)⟩)

end Site

/-- Each role that names a document makes a reference, and the reference leads to the document exactly
if that is referable. Then the record links to the document, and the role is not reported. -/
theorem Session.links_of_role {session : Session} {tree : Tree} {docs root : Path}
    (hroot : Project.resolveRoot tree docs = .ok root)
    (hlayout : session.layout = Layout.ofRoot root session.config)
    (hdir : tree.isDir root = true) (hslash : '/' ∉ session.config.outputSuffix.toList)
    (hdot : '.' ∉ session.config.outputSuffix.toList) :
    ∃ corpus report, (session.discover tree).ending = .done corpus ∧
      ((session.discover tree).session.resolve tree corpus).ending = .done report ∧
      ∀ r ∈ corpus.records, ∀ text, tree.source? r.path = some text →
        ∀ d ∈ tree.sources session.config root, ∀ t, (session.fresh tree).Names r d t →
        Reference.IsPlain t.toList → Markup.HasRole t.toList text.toList →
        ∃ reference ∈ r.references, Reference.ofWritten t.toList = some reference ∧
          ((session.fresh tree).candidateOf r reference).refersTo d = d.isReferable ∧
          (d.isReferable = true → reference = t ∧
            report.links.Has (session.layout.relative r.path) ((session.fresh tree).url d) ∧
            .unresolvedReference (session.layout.relative r.path) t ∉ report.issues) := by
  have hrootDir : tree.isDir session.layout.root = true := by
    rw [hlayout]
    exact hdir
  have hsources : (session.fresh tree).allSources = tree.sources session.config root := by
    rw [show (session.fresh tree).allSources = tree.sources session.config session.layout.root
      from rfl, hlayout]
    rfl
  obtain ⟨report, toctrees, last, hsurvey, -⟩ := exists_surveyed hrootDir hslash
  have hreport := report_of_resolved hsurvey.discovered hsurvey.resolved
  obtain ⟨rootNames, inside, rfl, hentry⟩ := Project.resolveRoot_ok hroot
  have hrooted : (session.fresh tree).Rooted rootNames inside := ⟨hlayout, hentry⟩
  refine ⟨_, report, hsurvey.discovered, hsurvey.resolved, fun r hr text htext d hd t ht hplain hrole => ?_⟩
  rw [← hsources] at hd
  obtain ⟨reference, hwritten, hrefers, hkept⟩ := hrooted.exists_reference hr hd ht hplain
  have hmem : reference ∈ r.references := by
    rw [Site.references_of_record hr htext]
    exact Reference.mem_ofContent_of_hasRole hrole hwritten
  refine ⟨reference, hmem, hwritten, hrefers, fun hreferable => ?_⟩
  obtain rfl := hkept hreferable
  rw [hreferable] at hrefers
  rw [hreport]
  refine ⟨rfl, ?_, ?_⟩
  · exact (hrooted.has_linkReport_iff hslash).2
      ⟨r, hr, reference, hmem, Path.same_refl _, d, hd, rfl, Or.inl ⟨hdot, hrefers⟩⟩
  · exact hrooted.not_reported hr (hrooted.resolves_of_refersTo hslash hdot hr hd hrefers)

/-- A document of the user with a role for another, which is called by the stem. -/
def roleDocs (stem : String) : Tree where
  root := (Listing.nil.plantAt ["docs", "user_docs", "a.md"]
      (.file (":doc:`" ++ stem ++ "`").toUTF8)).plantAt
    ["docs", "user_docs", stem ++ ".md"] (.file "# B".toUTF8)
  wellFormed := Listing.wellFormed_plantAt rfl (Listing.wellFormed_plantAt rfl rfl)

/-- The record links to the document of the role. -/
theorem links_roleDocs :
    ∃ corpus report, (Session.usual.discover (roleDocs "b")).ending = .done corpus ∧
      ((Session.usual.discover (roleDocs "b")).session.resolve (roleDocs "b") corpus).ending =
        .done report ∧
      report.links.Has ⟨"user_docs/a.md"⟩ "user_docs/b.html" ∧
      .unresolvedReference ⟨"user_docs/a.md"⟩ "b" ∉ report.issues := by
  have hroot : Project.resolveRoot (roleDocs "b") ⟨"docs"⟩ = .ok ⟨"/docs"⟩ := by rfl
  have hlayout : Session.usual.layout = Layout.ofRoot ⟨"/docs"⟩ Session.usual.config := rfl
  have hdir : (roleDocs "b").isDir ⟨"/docs"⟩ = true := by decide +kernel
  have hdone : (Session.usual.discover (roleDocs "b")).ending =
      .done (Session.usual.fresh (roleDocs "b")).corpus :=
    Session.ending_discover hdir (by decide)
  obtain ⟨corpus, report, hdiscover, hresolve, hroles⟩ :=
    Session.links_of_role hroot hlayout hdir (by decide) (by decide)
  rw [hdone] at hdiscover
  cases hdiscover
  obtain ⟨r, hr, hpath⟩ : ∃ r ∈ (Session.usual.fresh (roleDocs "b")).corpus.records,
      r.path = ⟨"/docs/user_docs/a.md"⟩ := by
    decide +kernel
  have htext : (roleDocs "b").source? r.path = some ":doc:`b`" := by
    rw [hpath]
    decide +kernel
  have hdocument : ⟨"/docs/user_docs/b.md"⟩ ∈ (roleDocs "b").sources Session.usual.config ⟨"/docs"⟩ := by
    decide +kernel
  have hnames : (Session.usual.fresh (roleDocs "b")).Names r ⟨"/docs/user_docs/b.md"⟩ "b" := by
    refine @Site.Names.fromFolder _ _ _ ["docs", "user_docs"] [] [] "b.md" "b" ?_ ?_ ?_
    · rw [hpath]
      decide +kernel
    · decide +kernel
    · decide +kernel
  have hrole : Markup.HasRole "b".toList ":doc:`b`".toList :=
    @Markup.HasRole.here _ [] _ ⟨Or.inl (by decide), by decide, by decide⟩
  obtain ⟨_, _, _, _, hlinks⟩ := hroles r hr _ htext _ hdocument "b" hnames (by decide) hrole
  obtain ⟨-, hhas, hissue⟩ := hlinks (by decide +kernel)
  rw [hpath] at hhas hissue
  exact ⟨_, report, hdone, hresolve, hhas, hissue⟩

/-- Of the stem `v1.2` the role keeps `v1`, so that nothing is linked and the role is reported. -/
theorem dotted_stem_not_linked :
    ∃ corpus report, (Session.usual.discover (roleDocs "v1.2")).ending = .done corpus ∧
      ((Session.usual.discover (roleDocs "v1.2")).session.resolve (roleDocs "v1.2") corpus).ending =
        .done report ∧
      ⟨"/docs/user_docs/v1.2.md"⟩ ∈ (roleDocs "v1.2").sources Session.usual.config ⟨"/docs"⟩ ∧
      (∃ r ∈ corpus.records, r.path = ⟨"/docs/user_docs/a.md"⟩ ∧
        (Session.usual.fresh (roleDocs "v1.2")).Names r ⟨"/docs/user_docs/v1.2.md"⟩ "v1.2") ∧
      (roleDocs "v1.2").source? ⟨"/docs/user_docs/a.md"⟩ = some ":doc:`v1.2`" ∧
      Markup.HasRole "v1.2".toList ":doc:`v1.2`".toList ∧
      report.links = [] ∧
      report.issues = [.unresolvedReference ⟨"user_docs/a.md"⟩ "v1"] := by
  have hdir : (roleDocs "v1.2").isDir Session.usual.layout.root = true := by decide +kernel
  obtain ⟨report, _, _, hsurvey, _⟩ := Session.exists_surveyed hdir (by decide)
  have hreport := Session.report_of_resolved hsurvey.discovered hsurvey.resolved
  refine ⟨_, report, hsurvey.discovered, hsurvey.resolved, by decide +kernel, ?_, by decide +kernel,
    @Markup.HasRole.here _ [] _ ⟨Or.inl (by decide), by decide, by decide⟩, ?_, ?_⟩
  · obtain ⟨r, hr, hpath⟩ : ∃ r ∈ (Session.usual.fresh (roleDocs "v1.2")).corpus.records,
        r.path = ⟨"/docs/user_docs/a.md"⟩ := by
      decide +kernel
    refine ⟨r, hr, hpath,
      @Site.Names.fromFolder _ _ _ ["docs", "user_docs"] [] [] "v1.2.md" "v1.2" ?_ ?_ ?_⟩
    · rw [hpath]
      decide +kernel
    · decide +kernel
    · decide +kernel
  · rw [hreport]
    decide +kernel
  · rw [hreport]
    decide +kernel

end DocAtlas
