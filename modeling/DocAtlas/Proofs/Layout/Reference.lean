import DocAtlas.Proofs.Layout.Address
import DocAtlas.Proofs.Tree.Descent

/-! # Addresses of references

The address of a reference is formed from the path it names, its candidate, with the output suffix
spelled behind it and then exchanged once more. Its names are those of the candidate as they are seen
from the root, or from `/` where the candidate lies outside.

* `Layout.referenceNames` — the names in the address of a reference
* `Layout.documentNames` — the names in the address of a document
* `Layout.referenceUrl_eq`, `Layout.urlFor_eq` — the addresses are made of them
-/

set_option autoImplicit false

namespace DocAtlas

/-! ## Spelling behind a name -/

theorem IsName.append_suffix {name suffix : String} (h : IsName name) (hsuffix : '/' ∉ suffix.toList) :
    IsName (name ++ "." ++ suffix) := by
  obtain ⟨h0, h1, h2, hslash⟩ := h
  obtain ⟨c, cs, hcs⟩ := List.exists_cons_of_ne_nil (toList_ne_of_ne (t := "") h0)
  have htext : (name ++ "." ++ suffix).toList = c :: (cs ++ '.' :: suffix.toList) := by
    simp [hcs]
  have hne : ∀ s : String, (name ++ "." ++ suffix).toList ≠ s.toList → name ++ "." ++ suffix ≠ s :=
    fun s hs e => hs (congrArg String.toList e)
  refine ⟨hne _ ?_, hne _ ?_, hne _ ?_, ?_⟩
  · simp [htext]
  · simp [htext]
  · rw [htext]
    intro e
    have hlist : c :: (cs ++ '.' :: suffix.toList) = ['.', '.'] := e
    obtain ⟨rfl, hrest⟩ := List.cons.inj hlist
    have hcs0 : cs = [] := by
      cases cs with
      | nil => rfl
      | cons d ds => simpa using congrArg List.length hrest
    subst hcs0
    exact h1 (String.toList_inj.1 hcs)
  · rw [htext]
    rw [hcs] at hslash
    simp only [List.mem_cons, List.mem_append, not_or] at hslash ⊢
    exact ⟨hslash.1, hslash.2, by decide, hsuffix⟩

theorem IsName.dotted {name suffix : String} (h : IsName name) (hsuffix : '/' ∉ suffix.toList) :
    IsName (String.ofList (name.toList ++ Path.dotted suffix.toList)) := by
  unfold Path.dotted
  by_cases hempty : suffix.toList = []
  · rwa [if_pos hempty, List.append_nil, String.ofList_toList]
  · rw [if_neg hempty]
    have hspelled := h.append_suffix hsuffix
    rwa [← String.ofList_toList (s := name ++ "." ++ suffix), String.toList_append,
      String.toList_append, List.append_assoc] at hspelled

/-- Spelled behind a dot a text is a name unless that makes `.` or `..`. -/
theorem eq_of_not_isName_append {text : String} (hslash : '/' ∉ text.toList)
    (h : ¬ IsName ("." ++ text)) : text = "" ∨ text = "." := by
  by_contra hne
  rw [not_or] at hne
  refine h ⟨?_, ?_, ?_, ?_⟩
  · exact fun e => by simpa using congrArg String.toList e
  · exact fun e => hne.1 (by simpa using e)
  · exact fun e => hne.2 (String.append_right_inj "." |>.1 e)
  · simpa using hslash

/-- A suffix without dots spelled behind a name is the extension of the whole. -/
theorem splitExtension_append {name suffix : String} (hname : name ≠ "")
    (hdot : '.' ∉ suffix.toList) :
    splitExtension (name ++ "." ++ suffix).toList = (name.toList, some suffix.toList) := by
  obtain ⟨c, cs, hcs⟩ := List.exists_cons_of_ne_nil (toList_ne_of_ne (t := "") hname)
  have hsplit := Text.splitAtLast_append name.toList hdot
  rw [String.toList_append, String.toList_append, List.append_assoc,
    show ".".toList ++ suffix.toList = '.' :: suffix.toList from rfl, splitExtension, hsplit, hcs]

/-- Of a suffix with a dot the last part alone is the extension of the whole. -/
theorem splitExtension_append_of_mem {name suffix : String} (hname : name ≠ "")
    (hdot : '.' ∈ suffix.toList) :
    ∃ before, (splitExtension (name ++ "." ++ suffix).toList).1 = name.toList ++ '.' :: before := by
  obtain ⟨⟨before, behind⟩, hsplit⟩ := Option.ne_none_iff_exists'.1 fun e =>
    (Text.splitAtLast_eq_none '.' suffix.toList).1 e hdot
  obtain ⟨hsuffix, hbehind⟩ := Text.splitAtLast_eq_some hsplit
  obtain ⟨c, cs, hcs⟩ := List.exists_cons_of_ne_nil (toList_ne_of_ne (t := "") hname)
  have hwhole := Text.splitAtLast_append (name.toList ++ '.' :: before) hbehind
  refine ⟨before, ?_⟩
  rw [String.toList_append, String.toList_append, hsuffix, List.append_assoc,
    show ".".toList ++ (before ++ '.' :: behind) = '.' :: (before ++ '.' :: behind) from rfl,
    ← List.cons_append, ← List.append_assoc, splitExtension, hwhole, hcs]
  rfl

/-- A document whose stem is a name is left that name. -/
theorem ofSegment_of_stem_eq {name last suffix : String} (hlast : IsName last)
    (hsuffix : '/' ∉ suffix.toList) (hstem : (splitExtension name.toList).1 = last.toList) :
    Component.ofSegment (outputSegment suffix name) =
      some (.normal (String.ofList (last.toList ++ Path.dotted suffix.toList))) := by
  apply ofSegment_outputSegment_of_isName (hlast.dotted hsuffix)
  · rw [hstem]
    exact toList_ne_of_ne (t := ".") hlast.2.1
  · rw [hstem, String.toList_ofList]

/-- Behind a name an extension without dots is replaced by the suffix. -/
theorem outputNames_append {name suffix extension : String} (hname : IsName name)
    (hsuffix : '/' ∉ suffix.toList) (hdot : '.' ∉ extension.toList) :
    outputNames suffix (name ++ "." ++ extension) =
      [String.ofList (name.toList ++ Path.dotted suffix.toList)] := by
  have hstem := congrArg Prod.fst (splitExtension_append hname.1 hdot)
  exact outputNames_of_ofSegment (ofSegment_of_stem_eq hname hsuffix hstem)

/-- Of an extension with dots a part stays behind the name. -/
theorem notMem_outputNames_append {name extension : String} (suffix : String) (hname : name ≠ "")
    (hdot : '.' ∈ extension.toList) :
    String.ofList (name.toList ++ Path.dotted suffix.toList) ∉
      outputNames suffix (name ++ "." ++ extension) := by
  intro hmem
  obtain ⟨before, hstem⟩ := splitExtension_append_of_mem hname hdot
  have hlist := (mem_outputNames hmem).2
  rw [hstem, String.toList_ofList] at hlist
  have hlength := congrArg List.length hlist
  simp only [List.length_append, List.length_cons] at hlength
  omega

namespace Path

theorem stripBase_congr {base other : Path} (h : base.same other = true) (p : Path) :
    p.stripBase base = p.stripBase other := by
  unfold stripBase startsWith
  rw [same_iff.1 h]

theorem withExtension_of_names_eq_nil {p : Path} (h : p.names = []) (extension : String) :
    p.withExtension extension = p := by
  unfold withExtension
  split
  · rfl
  · rfl
  · rename_i last before hparent hbody
    have hmem : last ∈ p.body := by
      have hdropped : last ∈ p.body.reverse.dropWhile isIdle := by
        rw [hbody]
        exact List.mem_cons_self
      exact List.mem_reverse.1 ((List.dropWhile_sublist _).subset hdropped)
    have hfirst : (p.body.reverse.dropWhile isIdle).head? = some last := by
      rw [hbody]
      rfl
    have hidle : isIdle last = false := head?_dropWhile_not hfirst
    -- the segment is neither idle nor `..`, so that it names something
    have hname : Component.ofSegment last = some (.normal (String.ofList last)) := by
      unfold Component.ofSegment
      split
      · cases hidle
      · cases hidle
      · exact absurd rfl hparent
      · rfl
    have hin : String.ofList last ∈ p.names := by
      rw [names, components, List.filterMap_append, List.mem_append]
      refine Or.inr (List.mem_filterMap.2 ⟨.normal (String.ofList last), ?_, rfl⟩)
      exact List.mem_filterMap.2 ⟨last, hmem, hname⟩
    rw [h] at hin
    cases hin

theorem child_slash {name : String} (h : IsName name) :
    (Path.mk "/").child name = ⟨"/" ++ name⟩ := by
  unfold child join
  rw [isAbsolute_name h]
  rfl

/-- A text spelled behind a path whose last name was joined is spelled behind that name. -/
theorem child_append {p : Path} {name text : String} (h : IsName name) (ht : IsName (name ++ text)) :
    (Path.mk ((p.child name).text ++ text)) = p.child (name ++ text) := by
  unfold child join
  rw [isAbsolute_name h, isAbsolute_name ht]
  simp only [Bool.false_eq_true, if_false]
  split
  · rw [String.append_assoc]
  · rw [String.append_assoc]

end Path

theorem Trimmed.eq_nil {segments : List (List Char)} (h : Trimmed segments)
    (hnames : segments.filterMap Component.ofSegment = []) : segments = [] := by
  cases segments with
  | nil => rfl
  | cons s rest =>
    have hs : Component.ofSegment s = none := List.filterMap_eq_nil_iff.1 hnames s (by simp)
    have hidle := h.head s rfl
    rw [(Component.ofSegment_eq_none s).1 hs] at hidle
    cases hidle

theorem Tree.pathOf_concat (names : List String) (name : String) :
    pathOf (names ++ [name]) = (pathOf names).child name := by
  simp [pathOf]

theorem Tree.names_pathOf {names : List String} (h : ∀ n ∈ names, IsName n) :
    (pathOf names).names = names :=
  (spells_pathOf h).names_eq

/-! ## Names of addresses -/

namespace Layout

/-- The names in the address of a reference, `c` being its candidate. -/
def referenceNames (layout : Layout) (c : Path) (suffix : String) : List String :=
  let front := c.names.dropLast
  let last := c.names.getLast?.getD "" ++ "." ++ suffix
  if layout.root.names = front ++ [last] then []
  else (if layout.root.names <+: front then front.drop layout.root.names.length else front) ++
    outputNames suffix last

/-- The names in the address of a document below the root. -/
def documentNames (layout : Layout) (d : Path) (suffix : String) : List String :=
  d.names.dropLast.drop layout.root.names.length ++ outputNames suffix (d.names.getLast?.getD "")

theorem urlFor_eq {layout : Layout} {d : Path} {rootNames folders : List String} {name suffix : String}
    (hroot : layout.root.Spells rootNames) (hd : d.Spells (rootNames ++ (folders ++ [name])))
    (hsuffix : '/' ∉ suffix.toList) :
    layout.documentNames d suffix = folders ++ outputNames suffix name ∧
      layout.urlFor d suffix = "/".intercalate (layout.documentNames d suffix) := by
  have hnames : layout.documentNames d suffix = folders ++ outputNames suffix name := by
    unfold documentNames
    rw [hd.names_eq, hroot.names_eq, ← List.append_assoc, List.dropLast_concat, List.drop_left]
    simp
  rw [hnames]
  exact ⟨rfl, urlFor_below hroot hd hsuffix⟩

theorem urlFor_child {layout : Layout} {rootNames front : List String} {last suffix : String}
    (hroot : layout.root.Spells rootNames) (hfront : ∀ n ∈ front, IsName n) (hlast : IsName last)
    (hsuffix : '/' ∉ suffix.toList) :
    layout.urlFor ((Tree.pathOf front).child last) suffix = "/".intercalate
      (if rootNames = front ++ [last] then []
        else (if rootNames <+: front then front.drop rootNames.length else front) ++
          outputNames suffix last) := by
  have hspells : ((Tree.pathOf front).child last).Spells (front ++ [last]) :=
    (Tree.spells_pathOf hfront).child hlast
  by_cases hsame : rootNames = front ++ [last]
  · -- the path is that of the root, and nothing is left of it
    rw [if_pos hsame]
    rw [← hsame, ← List.append_nil rootNames] at hspells
    obtain ⟨segments, hrelative, htrim, hnone⟩ := relative_below hroot hspells
    rw [htrim.eq_nil hnone] at hrelative
    rw [urlFor, hrelative]
    rfl
  · rw [if_neg hsame]
    by_cases hprefix : rootNames <+: front
    · rw [if_pos hprefix]
      obtain ⟨behind, rfl⟩ := hprefix
      rw [List.append_assoc] at hspells
      rw [urlFor_below hroot hspells hsuffix, List.drop_left]
    · rw [if_neg hprefix]
      refine urlFor_outside ?_ (Tree.spells_pathOf hfront) hlast hsuffix
      rw [← Bool.not_eq_true, hspells.startsWith_iff hroot, List.prefix_concat_iff]
      exact not_or.2 ⟨hsame, hprefix⟩

/-- Seen from any root, nothing of `/.` and `/..` makes an address. -/
theorem urlFor_dots {layout : Layout} {rootNames : List String} {text : String} (suffix : String)
    (hroot : layout.root.Spells rootNames) (htext : text = "/." ∨ text = "/..") :
    layout.urlFor ⟨text⟩ suffix = "" := by
  have hnames : (layout.relative ⟨text⟩).names = [] := by
    cases rootNames with
    | nil =>
      have hslash : layout.root.same ⟨"/"⟩ = true := Path.same_iff.2 hroot
      rw [relative, Path.stripBase_congr hslash]
      rcases htext with rfl | rfl <;> decide
    | cons first others =>
      have hout : (Path.mk text).startsWith layout.root = false := by
        rw [Path.startsWith, show layout.root.components = _ from hroot]
        rcases htext with rfl | rfl <;> rfl
      rw [relative_outside hout]
      rcases htext with rfl | rfl <;> decide
  rw [urlFor, Path.withExtension_of_names_eq_nil hnames, hnames]
  rfl

theorem urlFor_slash {layout : Layout} {rootNames : List String} {suffix : String}
    (hroot : layout.root.Spells rootNames) (hsuffix : '/' ∉ suffix.toList) :
    layout.urlFor ⟨"/" ++ "." ++ suffix⟩ suffix = "/".intercalate
      (if rootNames = ["." ++ suffix] then [] else outputNames suffix ("." ++ suffix)) := by
  by_cases hname : IsName ("." ++ suffix)
  · have hfront : ∀ n ∈ ([] : List String), IsName n := by simp
    have hurl := urlFor_child hroot hfront hname hsuffix
    simp only [List.nil_append, List.drop_nil, ite_self] at hurl
    rw [← hurl]
    rw [show Tree.pathOf [] = ⟨"/"⟩ from rfl, Path.child_slash hname, String.append_assoc]
  · have hroot_ne : rootNames ≠ ["." ++ suffix] := by
      rintro rfl
      exact hname (hroot.isName _ (by simp))
    rw [if_neg hroot_ne]
    rcases eq_of_not_isName_append hsuffix hname with rfl | rfl
    · exact urlFor_dots _ hroot (Or.inl rfl)
    · exact urlFor_dots _ hroot (Or.inr rfl)

theorem referenceUrl_eq {layout : Layout} {rootNames names : List String} {suffix : String}
    (hroot : layout.root.Spells rootNames) (hnames : ∀ n ∈ names, IsName n)
    (hsuffix : '/' ∉ suffix.toList) :
    layout.referenceUrl (Tree.pathOf names) suffix =
      "/".intercalate (layout.referenceNames (Tree.pathOf names) suffix) := by
  unfold referenceUrl referenceNames
  rw [Tree.names_pathOf hnames, hroot.names_eq]
  rcases List.eq_nil_or_concat' names with rfl | ⟨front, last, rfl⟩
  · rw [show Tree.pathOf [] = ⟨"/"⟩ from rfl, urlFor_slash hroot hsuffix]
    simp
  · have hlast : IsName last := hnames last (by simp)
    have hspelled := hlast.append_suffix hsuffix
    have hfront : ∀ n ∈ front, IsName n := fun n hn => hnames n (by simp [hn])
    rw [Tree.pathOf_concat, String.append_assoc,
      Path.child_append hlast (by rwa [← String.append_assoc]), ← String.append_assoc,
      urlFor_child hroot hfront hspelled hsuffix]
    simp

theorem isPart_referenceNames {layout : Layout} {names : List String} {suffix : String}
    (hnames : ∀ n ∈ names, IsName n) (hsuffix : '/' ∉ suffix.toList) :
    ∀ part ∈ layout.referenceNames (Tree.pathOf names) suffix, IsPart part := by
  intro part hpart
  unfold referenceNames at hpart
  rw [Tree.names_pathOf hnames] at hpart
  dsimp only at hpart
  split at hpart
  · simp at hpart
  · rcases List.mem_append.1 hpart with hpart | hpart
    · have hfront : part ∈ names.dropLast := by
        split at hpart
        · exact List.mem_of_mem_drop hpart
        · exact hpart
      exact (hnames part ((List.dropLast_sublist names).subset hfront)).isPart
    · refine isPart_of_mem_outputNames hsuffix ?_ hpart
      have hlast : '/' ∉ (names.getLast?.getD "").toList := by
        cases hl : names.getLast? with
        | none => simp
        | some last => exact (hnames last (List.mem_of_getLast? hl)).2.2.2
      simp [hlast, hsuffix]

/-! ## Candidates below the root -/

/-- Whether a path lies below the root. The root itself does not. -/
def isBelow (layout : Layout) (p : Path) : Bool :=
  p.startsWith layout.root && !p.same layout.root

theorem isBelow_iff {layout : Layout} {p : Path} {rootNames names : List String}
    (hroot : layout.root.Spells rootNames) (hp : p.Spells names) :
    layout.isBelow p = true ↔ ∃ front last, names = rootNames ++ (front ++ [last]) := by
  rw [isBelow, Bool.and_eq_true, Bool.not_eq_true', ← Bool.not_eq_true, hp.startsWith_iff hroot,
    hp.same_iff hroot]
  constructor
  · rintro ⟨⟨behind, rfl⟩, hne⟩
    obtain ⟨front, last, rfl⟩ := (List.eq_nil_or_concat' behind).resolve_left fun e => hne (by simp [e])
    exact ⟨front, last, rfl⟩
  · rintro ⟨front, last, rfl⟩
    exact ⟨List.prefix_append _ _, by simp⟩

theorem referenceNames_below {layout : Layout} {rootNames front : List String} {last : String}
    (suffix : String) (hroot : layout.root.Spells rootNames)
    (hnames : ∀ n ∈ rootNames ++ (front ++ [last]), IsName n) :
    layout.referenceNames (Tree.pathOf (rootNames ++ (front ++ [last]))) suffix =
      front ++ outputNames suffix (last ++ "." ++ suffix) := by
  have hfront : (rootNames ++ (front ++ [last])).dropLast = rootNames ++ front := by
    rw [← List.append_assoc, List.dropLast_concat]
  have hlast : (rootNames ++ (front ++ [last])).getLast?.getD "" = last := by simp
  have hne : ¬ rootNames = rootNames ++ front ++ [last ++ "." ++ suffix] := by simp
  unfold referenceNames
  rw [Tree.names_pathOf hnames, hroot.names_eq, hfront, hlast]
  dsimp only
  rw [if_neg hne, if_pos (List.prefix_append _ _), List.drop_left]

/-- Where the last name of a document is left a name and the suffix has no dots, a document and a
reference below the root agree exactly if the reference names the document without extension. -/
theorem names_agree_iff {folders front : List String} {name last part suffix : String}
    (hlast : IsName last) (hsuffix : '/' ∉ suffix.toList) (hdot : '.' ∉ suffix.toList)
    (hpart : Component.ofSegment (outputSegment suffix name) = some (.normal part)) :
    folders ++ outputNames suffix name = front ++ outputNames suffix (last ++ "." ++ suffix) ↔
      folders = front ∧ (splitExtension name.toList).1 = last.toList := by
  have hnames := outputNames_of_ofSegment hpart
  have hmem : part ∈ outputNames suffix name := by
    rw [hnames]
    simp
  have hspell := (mem_outputNames hmem).2
  rw [hnames, outputNames_append hlast hsuffix hdot]
  constructor
  · intro heq
    obtain ⟨hfolders, hparts⟩ := List.append_inj' heq rfl
    have hlist := congrArg String.toList (List.cons.inj hparts).1
    rw [hspell, String.toList_ofList] at hlist
    exact ⟨hfolders, List.append_cancel_right hlist⟩
  · rintro ⟨rfl, hstem⟩
    rw [← hstem, ← hspell, String.ofList_toList]

end Layout

end DocAtlas
