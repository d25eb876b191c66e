import DocAtlas.Config.Reader
import DocAtlas.Proofs.Layout.Reference
import DocAtlas.Proofs.Tree.Sources

/-! # References to documents without their extension

A reference names a document without its extension. For its address the output suffix is spelled behind
that name and then exchanged for itself once more. This gives the address of the document exactly if the
suffix has no dot: of any other only what follows the last dot is exchanged, and the rest stays.

* `Path.withoutExtension` — a path up to its last dot
* `Path.child_withoutExtension_append` — the suffix spelled behind it
* `Layout.urlFor_child`, `Layout.urlFor_child_parent` — addresses of what lies in a directory
* `outputNames_spelled_eq_iff` — when a suffix that is exchanged for itself leaves no part behind
* `Layout.referenceUrl_withoutExtension_iff` — when reference and document have one address
-/

set_option autoImplicit false

namespace DocAtlas

/-! ## Without extension -/

/-- The path up to its last dot. Of a path that ends in a name with an extension this leaves the stem. -/
def Path.withoutExtension (p : Path) : Path :=
  match Text.splitAtLast '.' p.text.toList with
  | some (before, _) => ⟨String.ofList before⟩
  | none => p

namespace Path

variable {p dir : Path} {name : String}

/-- Whatever is joined to a directory comes behind one and the same text. -/
theorem exists_text_child (dir : Path) :
    ∃ before, ∀ name : String, '/' ∉ name.toList →
      (dir.child name).text.toList = before ++ name.toList := by
  by_cases h : dir.text = "" ∨ dir.text.toList.getLast? = some '/'
  · refine ⟨dir.text.toList, fun name hname => ?_⟩
    rw [child, text_join_relative (isAbsolute_of_noSlash hname), if_pos h]
  · refine ⟨dir.text.toList ++ ['/'], fun name hname => ?_⟩
    rw [child, text_join_relative (isAbsolute_of_noSlash hname), if_neg h, List.append_assoc,
      List.singleton_append]

/-- Without its extension a file is spelled up to its stem. A suffix behind that is joined to the
directory with the stem. -/
theorem child_withoutExtension_append {stem ext : List Char} {suffix : String}
    (hname : name.toList = stem ++ '.' :: ext) (hslash : '/' ∉ name.toList) (hext : '.' ∉ ext)
    (hsuffix : '/' ∉ suffix.toList) :
    (⟨(dir.child name).withoutExtension.text ++ "." ++ suffix⟩ : Path) =
      dir.child (String.ofList stem ++ "." ++ suffix) := by
  obtain ⟨before, hbefore⟩ := exists_text_child dir
  have hspelled : '/' ∉ (String.ofList stem ++ "." ++ suffix).toList := by
    rw [hname] at hslash
    simp_all
  have hsplit : Text.splitAtLast '.' (dir.child name).text.toList = some (before ++ stem, ext) := by
    rw [hbefore name hslash, hname, ← List.append_assoc]
    exact Text.splitAtLast_append _ hext
  have htext : (dir.child name).withoutExtension.text.toList = before ++ stem := by
    rw [withoutExtension, hsplit, String.toList_ofList]
  have hlists : ((dir.child name).withoutExtension.text ++ "." ++ suffix).toList =
      (dir.child (String.ofList stem ++ "." ++ suffix)).text.toList := by
    rw [hbefore _ hspelled]
    simp [htext]
  rw [String.toList_inj.1 hlists]

end Path

theorem Config.exists_stem_of_supports {config : Config} {p : Path} {name : String}
    (hname : p.fileName = some name) (h : config.supports p = true) :
    ∃ stem ext, splitExtension name.toList = (stem, some ext) ∧
      name.toList = stem ++ '.' :: ext ∧ stem ≠ [] ∧ '.' ∉ ext := by
  unfold supports Path.extension at h
  rw [hname, Option.bind_some] at h
  rcases splitExtension_spec name.toList with hnone | hsome
  · rw [hnone] at h
    cases h
  · exact hsome

/-! ## Addresses of what lies in a directory -/

theorem Component.eq_of_ofSegment_parent {segment : List Char}
    (h : Component.ofSegment segment = some .parent) : segment = ['.', '.'] := by
  unfold ofSegment at h
  split at h
  · cases h
  · cases h
  · rfl
  · cases h

theorem Path.withExtension_of_parent {p : Path} {front : List (List Char)} (extension : String)
    (hbody : p.body = front ++ [['.', '.']]) : p.withExtension extension = p := by
  have hdrop : p.body.reverse.dropWhile isIdle = ['.', '.'] :: front.reverse := by
    rw [hbody, List.reverse_append, List.reverse_singleton, List.singleton_append]
    rfl
  rw [withExtension, hdrop]
  rfl

namespace Layout

variable {layout : Layout} {dir : Path} {folders : List String} {name suffix : String}

theorem urlFor_child_of_components
    (hdir : dir.components = layout.root.components ++ folders.map .normal) (hname : IsName name)
    (hsuffix : '/' ∉ suffix.toList) :
    layout.urlFor (dir.child name) suffix =
      "/".intercalate (folders ++ outputNames suffix name) := by
  have hchild : (dir.child name).components =
      layout.root.components ++ (folders ++ [name]).map .normal := by
    rw [Path.components_child_name hname, hdir, List.append_assoc, List.map_append, List.map_singleton]
  obtain ⟨segments, hstrip, htrimmed, hnames⟩ := Path.stripBase_names hchild
  rw [List.map_append, List.map_singleton] at hnames
  obtain ⟨front, rfl, hfront⟩ := htrimmed.eq_append hnames
  have hbody : (layout.relative (dir.child name)).body = front ++ [name.toList] := by
    rw [relative, hstrip, Option.getD_some, Path.body_spell_false htrimmed (by simp)]
  rw [urlFor_of_body hbody hname hsuffix, hfront, Component.filterMap_map_normal]

/-- Of a `..` nothing is seen in an address, and nothing is exchanged. -/
theorem urlFor_child_parent (suffix : String)
    (hdir : dir.components = layout.root.components ++ folders.map .normal) :
    layout.urlFor (dir.child "..") suffix = "/".intercalate folders := by
  have hchild : (dir.child "..").components =
      layout.root.components ++ (folders.map .normal ++ [.parent]) := by
    have hparent : (Path.mk "..").components = [.parent] := by decide
    rw [Path.child, Path.components_join_of_lead (by decide), hparent, hdir, List.append_assoc]
  have hmore : ∀ c ∈ folders.map Component.normal ++ [.parent], c ≠ .root ∧ c ≠ .current := by
    intro c hc
    rcases List.mem_append.1 hc with hc | hc
    · obtain ⟨n, -, rfl⟩ := List.mem_map.1 hc
      simp
    · rw [List.mem_singleton.1 hc]
      simp
  obtain ⟨segments, hstrip, htrimmed, hnames⟩ := Path.stripBase_behind hmore hchild
  obtain ⟨front, last, rfl, hlast, -⟩ := htrimmed.exists_last hnames
  obtain rfl := Component.eq_of_ofSegment_parent hlast
  have hbody : (layout.relative (dir.child "..")).body = front ++ [['.', '.']] := by
    rw [relative, hstrip, Option.getD_some, Path.body_spell_false htrimmed (by simp)]
  rw [urlFor, Path.withExtension_of_parent suffix hbody, relative, hstrip, Option.getD_some, Path.names,
    Path.components_spell_false htrimmed, hnames, List.filterMap_append,
    Component.filterMap_map_normal]
  exact congrArg _ (List.append_nil folders)

end Layout

/-! ## A suffix exchanged for itself -/

/-- A suffix spelled behind a stem makes a name, unless both together are `..`. -/
theorem isName_spelled {stem suffix : String} (hstem : stem ≠ "") (hslash : '/' ∉ stem.toList)
    (hsuffix : '/' ∉ suffix.toList) (hdots : stem ++ "." ++ suffix ≠ "..") :
    IsName (stem ++ "." ++ suffix) := by
  obtain ⟨c, cs, hcs⟩ := List.exists_cons_of_ne_nil (toList_ne_of_ne (t := "") hstem)
  refine ⟨?_, ?_, hdots, ?_⟩
  · exact fun h => by simpa [hcs] using congrArg String.toList h
  · exact fun h => by simpa [hcs] using congrArg String.toList h
  · simpa using ⟨hslash, hsuffix⟩

/-- Exchanged for itself a suffix gives the names of the document exactly if it has no dot. -/
theorem outputNames_spelled_eq_iff {stem ext : List Char} {name suffix : String}
    (hname : splitExtension name.toList = (stem, some ext)) (hstem : stem ≠ []) :
    outputNames suffix (String.ofList stem ++ "." ++ suffix) = outputNames suffix name ↔
      '.' ∉ suffix.toList := by
  have hne : String.ofList stem ≠ "" := fun h => hstem (by simpa using congrArg String.toList h)
  constructor
  · intro heq hdot
    obtain ⟨before, hspelled⟩ := splitExtension_append_of_mem hne hdot
    have hsuffix : suffix ≠ "" := by
      rintro rfl
      simp at hdot
    by_cases hlone : stem = ['.']
    · -- nothing is left of the document, while the reference keeps its stem
      have hlength : (splitExtension (String.ofList stem ++ "." ++ suffix).toList).1 ≠ ['.'] := by
        rw [hspelled, hlone]
        simp
      have hnothing : outputNames suffix name = [] := outputNames_of_stem_eq (by rw [hname, hlone])
      rw [hnothing,
        outputNames_of_stem_ne (fun h => by simpa using congrArg String.toList h) hsuffix hlength] at heq
      cases heq
    · have hnonempty : name ≠ "" := by
        rintro rfl
        cases hname
      rw [outputNames_of_stem_ne hnonempty hsuffix (by rwa [hname])] at heq
      refine notMem_outputNames_append suffix hne hdot ?_
      have hdotted : Path.dotted suffix.toList = '.' :: suffix.toList :=
        if_neg (toList_ne_of_ne (t := "") hsuffix)
      rw [heq, hname, hdotted, String.toList_ofList]
      exact List.mem_singleton_self _
  · intro hdot
    have hspelled := splitExtension_append hne hdot
    rw [String.toList_ofList] at hspelled
    rw [outputNames, outputNames, outputSegment, outputSegment, hspelled, hname]

/-! ## References and documents -/

/-- A reference that names a source file without its extension has the address of the file exactly if
the suffix has no dot. -/
theorem Layout.referenceUrl_withoutExtension_iff {layout : Layout} {config : Config} {dir : Path}
    {folders : List String} {name suffix : String}
    (hdir : dir.components = layout.root.components ++ folders.map .normal) (hname : IsName name)
    (hsupp : config.supports (dir.child name) = true) (hsuffix : '/' ∉ suffix.toList) :
    layout.referenceUrl (dir.child name).withoutExtension suffix =
        layout.urlFor (dir.child name) suffix ↔
      '.' ∉ suffix.toList := by
  obtain ⟨stem, ext, hsplit, hspelled, hstem, hext⟩ :=
    Config.exists_stem_of_supports (Path.fileName_child hname) hsupp
  have hslash : '/' ∉ stem := fun h => hname.2.2.2 (by simp [hspelled, h])
  have hfolders : ∀ n ∈ folders, IsName n := fun n hn =>
    Path.isName_of_mem_components (p := dir) (by rw [hdir]; simp [hn])
  rw [referenceUrl, Path.child_withoutExtension_append hspelled hname.2.2.2 hext hsuffix,
    urlFor_child_of_components hdir hname hsuffix, ← outputNames_spelled_eq_iff hsplit hstem]
  by_cases hdots : String.ofList stem ++ "." ++ suffix = ".."
  · -- only a stem of one dot and no suffix make `..`, which is as much as nothing
    have hlists : stem ++ '.' :: suffix.toList = ['.', '.'] := by
      simpa using congrArg String.toList hdots
    have hlone : stem = ['.'] := by
      obtain ⟨c, cs, rfl⟩ := List.exists_cons_of_ne_nil hstem
      obtain ⟨rfl, hrest⟩ := List.cons.inj hlists
      cases cs with
      | nil => rfl
      | cons d ds => simp at hrest
    rw [hdots, urlFor_child_parent suffix hdir, outputNames_of_stem_eq (by rw [hsplit, hlone]),
      List.append_nil]
    exact iff_of_true rfl rfl
  · have hisName := isName_spelled (fun h => hstem (by simpa using congrArg String.toList h))
      (by rwa [String.toList_ofList]) hsuffix hdots
    rw [urlFor_child_of_components hdir hisName hsuffix, intercalate_injective,
      List.append_cancel_left_eq]
    · exact isPart_documentNames (by simpa [or_imp, forall_and] using ⟨hfolders, hisName⟩) hsuffix
    · exact isPart_documentNames (by simpa [or_imp, forall_and] using ⟨hfolders, hname⟩) hsuffix

/-- A document with a dot in its stem and a suffix without one. -/
theorem referenceUrl_dottedStem :
    (Layout.ofRoot ⟨"/docs"⟩ {}).referenceUrl (Path.mk "/docs/user_docs/b.tar.md").withoutExtension
        "html" = (Layout.ofRoot ⟨"/docs"⟩ {}).urlFor ⟨"/docs/user_docs/b.tar.md"⟩ "html" := by
  have hdir : (Path.mk "/docs/user_docs").components =
      (Layout.ofRoot ⟨"/docs"⟩ {}).root.components ++ ["user_docs"].map .normal := by decide
  have hname : IsName "b.tar.md" := ⟨by decide, by decide, by decide, by decide⟩
  have hsupp : ({} : Config).supports ((Path.mk "/docs/user_docs").child "b.tar.md") = true := by
    decide +kernel
  exact (Layout.referenceUrl_withoutExtension_iff hdir hname hsupp (by decide)).2 (by decide)

/-- A suffix with a dot is accepted in a configuration, but references to the document miss it. -/
theorem dotted_suffix_misses_document :
    ∃ config, Config.parse? "output_suffix = \"html.gz\"\n" = some config ∧
      '/' ∉ config.outputSuffix.toList ∧
      config.supports ⟨"/docs/user_docs/b.md"⟩ = true ∧
      (Layout.ofRoot ⟨"/docs"⟩ config).referenceUrl
        (Path.mk "/docs/user_docs/b.md").withoutExtension config.outputSuffix =
          "user_docs/b.html.html.gz" ∧
      (Layout.ofRoot ⟨"/docs"⟩ config).urlFor ⟨"/docs/user_docs/b.md"⟩ config.outputSuffix =
        "user_docs/b.html.gz" :=
  ⟨{ outputSuffix := "html.gz" }, by decide +kernel, by decide, by decide +kernel, by decide +kernel,
    by decide +kernel⟩

end DocAtlas
