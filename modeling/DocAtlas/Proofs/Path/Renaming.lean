import DocAtlas.Path.Extension
import DocAtlas.Proofs.Path.Trimming

/-! # Exchanging extensions

* `splitExtension_spec` — the two parts of a file name
* `outputSegment`, `outputNames` — what becomes of the last name of a path under another extension
* `Path.filterMap_segments_withExtension` — the path with another extension
* `outputNames_of_stem_ne`, `outputNames_of_stem_eq` — a name keeps its stem, and none is left of a
  stem that is a single dot
-/

set_option autoImplicit false

namespace DocAtlas

/-! ## Cutting at the last dot -/

theorem Text.splitAtLast_eq_none (c : Char) (s : List Char) :
    Text.splitAtLast c s = none ↔ c ∉ s := by
  induction s with
  | nil => simp [Text.splitAtLast]
  | cons d rest ih =>
    unfold Text.splitAtLast
    cases hrest : Text.splitAtLast c rest with
    | some parts =>
      have hc : c ∈ rest := by
        by_contra hc
        rw [ih.2 hc] at hrest
        cases hrest
      simp [hc]
    | none =>
      have hc : c ∉ rest := ih.1 hrest
      by_cases hd : d = c
      · simp [hd]
      · simp [hd, hc, Ne.symm hd]

theorem Text.splitAtLast_eq_some {c : Char} {s before behind : List Char}
    (h : Text.splitAtLast c s = some (before, behind)) : s = before ++ c :: behind ∧ c ∉ behind := by
  induction s generalizing before with
  | nil => simp [Text.splitAtLast] at h
  | cons d rest ih =>
    unfold Text.splitAtLast at h
    cases hrest : Text.splitAtLast c rest with
    | some parts =>
      obtain ⟨b, e⟩ := parts
      rw [hrest] at h
      cases h
      obtain ⟨hsplit, hnot⟩ := ih hrest
      exact ⟨by rw [hsplit]; rfl, hnot⟩
    | none =>
      rw [hrest] at h
      by_cases hd : d = c
      · simp only [hd, if_true] at h
        cases h
        exact ⟨by rw [hd]; rfl, (Text.splitAtLast_eq_none c _).1 hrest⟩
      · simp [hd] at h

theorem Text.splitAtLast_append {c : Char} (before : List Char) {behind : List Char}
    (h : c ∉ behind) : Text.splitAtLast c (before ++ c :: behind) = some (before, behind) := by
  induction before with
  | nil => simp [Text.splitAtLast, (Text.splitAtLast_eq_none c behind).2 h]
  | cons d rest ih => rw [List.cons_append, Text.splitAtLast, ih]

/-- A name is its stem alone, or its stem, a dot and an extension without dots. -/
theorem splitExtension_spec (name : List Char) :
    splitExtension name = (name, none) ∨
      ∃ stem ext, splitExtension name = (stem, some ext) ∧ name = stem ++ '.' :: ext ∧
        stem ≠ [] ∧ '.' ∉ ext := by
  unfold splitExtension
  cases h : Text.splitAtLast '.' name with
  | none => exact Or.inl rfl
  | some parts =>
    obtain ⟨stem, ext⟩ := parts
    obtain ⟨hname, hext⟩ := Text.splitAtLast_eq_some h
    cases stem with
    | nil => exact Or.inl rfl
    | cons c cs => exact Or.inr ⟨c :: cs, ext, rfl, hname, by simp, hext⟩

theorem stem_subset (name : List Char) : ∀ c ∈ (splitExtension name).1, c ∈ name := by
  intro c hc
  rcases splitExtension_spec name with h | ⟨stem, ext, h, hname, -, -⟩
  · rwa [h] at hc
  · rw [h] at hc
    rw [hname]
    exact List.mem_append_left _ hc

theorem stem_ne_nil {name : List Char} (h : name ≠ []) : (splitExtension name).1 ≠ [] := by
  rcases splitExtension_spec name with hs | ⟨stem, ext, hs, -, hstem, -⟩
  · rwa [hs]
  · rwa [hs]

/-! ## The last name under another extension -/

/-- The segment that stands for a file called `name` under another extension. The old one is taken
away first, and what that leaves of `..md` is no name. -/
def outputSegment (extension name : String) : List Char :=
  if (splitExtension name.toList).1 = ['.'] then ['.', '.']
  else (splitExtension name.toList).1 ++ Path.dotted extension.toList

/-- The name in that segment, if there is one. -/
def outputNames (extension name : String) : List String :=
  ((Component.ofSegment (outputSegment extension name)).bind Component.name?).toList

theorem noSlash_outputSegment {extension name : String} (he : '/' ∉ extension.toList)
    (hn : '/' ∉ name.toList) : '/' ∉ outputSegment extension name := by
  unfold outputSegment
  split
  · simp
  · intro h
    rcases List.mem_append.1 h with h | h
    · exact hn (stem_subset _ _ h)
    · unfold Path.dotted at h
      split at h
      · simp at h
      · rcases List.mem_cons.1 h with h | h
        · cases h
        · exact he h

theorem ofSegment_outputSegment_of_stem_eq {extension name : String}
    (h : (splitExtension name.toList).1 = ['.']) :
    Component.ofSegment (outputSegment extension name) = some .parent := by
  rw [outputSegment, if_pos h]
  rfl

theorem outputNames_of_stem_eq {extension name : String}
    (h : (splitExtension name.toList).1 = ['.']) : outputNames extension name = [] := by
  rw [outputNames, ofSegment_outputSegment_of_stem_eq h]
  rfl

theorem outputNames_of_ofSegment {extension name part : String}
    (h : Component.ofSegment (outputSegment extension name) = some (.normal part)) :
    outputNames extension name = [part] := by
  rw [outputNames, h]
  rfl

/-- Under an extension that is not empty a name keeps its stem. -/
theorem ofSegment_outputSegment_of_stem_ne {extension name : String} (hname : name ≠ "")
    (hext : extension ≠ "") (h : (splitExtension name.toList).1 ≠ ['.']) :
    Component.ofSegment (outputSegment extension name) = some (.normal
      (String.ofList ((splitExtension name.toList).1 ++ '.' :: extension.toList))) := by
  have hext' : extension.toList ≠ [] := toList_ne_of_ne (t := "") hext
  have hstem := stem_ne_nil (toList_ne_of_ne (t := "") hname)
  obtain ⟨c, cs, hcs⟩ := List.exists_cons_of_ne_nil hstem
  obtain ⟨d, ds, hds⟩ := List.exists_cons_of_ne_nil hext'
  unfold outputSegment Path.dotted
  simp only [if_neg h, if_neg hext']
  rw [hcs, hds]
  -- the segment has three characters at least, so that it is a name
  unfold Component.ofSegment
  split <;> simp_all
  cases cs <;> simp_all

theorem outputNames_of_stem_ne {extension name : String} (hname : name ≠ "") (hext : extension ≠ "")
    (h : (splitExtension name.toList).1 ≠ ['.']) :
    outputNames extension name =
      [String.ofList ((splitExtension name.toList).1 ++ '.' :: extension.toList)] :=
  outputNames_of_ofSegment (ofSegment_outputSegment_of_stem_ne hname hext h)

theorem exists_ofSegment_outputSegment {name : String} (extension : String) (hname : name ≠ "") :
    ∃ c, Component.ofSegment (outputSegment extension name) = some c := by
  rw [← Option.ne_none_iff_exists', Ne, Component.ofSegment_eq_none]
  unfold outputSegment
  by_cases hdot : (splitExtension name.toList).1 = ['.']
  · rw [if_pos hdot]
    decide
  · rw [if_neg hdot]
    have hstem := stem_ne_nil (toList_ne_of_ne (t := "") hname)
    obtain ⟨c, cs, hcs⟩ := List.exists_cons_of_ne_nil hstem
    rw [hcs] at hdot ⊢
    simp only [Path.isIdle, List.cons_append, Bool.or_eq_true, beq_iff_eq, reduceCtorEq, false_or,
      List.cons.injEq, List.append_eq_nil_iff]
    rintro ⟨rfl, rfl, -⟩
    exact hdot rfl

/-- What is left of a name is its stem behind which the extension is spelled. -/
theorem mem_outputNames {extension name part : String} (h : part ∈ outputNames extension name) :
    (splitExtension name.toList).1 ≠ ['.'] ∧
      part.toList = (splitExtension name.toList).1 ++ Path.dotted extension.toList := by
  by_cases hdot : (splitExtension name.toList).1 = ['.']
  · rw [outputNames_of_stem_eq hdot] at h
    cases h
  · refine ⟨hdot, ?_⟩
    rw [outputNames, Option.mem_toList, Option.bind_eq_some_iff] at h
    obtain ⟨c, hc, hpart⟩ := h
    rw [Component.name?_eq_some.1 hpart] at hc
    obtain ⟨hsegment, -⟩ := Component.ofSegment_eq_normal hc
    rw [← hsegment, outputSegment, if_neg hdot]

/-- A text that a stem and an extension spell, if it is a name, is what is left. -/
theorem ofSegment_outputSegment_of_isName {extension name part : String} (hpart : IsName part)
    (hdot : (splitExtension name.toList).1 ≠ ['.'])
    (hspell : part.toList = (splitExtension name.toList).1 ++ Path.dotted extension.toList) :
    Component.ofSegment (outputSegment extension name) = some (.normal part) := by
  rw [outputSegment, if_neg hdot, ← hspell, Component.ofSegment_name hpart]

namespace Path

/-! ## The path -/

/-- Another extension exchanges the last segment of a path. -/
theorem segments_withExtension {p : Path} {front : List (List Char)} {name : String}
    (extension : String) (hbody : p.body = front ++ [name.toList]) (hname : IsName name) :
    p.withExtension extension = spell p.isAbsolute (front ++ [outputSegment extension name]) := by
  have hidle : isIdle name.toList = false := by
    have h0 : name.toList ≠ [] := toList_ne_of_ne hname.1
    have h1 : name.toList ≠ ['.'] := toList_ne_of_ne hname.2.1
    simp [isIdle, h0, h1]
  have hdrop : p.body.reverse.dropWhile isIdle = name.toList :: front.reverse := by
    rw [hbody, List.reverse_append, List.reverse_singleton, List.singleton_append,
      List.dropWhile_cons, if_neg (by simp [hidle])]
  have hlast : p.body.getLast? = some name.toList := by
    rw [hbody, List.getLast?_append]
    rfl
  unfold withExtension
  rw [hdrop]
  split
  · rename_i h
    cases h
  · rename_i before h
    exact absurd (List.cons.inj h).1 (toList_ne_of_ne hname.2.2.1)
  · rename_i last before _ h
    obtain ⟨rfl, rfl⟩ := List.cons.inj h
    unfold outputSegment
    simp only [List.reverse_reverse, hlast, and_true]
    split <;> rfl

theorem filterMap_segments_withExtension {p : Path} {front : List (List Char)} {name : String}
    {extension : String} (hbody : p.body = front ++ [name.toList]) (hname : IsName name)
    (hext : '/' ∉ extension.toList) :
    (p.withExtension extension).segments.filterMap Component.ofSegment =
      front.filterMap Component.ofSegment ++
        (Component.ofSegment (outputSegment extension name)).toList := by
  have hslash : ∀ s ∈ front ++ [outputSegment extension name], '/' ∉ s := by
    intro s hs
    rcases List.mem_append.1 hs with hs | hs
    · exact noSlash_of_mem_body (p := p) s (by rw [hbody]; exact List.mem_append_left _ hs)
    · rw [List.mem_singleton.1 hs]
      exact noSlash_outputSegment hext hname.2.2.2
  rw [segments_withExtension extension hbody hname, filterMap_segments_spell _ hslash,
    List.filterMap_append]
  cases h : Component.ofSegment (outputSegment extension name) <;> simp [h]

theorem isAbsolute_spell_true (segments : List (List Char)) :
    (spell true segments).isAbsolute = true := by
  rw [isAbsolute_iff, toList_text_spell]
  exact ⟨_, rfl⟩

theorem components_withExtension {p : Path} {front : List (List Char)} {name : String}
    {extension : String} (hp : p.isAbsolute = true) (hbody : p.body = front ++ [name.toList])
    (hname : IsName name) (hext : '/' ∉ extension.toList) :
    (p.withExtension extension).components = .root :: (front.filterMap Component.ofSegment ++
      (Component.ofSegment (outputSegment extension name)).toList) := by
  have habs : (p.withExtension extension).isAbsolute = true := by
    rw [segments_withExtension extension hbody hname, hp]
    exact isAbsolute_spell_true _
  rw [components_of_absolute habs, filterMap_segments_withExtension hbody hname hext]

theorem names_withExtension {p : Path} {front : List (List Char)} {name : String}
    {extension : String} (hbody : p.body = front ++ [name.toList]) (hname : IsName name)
    (hext : '/' ∉ extension.toList) :
    (p.withExtension extension).names =
      (front.filterMap Component.ofSegment).filterMap Component.name? ++
        outputNames extension name := by
  rw [names_eq, filterMap_segments_withExtension hbody hname hext, List.filterMap_append]
  unfold outputNames
  cases Component.ofSegment (outputSegment extension name) with
  | none => rfl
  | some c => cases c <;> rfl

end Path

end DocAtlas
