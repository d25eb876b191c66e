import DocAtlas.Proofs.Markup.Roles

/-! # References that stay inside

A target that is a mail address or has a scheme makes no reference. It is looked at as it is written, and
trimmed only after that, so that a mail address behind blanks is not seen to be one. Nothing else gets
through: what is left of a target is a part of it, and only an extension is cut off at the end.

* `Markup.exists_of_mem_scanFrom` — where the targets of a pattern come from
* `Reference.exists_of_normalize` — a normalised target is the trimmed one but for an extension
* `Reference.IsHiddenMail` — mail addresses behind blanks
* `Reference.blankPatterns`, `Reference.mem_written_hidden_iff` — which patterns find them
* `Reference.internal_iff` — references are internal but for hidden mail addresses
-/

set_option autoImplicit false

namespace DocAtlas

/-! ## Targets without blanks -/

namespace Markup

open Text (isBlank)

variable {pattern : Pattern} {target behind s : List Char}

theorem exists_of_mem_scanFrom {atLineStart : Bool} {skip : Nat}
    (h : target ∈ scanFrom pattern atLineStart skip s) :
    ∃ start rest behind, pattern start rest = some (target, behind) := by
  induction s generalizing atLineStart skip with
  | nil => simp [scanFrom] at h
  | cons c rest ih =>
    cases skip with
    | succ skip => exact ih h
    | zero =>
      rw [scanFrom] at h
      split at h
      · rename_i found behind hfound
        rcases List.mem_cons.1 h with rfl | h
        · exact ⟨atLineStart, c :: rest, behind, hfound⟩
        · exact ih h
      · exact ih h

theorem noBlank_markdownLink {start : Bool} (h : markdownLink start s = some (target, behind)) :
    ∀ c ∈ target, isBlank c = false := by
  simp only [markdownLink, bind, Option.bind_eq_some_iff, Option.or_eq_some_iff] at h
  obtain ⟨_, _, _, _, ⟨run, rest⟩, hrun, _, _, heq⟩ := h
  have hchars : ∀ c ∈ run, isLinkChar c = true := by
    rcases hrun with hrun | ⟨-, hrun⟩
    · exact (expectRun_eq_some hrun).2.2
    · exact (expectRun_eq_some hrun).2.2
  cases heq
  intro c hc
  have hchar := hchars c hc
  simp only [isLinkChar, Bool.and_eq_true, Bool.not_eq_true'] at hchar
  exact hchar.2

theorem noBlank_of_expectRun {start : Bool}
    (h : (if start then expectRun (!isBlank ·) s else none) = some (target, behind)) :
    ∀ c ∈ target, isBlank c = false := by
  split at h
  · intro c hc
    simpa using (expectRun_eq_some h).2.2 c hc
  · cases h

theorem noBlank_fenceInclude {start : Bool} (h : fenceInclude start s = some (target, behind)) :
    ∀ c ∈ target, isBlank c = false := by
  simp only [fenceInclude, bind, Option.bind_eq_some_iff] at h
  obtain ⟨_, _, _, _, _, _, h⟩ := h
  exact noBlank_of_expectRun h

theorem noBlank_rstInclude {start : Bool} (h : rstInclude start s = some (target, behind)) :
    ∀ c ∈ target, isBlank c = false := by
  simp only [rstInclude, bind, Option.bind_eq_some_iff] at h
  obtain ⟨_, _, _, _, _, _, h⟩ := h
  exact noBlank_of_expectRun h

end Markup

namespace Reference

open Text (isBlank trim trimStart)

variable {target file s r : List Char}

theorem mem_of_mem_unwrap {c : Char} (h : c ∈ unwrap s) : c ∈ s := by
  unfold unwrap at h
  split at h
  · unfold Text.afterLast? at h
    cases hsplit : Text.splitAtLast '<' s.dropLast with
    | none => simpa [hsplit] using h
    | some parts =>
      obtain ⟨before, behind⟩ := parts
      rw [hsplit] at h
      refine List.mem_of_mem_dropLast ?_
      rw [(Text.splitAtLast_eq_some hsplit).1]
      exact List.mem_append_right _ (List.mem_cons_of_mem _ h)
  · exact h

/-! ## Normalised targets -/

/-- At most an extension with its dot is cut off. -/
theorem exists_extension (file : List Char) :
    ∃ cut, file = withoutExtension file ++ cut ∧ (cut = [] ∨ ∃ extension, cut = '.' :: extension) := by
  unfold withoutExtension
  split
  · rename_i stem extension hsplit
    split
    · exact ⟨'.' :: extension, (Text.splitAtLast_eq_some hsplit).1, Or.inr ⟨extension, rfl⟩⟩
    · exact ⟨[], (List.append_nil file).symm, Or.inl rfl⟩
  · exact ⟨[], (List.append_nil file).symm, Or.inl rfl⟩

/-- A target is trimmed and kept, but for an extension at its end. -/
theorem exists_kept (target : List Char) :
    ∃ kept cut, trim (target.takeWhile (· != '#')) = kept ++ cut ∧
      (cut = [] ∨ ∃ extension, cut = '.' :: extension) ∧ (kept = [] → cut = []) ∧
      normalize target = if kept = [] then none else some kept := by
  rcases Option.eq_none_or_eq_some (Text.splitAtLast '/' (trim (target.takeWhile (· != '#'))))
    with hsplit | ⟨⟨folder, file⟩, hsplit⟩
  · obtain ⟨cut, hcut, hdot⟩ := exists_extension (trim (target.takeWhile (· != '#')))
    refine ⟨_, cut, hcut, hdot, fun hkept => ?_, by simp only [normalize, hsplit]⟩
    by_contra hne
    exact withoutExtension_ne_nil (by rw [hcut]; simp [hne]) hkept
  · obtain ⟨cut, hcut, hdot⟩ := exists_extension file
    refine ⟨folder ++ '/' :: withoutExtension file, cut, ?_, hdot, by simp, by
      simp only [normalize, hsplit]⟩
    rw [(Text.splitAtLast_eq_some hsplit).1, List.append_assoc, List.cons_append, ← hcut]

theorem exists_of_normalize (h : normalize target = some r) :
    r ≠ [] ∧ ∃ cut, trim (target.takeWhile (· != '#')) = r ++ cut ∧
      (cut = [] ∨ ∃ extension, cut = '.' :: extension) := by
  obtain ⟨kept, cut, hplace, hdot, -, hnormal⟩ := exists_kept target
  rw [hnormal] at h
  split at h
  · cases h
  · rename_i hne
    cases h
    exact ⟨hne, cut, hplace, hdot⟩

theorem exists_normalize (h : trim (target.takeWhile (· != '#')) ≠ []) :
    ∃ r, normalize target = some r := by
  obtain ⟨kept, cut, hplace, -, hnil, hnormal⟩ := exists_kept target
  refine ⟨kept, hnormal.trans (if_neg fun hkept => h ?_)⟩
  rw [hplace, hkept, hnil hkept, List.append_nil]

theorem isInfix_of_normalize (h : normalize target = some r) : r <:+: target.takeWhile (· != '#') := by
  obtain ⟨-, cut, hcut, -⟩ := exists_of_normalize h
  have htrim : trim (target.takeWhile (· != '#')) <:+: target.takeWhile (· != '#') :=
    (dropEndWhile_isPrefix _ _).isInfix.trans (List.dropWhile_suffix _).isInfix
  exact (hcut ▸ List.prefix_append r cut).isInfix.trans htrim

theorem isPrefix_place_iff {word : List Char} (hhash : '#' ∉ word)
    (hlast : word.getLast?.any isBlank = false) :
    word <+: trim (target.takeWhile (· != '#')) ↔ word <+: trimStart target := by
  have hblank : ∀ c, isBlank c = true → (c != '#') = true := by
    rintro c hc
    rw [bne_iff_ne]
    rintro rfl
    exact absurd hc (by decide)
  have hword : ∀ c ∈ word, (c != '#') = true := fun c hc =>
    bne_iff_ne.2 fun heq => hhash (heq ▸ hc)
  rw [trim, Text.trimEnd, isPrefix_dropEndWhile_iff hlast, trimStart, dropWhile_takeWhile hblank,
    isPrefix_takeWhile_iff hword, trimStart]

/-- What a target starts with once it is trimmed is what its reference starts with, if there is neither
an anchor nor a dot in it. -/
theorem isPrefix_of_normalize {word : List Char} (h : normalize target = some r)
    (hhash : '#' ∉ word) (hdot : '.' ∉ word) (hlast : word.getLast?.any isBlank = false) :
    word <+: r ↔ word <+: trimStart target := by
  obtain ⟨-, cut, hcut, hextension⟩ := exists_of_normalize h
  rw [← isPrefix_place_iff hhash hlast, hcut]
  refine ⟨fun hr => hr.trans (List.prefix_append r cut), fun hr => ?_⟩
  rcases isPrefix_append_cases hr with hkept | ⟨more, hmore, rfl⟩
  · exact hkept
  · cases more with
    | nil => rw [List.append_nil]
    | cons c more =>
      rcases hextension with rfl | ⟨extension, rfl⟩
      · cases List.prefix_nil.1 hmore
      · obtain ⟨rfl, -⟩ := List.cons_prefix_cons.1 hmore
        exact absurd (by simp) hdot

/-! ## Hidden mail addresses -/

/-- A mail address behind blanks, which is not seen to be one. -/
structure IsHiddenMail (target : List Char) : Prop where
  blank : ∃ c rest, target = c :: rest ∧ isBlank c = true
  mail : "mailto:".toList <+: trimStart target
  noScheme : ¬ "://".toList <:+: target

theorem isHiddenMail_iff :
    IsHiddenMail target ↔ "mailto:".toList <+: trimStart target ∧ isExternal target = false := by
  rw [← Bool.not_eq_true, isExternal_iff]
  constructor
  · rintro ⟨⟨c, rest, rfl, hblank⟩, hmail, hscheme⟩
    refine ⟨hmail, ?_⟩
    rintro (hhash | hword | hword)
    · cases hhash
      exact absurd hblank (by decide)
    · obtain ⟨rfl, -⟩ := List.cons_prefix_cons.1 hword
      exact absurd hblank (by decide)
    · exact hscheme hword
  · rintro ⟨hmail, hinternal⟩
    simp only [not_or] at hinternal
    cases target with
    | nil => exact absurd hmail (by decide)
    | cons c rest =>
      refine ⟨⟨c, rest, rfl, ?_⟩, hmail, hinternal.2.2⟩
      by_contra hblank
      rw [trimStart, List.dropWhile_cons_of_neg hblank] at hmail
      exact hinternal.2.1 hmail

theorem IsHiddenMail.not_of_noBlank (h : ∀ c ∈ s, isBlank c = false) : ¬ IsHiddenMail (unwrap s) := by
  rintro ⟨⟨c, rest, hs, hblank⟩, -, -⟩
  have hmem : c ∈ unwrap s := by simp [hs]
  rw [h c (mem_of_mem_unwrap hmem)] at hblank
  cases hblank

/-- The patterns of a notation whose targets may have blanks. -/
def blankPatterns : Markup → List Markup.Pattern
  | .markdown => [Markup.docRole, Markup.templateInclude]
  | .rst => [Markup.rstLink, Markup.docRole, Markup.templateInclude]

theorem blankPatterns_subset {markup : Markup} {pattern : Markup.Pattern}
    (h : pattern ∈ blankPatterns markup) : pattern ∈ patterns markup := by
  cases markup with
  | markdown => exact List.mem_cons_of_mem _ (List.mem_cons_of_mem _ h)
  | rst =>
    rcases List.mem_cons.1 h with rfl | h
    · exact List.mem_cons_self
    · exact List.mem_cons_of_mem _ (List.mem_cons_of_mem _ h)

theorem mem_blankPatterns_or {markup : Markup} {pattern : Markup.Pattern}
    (h : pattern ∈ patterns markup) :
    pattern ∈ blankPatterns markup ∨ ∀ start rest target behind,
      pattern start rest = some (target, behind) → ∀ c ∈ target, isBlank c = false := by
  cases markup with
  | markdown =>
    simp only [patterns, List.mem_cons, List.not_mem_nil, or_false] at h
    rcases h with rfl | rfl | h
    · exact Or.inr fun _ _ _ _ => Markup.noBlank_markdownLink
    · exact Or.inr fun _ _ _ _ => Markup.noBlank_fenceInclude
    · exact Or.inl (by simpa [blankPatterns] using h)
  | rst =>
    simp only [patterns, List.mem_cons, List.not_mem_nil, or_false] at h
    rcases h with rfl | rfl | h
    · exact Or.inl (by simp [blankPatterns])
    · exact Or.inr fun _ _ _ _ => Markup.noBlank_rstInclude
    · exact Or.inl (List.mem_cons_of_mem _ (by simpa using h))

/-- Hidden mail addresses are found in roles, in templates and in the links of reStructuredText only. -/
theorem mem_written_hidden_iff {markup : Markup} {content : List Char} (h : IsHiddenMail (unwrap s)) :
    s ∈ written markup content ↔ ∃ pattern ∈ blankPatterns markup, s ∈ Markup.scan pattern content := by
  constructor
  · intro hs
    obtain ⟨pattern, hpattern, hfound⟩ := List.mem_flatMap.1 hs
    obtain ⟨start, rest, behind, hmatch⟩ := Markup.exists_of_mem_scanFrom hfound
    rcases mem_blankPatterns_or hpattern with hblank | hnone
    · exact ⟨pattern, hblank, hfound⟩
    · exact absurd h (IsHiddenMail.not_of_noBlank (hnone start rest s behind hmatch))
  · rintro ⟨pattern, hpattern, hfound⟩
    exact List.mem_flatMap.2 ⟨pattern, blankPatterns_subset hpattern, hfound⟩

/-! ## References -/

variable {markup : Markup} {content reference : String}

theorem ofWritten_eq_some (h : ofWritten s = some reference) :
    isExternal (unwrap s) = false ∧ normalize (unwrap s) = some reference.toList := by
  unfold ofWritten at h
  dsimp only at h
  split at h
  · cases h
  · rename_i hinternal
    obtain ⟨r, hr, rfl⟩ := Option.map_eq_some_iff.1 h
    exact ⟨by simpa using hinternal, by rw [hr, String.toList_ofList]⟩

theorem ofWritten_normal (h : ofWritten s = some reference) :
    reference ≠ "" ∧ '#' ∉ reference.toList ∧ ¬ "://".toList <:+: reference.toList := by
  obtain ⟨hinternal, hnormal⟩ := ofWritten_eq_some h
  have hpart := isInfix_of_normalize hnormal
  refine ⟨?_, fun hmem => ?_, fun hscheme => ?_⟩
  · rintro rfl
    exact (exists_of_normalize hnormal).1 rfl
  · have hhash := List.mem_takeWhile_imp (hpart.subset hmem)
    simp at hhash
  · have hwhole := (hscheme.trans hpart).trans (List.takeWhile_prefix _).isInfix
    rw [isExternal_iff.2 (Or.inr (Or.inr hwhole))] at hinternal
    cases hinternal

theorem isExternal_iff_isHiddenMail (h : ofWritten s = some reference) :
    isExternal reference.toList = true ↔ IsHiddenMail (unwrap s) := by
  obtain ⟨hinternal, hnormal⟩ := ofWritten_eq_some h
  obtain ⟨-, hhash, hscheme⟩ := ofWritten_normal h
  have hhead : reference.toList.head? ≠ some '#' := fun hhead => hhash (List.mem_of_mem_head? hhead)
  rw [isExternal_iff, or_iff_right hhead, or_iff_left hscheme,
    isPrefix_of_normalize hnormal (by decide) (by decide) (by decide), isHiddenMail_iff]
  exact (and_iff_left hinternal).symm

/-- A hidden mail address is not empty, so that it makes a reference. -/
theorem IsHiddenMail.exists_reference (h : IsHiddenMail (unwrap s)) :
    ∃ reference, ofWritten s = some reference := by
  have hplace : trim ((unwrap s).takeWhile (· != '#')) ≠ [] := by
    intro hnil
    have hmail := (isPrefix_place_iff (by decide) (by decide)).2 h.mail
    rw [hnil] at hmail
    cases List.prefix_nil.1 hmail
  obtain ⟨r, hr⟩ := exists_normalize hplace
  refine ⟨String.ofList r, ?_⟩
  rw [ofWritten]
  simp only [(isHiddenMail_iff.1 h).2, hr, Bool.false_eq_true, if_false, Option.map_some]

/-- No reference is empty or has an anchor or a scheme. One is external exactly if it was written as a
mail address behind blanks, and so all are internal exactly if no role, template or link of
reStructuredText is written like that. -/
theorem internal_iff (markup : Markup) (content : String) :
    (∀ reference ∈ ofContent markup content,
      reference ≠ "" ∧ '#' ∉ reference.toList ∧ ¬ "://".toList <:+: reference.toList ∧
        (isExternal reference.toList = true ↔
          ∃ pattern ∈ blankPatterns markup, ∃ s ∈ Markup.scan pattern content.toList,
            ofWritten s = some reference ∧ IsHiddenMail (unwrap s))) ∧
      ((∀ reference ∈ ofContent markup content, isExternal reference.toList = false) ↔
        ∀ pattern ∈ blankPatterns markup, ∀ s ∈ Markup.scan pattern content.toList,
          ¬ IsHiddenMail (unwrap s)) := by
  constructor
  · intro reference hreference
    obtain ⟨s, hs, hwritten⟩ := mem_ofContent.1 hreference
    obtain ⟨hne, hhash, hscheme⟩ := ofWritten_normal hwritten
    refine ⟨hne, hhash, hscheme, fun hexternal => ?_, ?_⟩
    · have hmail := (isExternal_iff_isHiddenMail hwritten).1 hexternal
      obtain ⟨pattern, hpattern, hfound⟩ := (mem_written_hidden_iff hmail).1 hs
      exact ⟨pattern, hpattern, s, hfound, hwritten, hmail⟩
    · rintro ⟨-, -, t, -, ht, hmail⟩
      exact (isExternal_iff_isHiddenMail ht).2 hmail
  · constructor
    · intro hall pattern hpattern s hfound hmail
      obtain ⟨reference, hwritten⟩ := hmail.exists_reference
      have hs := (mem_written_hidden_iff hmail).2 ⟨pattern, hpattern, hfound⟩
      have hinternal := hall reference (mem_ofContent.2 ⟨s, hs, hwritten⟩)
      rw [(isExternal_iff_isHiddenMail hwritten).2 hmail] at hinternal
      cases hinternal
    · intro hnone reference hreference
      obtain ⟨s, hs, hwritten⟩ := mem_ofContent.1 hreference
      rw [← Bool.not_eq_true, isExternal_iff_isHiddenMail hwritten]
      intro hmail
      obtain ⟨pattern, hpattern, hfound⟩ := (mem_written_hidden_iff hmail).1 hs
      exact hnone pattern hpattern s hfound hmail

/-- The address in a role is seen to be one only when it is trimmed, and then it is a reference already. -/
theorem mail_behind_blank_kept :
    ofContent .rst ":doc:` mailto:me@example.com`" = ⟨["mailto:me@example"], by decide⟩ ∧
      ∃ reference ∈ ofContent .rst ":doc:` mailto:me@example.com`",
        isExternal reference.toList = true := by
  have hcontent : ofContent .rst ":doc:` mailto:me@example.com`" =
      ⟨["mailto:me@example"], by decide⟩ := by decide +kernel
  refine ⟨hcontent, "mailto:me@example", ?_, by decide +kernel⟩
  rw [hcontent]
  exact List.mem_singleton_self _

end Reference

end DocAtlas
