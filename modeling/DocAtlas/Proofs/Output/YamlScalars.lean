import DocAtlas.Output.Yaml.Render
import DocAtlas.Proofs.Output.YamlReader
import DocAtlas.Proofs.Text.Runs

/-! # Reading back scalars

* `Yaml.inline?_plain`, `Yaml.inline?_singleQuoted`, `Yaml.inline?_doubleQuoted` — scalars on one line
  are read back
* `Yaml.Below`, `Yaml.literal?_literal` — and so are scalars over several lines, if what stands behind
  them starts further left
-/

set_option autoImplicit false

namespace DocAtlas.Yaml

open Reader

/-! ## Characters -/

theorem isBlank_eq {c : Char} (h : isPrintable c = true) : Reader.isBlank c = isSpace c := by
  have htab : (c == '\t') = false := beq_false_of_ne (by rintro rfl; cases h)
  rw [Reader.isBlank, isSpace, htab, Bool.or_false]

theorem isGap_eq {c : Char} (h : isPrintable c = true) : isGap c = (isSpace c || isBreak c) := by
  have htab : (c == '\t') = false := beq_false_of_ne (by rintro rfl; cases h)
  have hnull : (c == '\x00') = false := beq_false_of_ne (by rintro rfl; cases h)
  rw [isGap, isSpace, htab, hnull, Bool.or_false, Bool.or_false]

theorem isPrintable_of_needsEscapes {s : List Char} (h : needsEscapes s = false) :
    ∀ c ∈ s, isPrintable c = true := by
  simp only [needsEscapes, Bool.or_eq_false_iff, List.any_eq_false] at h
  simpa using h.1

theorem hasPair_of_needsEscapes {s : List Char} (h : needsEscapes s = false) :
    hasPair isSpace isBreak s = false := by
  simp only [needsEscapes, Bool.or_eq_false_iff] at h
  exact h.2

theorem hasPair_cons (p q : Char → Bool) (c : Char) (s : List Char) :
    hasPair p q (c :: s) = ((p c && startsWith q s) || hasPair p q s) := by
  cases s with
  | nil => simp [hasPair, startsWith]
  | cons d s => simp [hasPair, startsWith]

theorem hasPair_tail {p q : Char → Bool} {c : Char} {s : List Char}
    (h : hasPair p q (c :: s) = false) : hasPair p q s = false := by
  rw [hasPair_cons, Bool.or_eq_false_iff] at h
  exact h.2

theorem startsWith_of_hasPair {p q : Char → Bool} {c : Char} {s : List Char}
    (h : hasPair p q (c :: s) = false) (hc : p c = true) : startsWith q s = false := by
  rw [hasPair_cons, hc, Bool.true_and, Bool.or_eq_false_iff] at h
  exact h.1

theorem startsWith_of_forall {p : Char → Bool} {s : List Char} (h : ∀ c ∈ s, p c = false) :
    startsWith p s = false := by
  cases s with
  | nil => rfl
  | cons c s => exact h c List.mem_cons_self

theorem endsWith_of_forall {p : Char → Bool} {s : List Char} (h : ∀ c ∈ s, p c = false) :
    endsWith p s = false := by
  rw [endsWith]
  cases hlast : s.getLast? with
  | none => rfl
  | some c => exact h c (List.mem_of_getLast? hlast)

theorem isMarker_of_head {c : Char} {text : List Char} (hdash : c ≠ '-') (hdot : c ≠ '.') :
    isMarker (c :: text) = false := by
  simp [isMarker, List.isPrefixOf, hdash.symm, hdot.symm]

/-- What stands behind a scalar on its line: the end of the line, or a colon that ends a key. -/
def Ends (behind : List Char) : Prop :=
  ∃ c more, behind = c :: more ∧ (c = '\n' ∨ c = ':' ∧ endsOrGaps more = true)

theorem endsOrGaps_append {s : List Char} (h : endsOrGaps s = false) (behind : List Char) :
    endsOrGaps (s ++ behind) = false := by
  cases s with
  | nil => cases h
  | cons c s => exact h

/-- A text starts a line and no item of a list. -/
structure OpensEntry (text : List Char) : Prop where
  marker : isMarker text = false
  dash : opens '-' text = false
  head : ∃ c more, text = c :: more ∧ c ≠ ' ' ∧ isBreak c = false

/-- A text starts with nothing that stands for something else than a scalar on one line. -/
structure OpensScalar (text : List Char) : Prop extends OpensEntry text where
  question : opens '?' text = false
  bar : text.head? ≠ some '|'

theorem OpensScalar.of_head {c : Char} {text : List Char} (h : c ∉ ['-', '.', '?', '|', ' '])
    (hbreak : isBreak c = false) : OpensScalar (c :: text) := by
  simp only [List.mem_cons, List.not_mem_nil, or_false, not_or] at h
  obtain ⟨hdash, hdot, hquestion, hbar, hspace⟩ := h
  exact ⟨⟨isMarker_of_head hdash hdot, by simp [opens, hdash], c, text, rfl, hspace, hbreak⟩,
    by simp [opens, hquestion], by simpa⟩

theorem Ends.head_ne {c : Char} {behind : List Char} (h : Ends behind) (hline : c ≠ '\n')
    (hcolon : c ≠ ':') : behind.head? ≠ some c := by
  obtain ⟨d, more, rfl, rfl | ⟨rfl, -⟩⟩ := h
  · exact fun heq => hline (Option.some.inj heq).symm
  · exact fun heq => hcolon (Option.some.inj heq).symm

/-! ## Styles -/

/-- What the style of a text says of it. -/
theorem styleOf_spec (s : List Char) :
    (styleOf s = .plain → readsAsOther s = false ∧ allowsPlain s = true) ∧
    (styleOf s = .single → allowsSingle s = true ∧ '\n' ∉ s) ∧
    (styleOf s = .literal → allowsLiteral s = true ∧ '\n' ∈ s) := by
  unfold styleOf
  by_cases hline : '\n' ∈ s
  · cases hliteral : allowsLiteral s <;> simp [hline]
  · cases hother : readsAsOther s <;> cases hplain : allowsPlain s <;>
      cases hsingle : allowsSingle s <;> simp [hline]

/-! ## Scalars without quotes -/

theorem plainFrom_append {before : Char} {s behind : List Char} (hmark : hasInnerMark before s = false)
    (hbreak : ∀ c ∈ s, isBreak c = false) (hends : Ends behind) :
    plainFrom before (s ++ behind) = (s, behind) := by
  induction s generalizing before with
  | nil =>
    obtain ⟨c, more, rfl, rfl | ⟨rfl, hmore⟩⟩ := hends
    · rfl
    · simp [plainFrom, hmore]
  | cons c s ih =>
    simp only [hasInnerMark, Bool.or_eq_false_iff] at hmark
    obtain ⟨⟨hcolon, hcomment⟩, hrest⟩ := hmark
    have hcolon : (c == ':' && endsOrGaps (s ++ behind)) = false := by
      rw [Bool.and_eq_false_iff] at hcolon ⊢
      exact hcolon.imp_right fun h => endsOrGaps_append h behind
    have hc := hbreak c List.mem_cons_self
    have hs := ih hrest fun d hd => hbreak d (List.mem_cons_of_mem _ hd)
    rw [List.cons_append, plainFrom]
    simp only [hc, hcolon, hcomment, hs, Bool.or_self, Bool.false_eq_true, if_false]

theorem dropEndWhile_of_endsWith {p : Char → Bool} {s : List Char} (h : endsWith p s = false) :
    Text.dropEndWhile p s = s := by
  rw [Text.dropEndWhile, List.reverse_eq_iff, List.dropWhile_eq_self_iff]
  intro hlength
  rw [endsWith, List.getLast?_eq_head?_reverse, List.head?_eq_getElem?,
    List.getElem?_eq_getElem hlength] at h
  simpa using h

/-- What allows a text to stand without quotes, by its first character and the others. -/
theorem allowsPlain_cons {c : Char} {s : List Char} (h : allowsPlain (c :: s) = true) :
    (∀ d ∈ c :: s, isPrintable d = true ∧ isBreak d = false) ∧ isSpace c = false ∧
      endsWith isSpace (c :: s) = false ∧ c ∉ indicators ∧
      ((c = '-' ∨ c = '?' ∨ c = ':') → endsOrGaps s = false) ∧ hasInnerMark c s = false ∧
      ['-', '-', '-'].isPrefixOf (c :: s) = false ∧ ['.', '.', '.'].isPrefixOf (c :: s) = false := by
  simp only [allowsPlain, hasMark, Bool.and_eq_true, Bool.not_eq_true', Bool.or_eq_false_iff] at h
  obtain ⟨⟨⟨⟨hescapes, hbreak⟩, hstart⟩, hend⟩, ⟨⟨⟨hdashes, hdots⟩, hindicator⟩, hgaps⟩, hinner⟩ := h
  refine ⟨fun d hd => ⟨isPrintable_of_needsEscapes hescapes d hd, ?_⟩,
    by simpa [startsWith] using hstart, hend, by simpa using hindicator, ?_, hinner, hdashes, hdots⟩
  · rw [List.any_eq_false] at hbreak
    simpa using hbreak d hd
  · rintro (rfl | rfl | rfl) <;> simpa using hgaps

/-- What is written without quotes is read back up to what stands behind it. -/
theorem plain?_append {s behind : List Char} (hne : s ≠ []) (h : allowsPlain s = true)
    (hends : Ends behind) : plain? (s ++ behind) = some (resolve s, behind) := by
  obtain ⟨c, s, rfl⟩ := List.exists_cons_of_ne_nil hne
  obtain ⟨hchars, hspace, hend, hindicator, hgaps, hinner, -, -⟩ := allowsPlain_cons h
  obtain ⟨hprintable, hbreak⟩ := hchars c List.mem_cons_self
  have hstarts : startsPlain (c :: (s ++ behind)) = true := by
    rw [startsPlain]
    split
    · rename_i hmark
      rw [endsOrGaps_append (hgaps hmark), Bool.not_false]
    · have hreserved : reserved.contains c = false := by
        rw [List.contains_eq_mem, decide_eq_false_iff_not]
        exact hindicator
      rw [isGap_eq hprintable, hspace, hbreak, hreserved]
      rfl
  have hbody := plainFrom_append hinner (fun d hd => (hchars d (List.mem_cons_of_mem _ hd)).2) hends
  have hlast : (c :: s).getLast (List.cons_ne_nil c s) ∈ c :: s := List.getLast_mem _
  have hblank : endsWith Reader.isBlank (c :: s) = false := by
    rw [endsWith, List.getLast?_eq_some_getLast (List.cons_ne_nil c s)] at hend ⊢
    exact (isBlank_eq (hchars _ hlast).1).trans hend
  simp only [plain?, List.cons_append, hstarts, hbody, if_true, dropEndWhile_of_endsWith hblank]

theorem isPrefixOf_replicate_append {c : Char} {behind : List Char} (hbehind : behind.head? ≠ some c)
    (k : Nat) (s : List Char) (h : (List.replicate k c).isPrefixOf s = false) :
    (List.replicate k c).isPrefixOf (s ++ behind) = false := by
  induction s generalizing k with
  | nil =>
    cases k with
    | zero => cases h
    | succ k =>
      cases behind with
      | nil => rfl
      | cons d behind =>
        have hne : c ≠ d := fun heq => hbehind (congrArg some heq.symm)
        simp [List.replicate_succ, List.isPrefixOf, hne]
  | cons d s ih =>
    cases k with
    | zero => cases h
    | succ k =>
      rw [List.replicate_succ, List.isPrefixOf, Bool.and_eq_false_iff] at h
      rw [List.cons_append, List.replicate_succ, List.isPrefixOf, Bool.and_eq_false_iff]
      exact h.imp_right (ih k)

theorem opensScalar_plain {s behind : List Char} (hne : s ≠ []) (h : allowsPlain s = true)
    (hends : Ends behind) : OpensScalar (s ++ behind) := by
  obtain ⟨c, s, rfl⟩ := List.exists_cons_of_ne_nil hne
  obtain ⟨hchars, hspace, -, hindicator, hgaps, -, hdashes, hdots⟩ := allowsPlain_cons h
  refine ⟨⟨?_, ?_, c, s ++ behind, rfl, ?_, (hchars c List.mem_cons_self).2⟩, ?_, ?_⟩
  · have hdash := isPrefixOf_replicate_append (hends.head_ne (by decide) (by decide)) 3 _ hdashes
    have hdot := isPrefixOf_replicate_append (hends.head_ne (by decide) (by decide)) 3 _ hdots
    rw [isMarker]
    exact Bool.and_eq_false_iff.2 (Or.inl (Bool.or_eq_false_iff.2 ⟨hdash, hdot⟩))
  · by_cases hc : c = '-'
    · rw [opens, List.cons_append, List.tail_cons, endsOrGaps_append (hgaps (Or.inl hc)),
        Bool.and_false]
    · simp [opens, hc]
  · rintro rfl
    cases hspace
  · by_cases hc : c = '?'
    · rw [opens, List.cons_append, List.tail_cons,
        endsOrGaps_append (hgaps (Or.inr (Or.inl hc))), Bool.and_false]
    · simp [opens, hc]
  · rw [List.cons_append, List.head?_cons]
    rintro ⟨⟩
    exact hindicator (by decide)

theorem inline?_plain {s behind : List Char} (hne : s ≠ []) (h : allowsPlain s = true)
    (hends : Ends behind) : inline? (s ++ behind) = some (resolve s, behind) := by
  rw [← plain?_append hne h hends]
  obtain ⟨c, s, rfl⟩ := List.exists_cons_of_ne_nil hne
  obtain ⟨-, -, -, hindicator, -⟩ := allowsPlain_cons h
  rw [List.cons_append, inline?.eq_def]
  split
  all_goals first
    | rfl
    | rename_i heq
      rw [(List.cons.inj heq).1] at hindicator
      exact absurd (by decide) hindicator

/-! ## Scalars between apostrophes -/

/-- A character between apostrophes. -/
def quoted (c : Char) : List Char := if c = '\x27' then ['\x27', '\x27'] else [c]

theorem singleQuoted_eq (indent : Nat) (s : List Char) :
    singleQuoted indent s = '\x27' :: (withMargins indent false (s.flatMap quoted) ++
      (if endsWith isBreak s then margin indent else []) ++ ['\x27']) := rfl

theorem singleFrom_quoted {c : Char} (hbreak : isBreak c = false) (hblank : Reader.isBlank c = false)
    (blanks breaks text : List Char) :
    singleFrom blanks breaks (quoted c ++ text) =
      (singleFrom [] [] text).map fun p => (folded blanks breaks ++ c :: p.1, p.2) := by
  by_cases hquote : c = '\x27'
  · subst hquote
    rw [quoted, if_pos rfl, List.cons_append, List.cons_append, List.nil_append, singleFrom]
    simp only [hbreak, hblank]
    cases singleFrom [] [] text <;> rfl
  · rw [quoted, if_neg hquote, List.cons_append, List.nil_append, singleFrom.eq_def]
    simp only [hbreak, hblank, if_neg hquote]
    cases singleFrom [] [] text <;> rfl

theorem singleFrom_margin (indent : Nat) (blanks breaks text : List Char) :
    singleFrom blanks breaks (margin indent ++ text) =
      singleFrom (blanks ++ margin indent) breaks text := by
  induction indent generalizing blanks with
  | zero => rw [margin, List.replicate_zero, List.nil_append, List.append_nil]
  | succ indent ih =>
    have hstep : singleFrom blanks breaks (' ' :: (margin indent ++ text)) =
        singleFrom (blanks ++ [' ']) breaks (margin indent ++ text) := by
      rw [singleFrom.eq_def]
      rfl
    rw [margin, List.replicate_succ, List.cons_append]
    rw [← margin, hstep, ih, List.append_assoc]
    rfl

theorem singleFrom_close {behind : List Char} (h : behind.head? ≠ some '\x27')
    (blanks breaks : List Char) :
    singleFrom blanks breaks ('\x27' :: behind) = some (folded blanks breaks, behind) := by
  cases behind with
  | nil => rw [singleFrom.eq_def]; rfl
  | cons c behind =>
    have hne : c ≠ '\x27' := fun heq => h (congrArg some heq)
    rw [singleFrom.eq_def]
    dsimp only
    rw [if_neg (by decide), if_neg (by decide), if_pos rfl]
    split
    · rename_i heq
      exact absurd (List.cons.inj heq).1 hne
    · rfl

theorem withMargins_quoted {c : Char} (hbreak : isBreak c = false) (indent : Nat) (atStart : Bool)
    (text : List Char) :
    withMargins indent atStart (quoted c ++ text) =
      (if atStart then margin indent else []) ++ (quoted c ++ withMargins indent false text) := by
  by_cases hquote : c = '\x27'
  · subst hquote
    rw [quoted, if_pos rfl, List.cons_append, List.cons_append, List.nil_append, withMargins,
      if_neg (Bool.eq_false_iff.1 hbreak), withMargins, if_neg (Bool.eq_false_iff.1 hbreak)]
    rfl
  · rw [quoted, if_neg hquote, List.cons_append, List.nil_append, withMargins,
      if_neg (by simp [hbreak])]
    rfl

theorem quoted_of_isBreak {c : Char} (hbreak : isBreak c = true) : quoted c = [c] := by
  refine if_neg ?_
  rintro rfl
  cases hbreak

/-- What is written between apostrophes of a text, from any place on. -/
def singleRest (indent : Nat) (atStart : Bool) (s behind : List Char) : List Char :=
  withMargins indent atStart (s.flatMap quoted) ++
    ((if (s.getLast?.map isBreak).getD atStart then margin indent else []) ++ '\x27' :: behind)

theorem singleRest_nil (indent : Nat) (atStart : Bool) (behind : List Char) :
    singleRest indent atStart [] behind =
      (if atStart then margin indent else []) ++ '\x27' :: behind := rfl

theorem getLast?_cons_getD (c : Char) (s : List Char) (atStart : Bool) :
    (((c :: s).getLast?).map isBreak).getD atStart = ((s.getLast?).map isBreak).getD (isBreak c) := by
  cases s with
  | nil => rfl
  | cons d s => rw [List.getLast?_cons_cons]; simp [List.getLast?_cons]

theorem singleRest_break {c : Char} (hbreak : isBreak c = true) (indent : Nat) (atStart : Bool)
    (s behind : List Char) :
    singleRest indent atStart (c :: s) behind = c :: singleRest indent true s behind := by
  rw [singleRest, getLast?_cons_getD, hbreak, List.flatMap_cons, quoted_of_isBreak hbreak,
    List.cons_append, withMargins, if_pos hbreak]
  rfl

theorem singleRest_char {c : Char} (hbreak : isBreak c = false) (indent : Nat) (atStart : Bool)
    (s behind : List Char) :
    singleRest indent atStart (c :: s) behind =
      (if atStart then margin indent else []) ++ (quoted c ++ singleRest indent false s behind) := by
  rw [singleRest, getLast?_cons_getD, hbreak, List.flatMap_cons, withMargins_quoted hbreak,
    List.append_assoc, List.append_assoc]
  rfl

theorem margin_succ (indent : Nat) : margin (indent + 1) = ' ' :: margin indent := rfl

theorem isMarker_singleRest {indent : Nat} (hindent : 0 < indent) (s behind : List Char) :
    isMarker (singleRest indent true s behind) = false := by
  obtain ⟨indent, rfl⟩ := Nat.exists_eq_succ_of_ne_zero (Nat.pos_iff_ne_zero.1 hindent)
  cases s with
  | nil => exact isMarker_of_head (by decide) (by decide)
  | cons c s =>
    by_cases hbreak : isBreak c = true
    · rw [singleRest_break hbreak]
      refine isMarker_of_head ?_ ?_ <;> (rintro rfl; cases hbreak)
    · rw [singleRest_char (Bool.eq_false_iff.2 hbreak)]
      exact isMarker_of_head (by decide) (by decide)

theorem folded_breaks (blanks : List Char) {breaks : List Char} (hne : breaks ≠ [])
    (hline : breaks.head? ≠ some '\n') : folded blanks breaks = breaks := by
  obtain ⟨c, more, rfl⟩ := List.exists_cons_of_ne_nil hne
  exact if_neg fun heq => hline (congrArg some heq)

/-- The rest of a text between apostrophes is read back, within a line with the spaces before it and at
the start of a line with the line ends before it. Spaces stand beside no line ends, and the line ends
are no line feeds. -/
structure ReadsSingle (indent : Nat) (s behind : List Char) : Prop where
  line : ∀ blanks, (blanks = [] ∨ startsWith isBreak s = false) →
    singleFrom blanks [] (singleRest indent false s behind) = some (blanks ++ s, behind)
  start : ∀ breaks, breaks ≠ [] → breaks.head? ≠ some '\n' → startsWith isSpace s = false →
    singleFrom [] breaks (singleRest indent true s behind) = some (breaks ++ s, behind)

theorem ReadsSingle.nil (indent : Nat) {behind : List Char} (hbehind : behind.head? ≠ some '\x27') :
    ReadsSingle indent [] behind := by
  constructor
  · intro blanks _
    rw [singleRest_nil, List.append_nil]
    exact singleFrom_close hbehind blanks []
  · intro breaks hne hfeed _
    rw [singleRest_nil, List.append_nil, if_pos rfl, singleFrom_margin, singleFrom_close hbehind,
      folded_breaks _ hne hfeed]

theorem ReadsSingle.cons_break {indent : Nat} (hindent : 0 < indent) {c : Char} {s behind : List Char}
    (h : ReadsSingle indent s behind) (hbreak : isBreak c = true) (hline : c ≠ '\n')
    (hnext : startsWith isSpace s = false) : ReadsSingle indent (c :: s) behind := by
  have hmarker := isMarker_singleRest hindent s behind
  constructor
  · rintro blanks (rfl | hstart)
    · have hfeed : [c].head? ≠ some '\n' := fun heq => hline (Option.some.inj heq)
      rw [singleRest_break hbreak, singleFrom_break hbreak hmarker]
      exact h.start [c] (List.cons_ne_nil c []) hfeed hnext
    · rw [startsWith, List.head?_cons, Option.map_some, Option.getD_some, hbreak] at hstart
      cases hstart
  · intro breaks hne hfeed _
    have hhead : (breaks ++ [c]).head? ≠ some '\n' := by
      obtain ⟨d, more, rfl⟩ := List.exists_cons_of_ne_nil hne
      exact hfeed
    rw [singleRest_break hbreak, singleFrom_break hbreak hmarker,
      h.start _ (List.append_ne_nil_of_right_ne_nil _ (List.cons_ne_nil c [])) hhead hnext,
      List.append_assoc]
    rfl

theorem ReadsSingle.cons_space {indent : Nat} {s behind : List Char} (h : ReadsSingle indent s behind)
    (hnext : startsWith isBreak s = false) : ReadsSingle indent (' ' :: s) behind := by
  constructor
  · intro blanks _
    have hstep : singleFrom blanks [] (' ' :: singleRest indent false s behind) =
        singleFrom (blanks ++ [' ']) [] (singleRest indent false s behind) := by
      rw [singleFrom.eq_def]
      rfl
    have hquoted : quoted ' ' = [' '] := rfl
    rw [singleRest_char rfl, if_neg Bool.false_ne_true, List.nil_append, hquoted, List.cons_append,
      List.nil_append, hstep, h.line _ (Or.inr hnext), List.append_assoc]
    rfl
  · intro breaks _ _ hstart
    cases hstart

theorem ReadsSingle.cons_char {indent : Nat} {c : Char} {s behind : List Char}
    (h : ReadsSingle indent s behind) (hbreak : isBreak c = false) (hblank : Reader.isBlank c = false) :
    ReadsSingle indent (c :: s) behind := by
  have hrest := h.line [] (Or.inl rfl)
  constructor
  · intro blanks _
    rw [singleRest_char hbreak, if_neg Bool.false_ne_true, List.nil_append,
      singleFrom_quoted hbreak hblank, hrest]
    rfl
  · intro breaks hne hfeed _
    rw [singleRest_char hbreak, if_pos rfl, singleFrom_margin, singleFrom_quoted hbreak hblank, hrest,
      folded_breaks _ hne hfeed]
    rfl

theorem readsSingle {indent : Nat} (hindent : 0 < indent) {behind : List Char}
    (hbehind : behind.head? ≠ some '\x27') (s : List Char) (hprintable : ∀ c ∈ s, isPrintable c = true)
    (hline : '\n' ∉ s) (hspaces : hasPair isSpace isBreak s = false)
    (hbreaks : hasPair isBreak isSpace s = false) : ReadsSingle indent s behind := by
  induction s with
  | nil => exact .nil indent hbehind
  | cons c s ih =>
    have hs := ih (fun d hd => hprintable d (List.mem_cons_of_mem _ hd))
      (fun hmem => hline (List.mem_cons_of_mem _ hmem)) (hasPair_tail hspaces) (hasPair_tail hbreaks)
    by_cases hbreak : isBreak c = true
    · have hfeed : c ≠ '\n' := fun heq => hline (heq ▸ List.mem_cons_self)
      exact hs.cons_break hindent hbreak hfeed (startsWith_of_hasPair hbreaks hbreak)
    · have hblank := isBlank_eq (hprintable c List.mem_cons_self)
      by_cases hspace : isSpace c = true
      · obtain rfl : c = ' ' := by simpa [isSpace] using hspace
        exact hs.cons_space (startsWith_of_hasPair hspaces hspace)
      · rw [Bool.eq_false_iff.2 hspace] at hblank
        exact hs.cons_char (Bool.eq_false_iff.2 hbreak) hblank

/-- A text between apostrophes is read back. -/
theorem inline?_singleQuoted {indent : Nat} (hindent : 0 < indent) {s behind : List Char}
    (h : allowsSingle s = true) (hline : '\n' ∉ s) (hbehind : behind.head? ≠ some '\x27') :
    inline? (singleQuoted indent s ++ behind) = some (.text (String.ofList s), behind) := by
  simp only [allowsSingle, Bool.and_eq_true, Bool.not_eq_true'] at h
  have hread := (readsSingle hindent hbehind s (isPrintable_of_needsEscapes h.1) hline
    (hasPair_of_needsEscapes h.1) h.2).line [] (Or.inl rfl)
  have hwritten : singleQuoted indent s ++ behind = '\x27' :: singleRest indent false s behind := by
    rw [singleQuoted_eq, singleRest, endsWith, List.cons_append, List.append_assoc, List.append_assoc]
    rfl
  have hquote : ∀ text, inline? ('\x27' :: text) =
      (singleFrom [] [] text).bind fun p => some (.text (String.ofList p.1), p.2) := fun text => rfl
  rw [hwritten, hquote, hread]
  rfl

/-! ## Scalars between quotes -/

theorem digitValue?_hexDigit : ∀ d < 16, digitValue? 16 (hexDigit d) = some d := by decide

theorem foldlM_hexDigits (width n m : Nat) :
    (hexDigits width n).foldlM (fun n c => (digitValue? 16 c).map (n * 16 + ·)) m =
      some (m * Nat.pow 16 width + n % Nat.pow 16 width) := by
  induction width generalizing n with
  | zero =>
    have hone : Nat.pow 16 0 = 1 := rfl
    rw [hone, Nat.mod_one, Nat.mul_one]
    rfl
  | succ width ih =>
    have hdigit := digitValue?_hexDigit (n % 16) (Nat.mod_lt n (by decide))
    have hpow : Nat.pow 16 (width + 1) = 16 * Nat.pow 16 width := Nat.mul_comm _ _
    have hsum : (m * Nat.pow 16 width + n / 16 % Nat.pow 16 width) * 16 + n % 16 =
        m * Nat.pow 16 (width + 1) + n % Nat.pow 16 (width + 1) := by
      rw [hpow, Nat.mod_mul, Nat.add_mul, Nat.mul_assoc, Nat.mul_comm (Nat.pow 16 width) 16]
      omega
    rw [hexDigits, List.foldlM_append, ih]
    simp only [List.foldlM_cons, List.foldlM_nil, Option.bind_eq_bind, Option.bind_some, hdigit]
    exact congrArg some hsum

theorem coded?_hexDigits (c : Char) (width : Nat) (h : c.toNat < Nat.pow 16 (width + 1)) :
    coded? (hexDigits (width + 1) c.toNat) = some c := by
  have hvalue : digitsValue? 16 (hexDigits (width + 1) c.toNat) = some c.toNat := by
    rw [digitsValue?, if_neg (by simp [hexDigits]), foldlM_hexDigits, Nat.zero_mul, Nat.zero_add,
      Nat.mod_eq_of_lt h]
  have hvalid : c.toNat.isValidChar := c.valid
  simp [coded?, hvalue, hvalid, Char.ofNat_toNat]

theorem toNat_le_of_not_isPrintable {c : Char} (h : isPrintable c = false) : c.toNat ≤ 0xFFFF := by
  by_contra hlarge
  simp only [isPrintable, Bool.or_eq_false_iff, decide_eq_false_iff_not] at h
  omega

/-- The characters that are written with a letter behind a backslash. -/
def lettered : List (Char × Char) :=
  [('"', '"'), ('\\', '\\'), ('\x00', '0'), ('\x07', 'a'), ('\x08', 'b'), ('\t', 't'), ('\n', 'n'),
   ('\x0B', 'v'), ('\x0C', 'f'), ('\r', 'r'), ('\x1B', 'e'), ('\u0085', 'N'), ('\u2028', 'L'),
   ('\u2029', 'P')]

theorem escape_lettered : ∀ p ∈ lettered, escape p.1 = ['\\', p.2] ∧ escaped? p.2 = some p.1 ∧
    p.2 ∉ ['x', 'u', 'U'] := by decide

theorem isBreak_of_not_lettered {c : Char} (h : c ∉ lettered.map Prod.fst) : isBreak c = false := by
  rw [Bool.eq_false_iff]
  intro hbreak
  simp only [isBreak, Bool.or_eq_true, beq_iff_eq] at hbreak
  rcases hbreak with (((rfl | rfl) | rfl) | rfl) | rfl <;> exact h (by decide)

theorem escape_not_lettered {c : Char} (h : c ∉ lettered.map Prod.fst) :
    escape c = if isPrintable c && !isBreak c then [c]
      else if c.toNat ≤ 0xFF then '\\' :: 'x' :: hexDigits 2 c.toNat
      else '\\' :: 'u' :: hexDigits 4 c.toNat := by
  simp only [lettered, List.map_cons, List.map_nil, List.mem_cons, List.not_mem_nil, or_false,
    not_or] at h
  obtain ⟨h0, h1, h2, h3, h4, h5, h6, h7, h8, h9, h10, h11, h12, h13⟩ := h
  rw [escape, if_neg h0, if_neg h1, if_neg h2, if_neg h3, if_neg h4, if_neg h5, if_neg h6, if_neg h7,
    if_neg h8, if_neg h9, if_neg h10, if_neg h11, if_neg h12, if_neg h13]

theorem doubleFrom_hexDigits_two {c : Char} (h : c.toNat ≤ 0xFF) (blanks text : List Char) :
    doubleFrom blanks [] ('\\' :: 'x' :: hexDigits 2 c.toNat ++ text) =
      (doubleFrom [] [] text).map fun p => (blanks ++ c :: p.1, p.2) := by
  have hstep : ∀ d e, doubleFrom blanks [] ('\\' :: 'x' :: d :: e :: text) =
      (coded? [d, e]).bind fun c =>
        (doubleFrom [] [] text).bind fun p => some (blanks ++ c :: p.1, p.2) := by
    intro d e
    rw [doubleFrom.eq_def]
    rfl
  have hdigits := coded?_hexDigits c 1 (Nat.lt_of_le_of_lt h (by decide))
  simp only [hexDigits, List.nil_append, List.cons_append] at hdigits ⊢
  rw [hstep, hdigits]
  exact Option.map_eq_bind.symm

theorem doubleFrom_hexDigits_four {c : Char} (h : c.toNat ≤ 0xFFFF) (blanks text : List Char) :
    doubleFrom blanks [] ('\\' :: 'u' :: hexDigits 4 c.toNat ++ text) =
      (doubleFrom [] [] text).map fun p => (blanks ++ c :: p.1, p.2) := by
  have hstep : ∀ d e f g, doubleFrom blanks [] ('\\' :: 'u' :: d :: e :: f :: g :: text) =
      (coded? [d, e, f, g]).bind fun c =>
        (doubleFrom [] [] text).bind fun p => some (blanks ++ c :: p.1, p.2) := by
    intro d e f g
    rw [doubleFrom.eq_def]
    rfl
  have hdigits := coded?_hexDigits c 3 (Nat.lt_of_le_of_lt h (by decide))
  simp only [hexDigits, List.nil_append, List.cons_append] at hdigits ⊢
  rw [hstep, hdigits]
  exact Option.map_eq_bind.symm

/-- An escaped character that is no space is read back. -/
theorem doubleFrom_escape {c : Char} (hspace : c ≠ ' ') (blanks text : List Char) :
    doubleFrom blanks [] (escape c ++ text) =
      (doubleFrom [] [] text).map fun p => (blanks ++ c :: p.1, p.2) := by
  by_cases hlettered : c ∈ lettered.map Prod.fst
  · obtain ⟨⟨c, d⟩, hmem, rfl⟩ := List.mem_map.1 hlettered
    obtain ⟨hescape, hd, hcode⟩ := escape_lettered _ hmem
    rw [hescape]
    exact doubleFrom_letter hd hcode blanks text
  · have hquote : c ≠ '"' := fun heq => hlettered (heq ▸ by decide)
    have hbackslash : c ≠ '\\' := fun heq => hlettered (heq ▸ by decide)
    have htab : c ≠ '\t' := fun heq => hlettered (heq ▸ by decide)
    rw [escape_not_lettered hlettered]
    split
    · rename_i hplain
      rw [Bool.and_eq_true, Bool.not_eq_true'] at hplain
      have hblank : Reader.isBlank c = false := by
        rw [isBlank_eq hplain.1, isSpace, beq_eq_false_iff_ne]
        exact hspace
      rw [List.cons_append, List.nil_append, doubleFrom.eq_def]
      dsimp only
      rw [if_neg (Bool.eq_false_iff.1 hplain.2), if_neg (Bool.eq_false_iff.1 hblank), if_neg hquote,
        if_neg hbackslash]
      cases doubleFrom [] [] text <;> rfl
    rename_i hplain
    split
    · rename_i hcode
      exact doubleFrom_hexDigits_two hcode blanks text
    · have hprintable : isPrintable c = false := by
        rw [isBreak_of_not_lettered hlettered, Bool.not_false, Bool.and_true] at hplain
        exact Bool.eq_false_iff.2 hplain
      exact doubleFrom_hexDigits_four (toNat_le_of_not_isPrintable hprintable) blanks text

/-- A text between quotes is read back, with the spaces before it. -/
theorem doubleFrom_escapes (s behind blanks : List Char) :
    doubleFrom blanks [] (s.flatMap escape ++ '"' :: behind) = some (blanks ++ s, behind) := by
  induction s generalizing blanks with
  | nil =>
    rw [List.flatMap_nil, List.nil_append, List.append_nil, doubleFrom.eq_def]
    rfl
  | cons c s ih =>
    rw [List.flatMap_cons, List.append_assoc]
    by_cases hspace : c = ' '
    · subst hspace
      have hstep : ∀ text, doubleFrom blanks [] (escape ' ' ++ text) =
          doubleFrom (blanks ++ [' ']) [] text := by
        intro text
        rw [doubleFrom.eq_def]
        rfl
      rw [hstep, ih, List.append_assoc]
      rfl
    · rw [doubleFrom_escape hspace, ih]
      rfl

theorem inline?_doubleQuoted (s behind : List Char) :
    inline? (doubleQuoted s ++ behind) = some (.text (String.ofList s), behind) := by
  have hquote : ∀ text, inline? ('"' :: text) =
      (doubleFrom [] [] text).bind fun p => some (.text (String.ofList p.1), p.2) := fun text => rfl
  rw [doubleQuoted, List.cons_append, List.cons_append, List.append_assoc, hquote, List.cons_append,
    List.nil_append, doubleFrom_escapes]
  rfl

/-! ## Scalars over several lines -/

/-- What stands behind a block: nothing, or a line whose first character stands left of a column. -/
def Below (column : Nat) (rest : List Char) : Prop :=
  rest = [] ∨ ∃ k c more, rest = margin k ++ c :: more ∧ k < column ∧ c ≠ ' ' ∧ isBreak c = false

theorem literalFrom_margin (indent k left : Nat) (line breaks text : List Char) :
    literalFrom indent (k + left) line breaks (margin k ++ text) =
      literalFrom indent left line breaks text := by
  induction k with
  | zero => rw [Nat.zero_add]; rfl
  | succ k ih =>
    rw [margin_succ, List.cons_append, Nat.succ_add, literalFrom.eq_def]
    exact ih

theorem literalFrom_below {indent : Nat} {rest : List Char} (h : Below indent rest)
    (breaks : List Char) : literalFrom indent indent rest breaks rest = ([], breaks, rest) := by
  rcases h with rfl | ⟨k, c, more, hrest, hk, hspace, hbreak⟩
  · rw [literalFrom.eq_def]
  · obtain ⟨left, hleft⟩ := Nat.exists_eq_add_of_lt hk
    have hstop : literalFrom indent (left + 1) rest breaks (c :: more) = ([], breaks, rest) := by
      rw [literalFrom.eq_def]
      dsimp only
      rw [if_neg (Bool.eq_false_iff.1 hbreak), if_neg hspace]
    have hskip := literalFrom_margin indent k (left + 1) rest breaks (c :: more)
    rw [← hrest, hstop, ← Nat.add_assoc, ← hleft] at hskip
    exact hskip

/-- The line feed behind a text that does not end its last line. -/
def lastFeed (atStart : Bool) (s : List Char) : List Char :=
  if (s.getLast?.map isBreak).getD atStart then [] else ['\n']

/-- What is written over several lines of a text, from any place on. -/
def literalRest (indent : Nat) (atStart : Bool) (s rest : List Char) : List Char :=
  withMargins indent atStart s ++ (lastFeed atStart s ++ rest)

theorem lastFeed_of_ne_nil (atStart : Bool) {s : List Char} (hne : s ≠ []) :
    lastFeed atStart s = if endsWith isBreak s then [] else ['\n'] := by
  rw [lastFeed, endsWith, List.getLast?_eq_some_getLast hne]
  rfl

theorem lastFeed_cons (atStart : Bool) (c : Char) (s : List Char) :
    lastFeed atStart (c :: s) = lastFeed (isBreak c) s := by
  rw [lastFeed, lastFeed, getLast?_cons_getD]

theorem literalRest_break {c : Char} (hbreak : isBreak c = true) (indent : Nat) (atStart : Bool)
    (s rest : List Char) :
    literalRest indent atStart (c :: s) rest = c :: literalRest indent true s rest := by
  rw [literalRest, lastFeed_cons, hbreak, withMargins, if_pos hbreak]
  rfl

theorem literalRest_char {c : Char} (hbreak : isBreak c = false) (indent : Nat) (atStart : Bool)
    (s rest : List Char) :
    literalRest indent atStart (c :: s) rest =
      (if atStart then margin indent else []) ++ c :: literalRest indent false s rest := by
  rw [literalRest, lastFeed_cons, hbreak, withMargins, if_neg (Bool.eq_false_iff.1 hbreak),
    List.append_assoc]
  rfl

/-- A text as its lines without the line ends behind them, and these. -/
structure Ending (s body ends : List Char) : Prop where
  append : body ++ ends = s
  breaks : ∀ c ∈ ends, isBreak c = true
  body : endsWith isBreak body = false

theorem Ending.unique {s body ends body' ends' : List Char} (h : Ending s body ends)
    (h' : Ending s body' ends') : body = body' ∧ ends = ends' := by
  have hdrop : ∀ {body ends : List Char}, Ending s body ends → Text.dropEndWhile isBreak s = body := by
    intro body ends h
    have hbody := dropEndWhile_of_endsWith h.body
    have hall : ∀ c ∈ ends.reverse, isBreak c = true := fun c hc => h.breaks c (List.mem_reverse.1 hc)
    rw [← h.append, Text.dropEndWhile, List.reverse_append, List.dropWhile_append_of_pos hall]
    exact hbody
  obtain rfl : body = body' := (hdrop h).symm.trans (hdrop h')
  exact ⟨rfl, List.append_cancel_left (h.append.trans h'.append.symm)⟩

theorem Ending.cons_body {c : Char} {s body ends : List Char} (h : Ending s body ends)
    (hbreak : isBreak c = false) (breaks : List Char) :
    Ending (breaks ++ c :: s) (breaks ++ c :: body) ends := by
  refine ⟨by rw [List.append_assoc, List.cons_append, h.append], h.breaks, ?_⟩
  have hbody := h.body
  rw [endsWith] at hbody
  rw [endsWith, List.getLast?_append, List.getLast?_cons, Option.some_or, Option.map_some,
    Option.getD_some]
  cases hlast : body.getLast? with
  | none => exact hbreak
  | some d => simpa [hlast] using hbody

/-- The rest of a text over several lines is read back, within a line and at the start of a line with
the line ends before it. -/
structure ReadsLiteral (indent : Nat) (s rest : List Char) : Prop where
  line : ∀ line, ∃ body ends, Ending (s ++ lastFeed false s) body ends ∧
    literalFrom indent 0 line [] (literalRest indent false s rest) = (body, ends, rest)
  start : ∀ breaks, (∀ c ∈ breaks, isBreak c = true) →
    ∃ body ends, Ending (breaks ++ (s ++ lastFeed true s)) body ends ∧
      literalFrom indent indent (literalRest indent true s rest) breaks
        (literalRest indent true s rest) = (body, ends, rest)

theorem ReadsLiteral.nil {indent : Nat} {rest : List Char} (hrest : Below indent rest) :
    ReadsLiteral indent [] rest := by
  have hbelow := literalFrom_below hrest
  constructor
  · intro line
    have hfeed : isBreak '\n' = true := rfl
    refine ⟨[], ['\n'], ⟨rfl, by simp [hfeed], rfl⟩, ?_⟩
    exact (literalFrom_break hfeed indent 0 line [] rest).trans (hbelow ['\n'])
  · intro breaks hbreaks
    exact ⟨[], breaks, ⟨(List.append_nil breaks).symm, hbreaks, rfl⟩, hbelow breaks⟩

theorem ReadsLiteral.cons_break {indent : Nat} {c : Char} {s rest : List Char}
    (h : ReadsLiteral indent s rest) (hbreak : isBreak c = true) :
    ReadsLiteral indent (c :: s) rest := by
  constructor
  · intro line
    obtain ⟨body, ends, hending, hread⟩ := h.start [c] (by simp [hbreak])
    refine ⟨body, ends, by rwa [lastFeed_cons, hbreak], ?_⟩
    rw [literalRest_break hbreak, literalFrom_break hbreak]
    exact hread
  · intro breaks hbreaks
    have hall : ∀ d ∈ breaks ++ [c], isBreak d = true := by
      intro d hd
      rcases List.mem_append.1 hd with hd | hd
      · exact hbreaks d hd
      · rwa [List.mem_singleton.1 hd]
    obtain ⟨body, ends, hending, hread⟩ := h.start _ hall
    refine ⟨body, ends, ?_, ?_⟩
    · rw [List.append_assoc] at hending
      rwa [lastFeed_cons, hbreak]
    · rw [literalRest_break hbreak, literalFrom_break hbreak]
      exact hread

theorem ReadsLiteral.cons_char {indent : Nat} {c : Char} {s rest : List Char}
    (h : ReadsLiteral indent s rest) (hbreak : isBreak c = false) :
    ReadsLiteral indent (c :: s) rest := by
  constructor
  · intro line
    obtain ⟨body, ends, hending, hread⟩ := h.line line
    refine ⟨c :: body, ends, ?_, ?_⟩
    · rw [lastFeed_cons, hbreak]
      exact hending.cons_body hbreak []
    · rw [literalRest_char hbreak, if_neg Bool.false_ne_true, List.nil_append,
        literalFrom_char hbreak, hread]
      rfl
  · intro breaks _
    -- the line is named, so that what is left of it can be told from what is read
    have hwritten := literalRest_char hbreak indent true s rest
    generalize literalRest indent true (c :: s) rest = line at hwritten ⊢
    obtain ⟨body, ends, hending, hread⟩ := h.line line
    have hskip := literalFrom_margin indent indent 0 line breaks
      (c :: literalRest indent false s rest)
    rw [if_pos rfl] at hwritten
    rw [Nat.add_zero, ← hwritten, literalFrom_char hbreak, hread] at hskip
    refine ⟨breaks ++ c :: body, ends, ?_, hskip⟩
    rw [lastFeed_cons, hbreak]
    exact hending.cons_body hbreak breaks

theorem readsLiteral {indent : Nat} {rest : List Char} (hrest : Below indent rest) (s : List Char) :
    ReadsLiteral indent s rest := by
  induction s with
  | nil => exact .nil hrest
  | cons c s ih =>
    cases hbreak : isBreak c with
    | true => exact ih.cons_break hbreak
    | false => exact ih.cons_char hbreak

/-- What stands behind the bar says how to end the text, with and without a digit. -/
theorem exists_chomping {s body ends : List Char} (hne : s ≠ [])
    (h : Ending (s ++ lastFeed true s) body ends) :
    ∃ chomp, header? (chomping s) = some (none, chomp) ∧
      header? ('2' :: chomping s) = some (some 2, chomp) ∧ chomp.apply body ends = s := by
  rcases hs : s.reverse with _ | ⟨c, before⟩
  · exact absurd (List.reverse_eq_nil_iff.1 hs) hne
  have hlast : s = before.reverse ++ [c] := by
    rw [← List.reverse_reverse s, hs, List.reverse_cons]
  have hfeed : lastFeed true s = if isBreak c then [] else ['\n'] := by
    rw [lastFeed, hlast, List.getLast?_concat]
    rfl
  rw [hfeed] at h
  by_cases hc : isBreak c = true
  · rw [if_pos hc, List.append_nil] at h
    by_cases hsingle : before ≠ [] ∧ endsWith isBreak before.reverse = false
    · -- a single line end, which no sign asks to keep
      obtain ⟨d, before, rfl⟩ := List.exists_cons_of_ne_nil hsingle.1
      have hd : isBreak d = false := by simpa [endsWith] using hsingle.2
      have hchomping : chomping s = [] := by
        simp [chomping, hs, hc, hd]
      obtain ⟨rfl, rfl⟩ := h.unique ⟨hlast.symm, by simp [hc], hsingle.2⟩
      rw [hchomping]
      exact ⟨.clip, rfl, rfl, by simp [Chomping.apply, hlast]⟩
    · have hchomping : chomping s = ['+'] := by
        cases before with
        | nil => simp [chomping, hs, hc]
        | cons d before =>
          have hd : isBreak d = true := by simpa [endsWith] using hsingle
          simp [chomping, hs, hc, hd]
      rw [hchomping]
      exact ⟨.keep, rfl, rfl, h.append⟩
  · have hfull : Ending (s ++ ['\n']) s ['\n'] :=
      ⟨rfl, by simp [isBreak], by simpa [endsWith, hlast] using hc⟩
    have hchomping : chomping s = ['-'] := by
      cases before with
      | nil => simp [chomping, hs, hc]
      | cons d before => simp [chomping, hs, hc]
    rw [if_neg hc] at h
    rw [hchomping]
    exact ⟨.strip, rfl, rfl, (h.unique hfull).1⟩

theorem firstColumn_margin {c : Char} (hspace : c ≠ ' ') (hbreak : isBreak c = false)
    (k widest column : Nat) (text : List Char) :
    firstColumn widest column (margin k ++ c :: text) = max widest (column + k) := by
  induction k generalizing column with
  | zero =>
    rw [firstColumn.eq_def]
    dsimp only [margin, List.replicate_zero, List.nil_append]
    rw [if_neg hspace, if_neg (Bool.eq_false_iff.1 hbreak)]
    rfl
  | succ k ih =>
    rw [margin_succ, List.cons_append, firstColumn, if_pos rfl, ih, Nat.add_right_comm]
    rfl

theorem chomping_mem (s : List Char) : chomping s ∈ [['-'], ['+'], []] := by
  unfold chomping
  split
  · simp
  · split <;> simp
  · split
    · split <;> simp
    · simp

theorem isGap_chomping {s : List Char} : ∀ c ∈ chomping s, isGap c = false := by
  have hall : ∀ signs ∈ [['-'], ['+'], []], signs.all (!isGap ·) = true := by decide
  intro c hc
  simpa using List.all_eq_true.1 (hall _ (chomping_mem s)) c hc

theorem literal?_header {header : List Char} {hint : Option Nat} {chomp : Chomping}
    (hgap : ∀ c ∈ header, isGap c = false) (hheader : header? header = some (hint, chomp)) (base : Nat)
    {lines body ends rest : List Char} {indent : Nat}
    (hindent : literalIndent base lines hint = indent)
    (hread : literalFrom indent indent lines [] lines = (body, ends, rest)) :
    literal? base (header ++ '\n' :: lines) = some (chomp.apply body ends, rest) := by
  have hall : ∀ c ∈ header, (!isGap c) = true := fun c hc => by rw [hgap c hc, Bool.not_false]
  have hhead : ∀ c ∈ ('\n' :: lines).head?, (!isGap c) = false := by
    rintro c ⟨⟩
    rfl
  have htake := takeWhile_append_of_head hall hhead
  have hdrop := dropWhile_append_of_head hall hhead
  have hspaces : ('\n' :: lines).dropWhile (· == ' ') = '\n' :: lines := rfl
  unfold literal?
  rw [htake, hheader, hdrop, hspaces]
  simp only [Option.bind_eq_bind, Option.bind_some, hindent, hread]
  rfl

/-- A text over several lines is read back, with the line feed that ends its last line. -/
theorem literal?_literal {base : Nat} (hbase : 0 < base) {s rest : List Char} (hne : s ≠ [])
    (hrest : Below (base + 1) rest) :
    ∃ text, literal (base + 1) s ++ (lastFeed true s ++ rest) = '|' :: text ∧
      literal? base text = some (s, rest) := by
  obtain ⟨body, ends, hending, hread⟩ := (readsLiteral hrest s).start [] (by simp)
  obtain ⟨chomp, hplain, hdigit, happly⟩ := exists_chomping hne hending
  rw [← happly]
  by_cases hhint : startsWith (fun c => isSpace c || isBreak c) s = true
  · refine ⟨('2' :: chomping s) ++ '\n' :: literalRest (base + 1) true s rest, ?_,
      literal?_header (List.forall_mem_cons.2 ⟨rfl, isGap_chomping⟩) hdigit base ?_ hread⟩
    · simp [literal, hhint, literalRest, happly]
    · rw [literalIndent]
      omega
  · refine ⟨chomping s ++ '\n' :: literalRest (base + 1) true s rest, ?_,
      literal?_header isGap_chomping hplain base ?_ hread⟩
    · simp [literal, hhint, literalRest, happly]
    · obtain ⟨c, s, rfl⟩ := List.exists_cons_of_ne_nil hne
      rw [startsWith, List.head?_cons, Option.map_some, Option.getD_some, Bool.or_eq_true,
        not_or] at hhint
      have hbreak : isBreak c = false := Bool.eq_false_iff.2 hhint.2
      have hspace : c ≠ ' ' := fun heq => hhint.1 (heq ▸ rfl)
      rw [literalIndent, literalRest_char hbreak, if_pos rfl, firstColumn_margin hspace hbreak]
      omega

end DocAtlas.Yaml
