import DocAtlas.Markup.Title
import DocAtlas.Proofs.Text.Runs
import Mathlib.Algebra.Group.Nat.Even
import Mathlib.Data.List.Basic

/-! # Headings and fenced code blocks

A block of code is opened by a run of at least three backquotes or at least three tildes and closed by a
line with nothing but a run of the same mark that is no shorter. Titles are looked for with less: any
line that starts with three marks of either kind is taken to open a block or to close one. The two ways
of reading part where such a line stands inside a block and does not close it.

* `Title.Fence`, `Title.openFence` — the run of marks that opened a block, the block open behind lines
* `Title.strayFences` — how many lines inside blocks look like a mark and do not close the block
* `Title.toNat_isSome_step`, `Title.toNat_isSome_openFence` — both ways of reading one line, and many
* `Title.IsFirstHeading`, `Title.exists_isFirstHeading` — the line a title is taken from
* `Title.heading_outside_blocks_iff` — when this line lies outside every block
-/

set_option autoImplicit false

namespace DocAtlas

namespace Title

open Text (lines trim trimStart trimEnd)

/-! ## Blocks -/

/-- The run of marks that opened a block. -/
structure Fence where
  mark : Char
  width : Nat
  isMark : mark = '\x60' ∨ mark = '~'
  isWide : 3 ≤ width
  deriving DecidableEq

/-- The length of the run of marks a line starts with behind blanks. -/
def run (mark : Char) (line : List Char) : Nat := ((trimStart line).takeWhile (· == mark)).length

/-- The block a line opens, if it starts with three marks or more. -/
def Fence.opened? (line : List Char) : Option Fence :=
  if h : 3 ≤ run '\x60' line then some ⟨'\x60', run '\x60' line, Or.inl rfl, h⟩
  else if h : 3 ≤ run '~' line then some ⟨'~', run '~' line, Or.inr rfl, h⟩
  else none

/-- Whether a line closes the block: trimmed it is a run of the same mark that is no shorter. -/
def Fence.closedBy (fence : Fence) (line : List Char) : Bool :=
  (trim line).all (· == fence.mark) && decide (fence.width ≤ (trim line).length)

/-- The block that is open behind a line, given the one open before it. -/
def step (fence? : Option Fence) (line : List Char) : Option Fence :=
  match fence? with
  | none => Fence.opened? line
  | some fence => if fence.closedBy line then none else some fence

/-- The block that is open behind lines, given the one open before them. -/
def openFence (fence? : Option Fence) (before : List (List Char)) : Option Fence :=
  before.foldl step fence?

/-- Whether a line inside a block looks like a mark and does not close the block. -/
def isStray (fence? : Option Fence) (line : List Char) : Bool :=
  fence?.isSome && isCodeFence line && (step fence? line).isSome

/-- The number of such lines. -/
def strayFences : Option Fence → List (List Char) → Nat
  | _, [] => 0
  | fence?, line :: rest => (isStray fence? line).toNat + strayFences (step fence? line) rest

/-! ## Runs of marks -/

theorem replicate_isPrefixOf_iff (c : Char) (n : Nat) (s : List Char) :
    (List.replicate n c).isPrefixOf s = true ↔ n ≤ (s.takeWhile (· == c)).length := by
  induction n generalizing s with
  | zero => simp
  | succ n ih =>
    cases s with
    | nil => simp [List.replicate_succ]
    | cons d rest =>
      rw [List.replicate_succ, List.isPrefixOf_cons_cons, Bool.and_eq_true, ih, List.takeWhile_cons]
      by_cases hd : d = c
      · simp [hd]
      · simp [hd, Ne.symm hd]

theorem isCodeFence_iff {line : List Char} :
    isCodeFence line = true ↔ 3 ≤ run '\x60' line ∨ 3 ≤ run '~' line := by
  rw [isCodeFence, Bool.or_eq_true, run, run, ← replicate_isPrefixOf_iff, ← replicate_isPrefixOf_iff]
  rfl

theorem isSome_opened? (line : List Char) : (Fence.opened? line).isSome = isCodeFence line := by
  rw [Bool.eq_iff_iff, isCodeFence_iff, Fence.opened?]
  split
  · rename_i h
    simp [h]
  · rename_i h
    split
    · rename_i h'
      simp [h']
    · rename_i h'
      simp [h, h']

theorem Fence.isCodeFence_of_closedBy {fence : Fence} {line : List Char}
    (h : fence.closedBy line = true) : isCodeFence line = true := by
  rw [closedBy, Bool.and_eq_true, List.all_eq_true, decide_eq_true_eq] at h
  obtain ⟨hall, hwide⟩ := h
  have hrun : 3 ≤ run fence.mark line := by
    obtain ⟨tail, htail⟩ : trim line <+: trimStart line := dropEndWhile_isPrefix _ _
    rw [run, ← htail, List.takeWhile_append_of_pos hall, List.length_append]
    have := fence.isWide
    omega
  rw [isCodeFence_iff]
  rcases fence.isMark with hmark | hmark
  · exact Or.inl (hmark ▸ hrun)
  · exact Or.inr (hmark ▸ hrun)

/-! ## Two ways of reading -/

/-- One line. What looks like a mark is taken to change from outside to inside or back, and it does,
unless it is stray. -/
theorem toNat_isSome_step (fence? : Option Fence) (line : List Char) :
    (step fence? line).isSome.toNat =
      (fence?.isSome.toNat + (isCodeFence line).toNat + (isStray fence? line).toNat) % 2 := by
  cases fence? with
  | none =>
    rw [step, isSome_opened?, isStray]
    cases isCodeFence line <;> rfl
  | some fence =>
    cases hclosed : fence.closedBy line with
    | true =>
      have hmark := Fence.isCodeFence_of_closedBy hclosed
      simp [step, isStray, hclosed, hmark]
    | false => cases hmark : isCodeFence line <;> simp [step, isStray, hclosed, hmark]

/-- All lines: a block is open behind them as far as marks and stray marks together are odd. -/
theorem toNat_isSome_openFence (fence? : Option Fence) (before : List (List Char)) :
    (openFence fence? before).isSome.toNat =
      (fence?.isSome.toNat + before.countP isCodeFence + strayFences fence? before) % 2 := by
  induction before generalizing fence? with
  | nil =>
    rw [openFence, List.foldl_nil, List.countP_nil, strayFences]
    cases fence? <;> rfl
  | cons line before ih =>
    have hstep := toNat_isSome_step fence? line
    have hrest := ih (step fence? line)
    rw [openFence, List.foldl_cons, ← openFence, hrest, strayFences, List.countP_cons]
    have hmark : (isCodeFence line).toNat = if isCodeFence line then 1 else 0 := by
      cases isCodeFence line <;> rfl
    omega

/-! ## The line of a title -/

/-- A heading that is read outside code, the first one of this kind: marks change between inside and
outside, and reading starts inside if `inCode` holds. -/
structure IsFirstHeading (inCode : Bool) (before : List (List Char)) (line title : List Char) :
    Prop where
  heading : heading? line = some title
  even : Even (inCode.toNat + before.countP isCodeFence)
  first : ∀ front other behind, before = front ++ other :: behind → heading? other ≠ none →
    ¬ Even (inCode.toNat + front.countP isCodeFence)

theorem isCodeFence_of_heading? {line : List Char} (h : heading? line ≠ none) :
    isCodeFence line = false := by
  unfold heading? at h
  split at h
  · rename_i c rest
    have hstart : trimStart ('#' :: c :: rest) = '#' :: c :: rest := rfl
    rw [isCodeFence, hstart]
    rfl
  · exact absurd rfl h

theorem even_toNat_countP_cons (inCode : Bool) (line : List Char) (before : List (List Char)) :
    Even (inCode.toNat + (line :: before).countP isCodeFence) ↔
      Even ((inCode ^^ isCodeFence line).toNat + before.countP isCodeFence) := by
  rw [List.countP_cons, Nat.even_iff, Nat.even_iff]
  cases inCode <;> cases isCodeFence line <;> simp <;> omega

/-- A line that is passed over is inside code or no heading. -/
theorem IsFirstHeading.cons {inCode : Bool} {passed line title : List Char}
    {before : List (List Char)} (h : IsFirstHeading (inCode ^^ isCodeFence passed) before line title)
    (hpassed : heading? passed ≠ none → inCode = true) :
    IsFirstHeading inCode (passed :: before) line title where
  heading := h.heading
  even := (even_toNat_countP_cons inCode passed before).2 h.even
  first := by
    intro front other behind hbefore hother
    cases front with
    | nil =>
      obtain ⟨rfl, -⟩ := List.cons.inj hbefore
      rw [hpassed hother]
      decide
    | cons first front =>
      obtain ⟨rfl, hrest⟩ := List.cons.inj hbefore
      rw [even_toNat_countP_cons]
      exact h.first front other behind hrest hother

theorem exists_isFirstHeading {inCode : Bool} {all : List (List Char)} {title : List Char}
    (h : headingOutsideCode inCode all = some title) :
    ∃ before line behind, all = before ++ line :: behind ∧
      IsFirstHeading inCode before line title := by
  induction all generalizing inCode with
  | nil => cases h
  | cons first rest ih =>
    have hpass : ∀ next, next = (inCode ^^ isCodeFence first) →
        (heading? first ≠ none → inCode = true) → headingOutsideCode next rest = some title →
        ∃ before line behind, first :: rest = before ++ line :: behind ∧
          IsFirstHeading inCode before line title := by
      rintro next rfl hfirst hnext
      obtain ⟨before, line, behind, rfl, hline⟩ := ih hnext
      exact ⟨first :: before, line, behind, rfl, hline.cons hfirst⟩
    rw [headingOutsideCode] at h
    split at h
    · rename_i hmark
      refine hpass (!inCode) (by simp [hmark]) (fun hheading => ?_) h
      rw [isCodeFence_of_heading? hheading] at hmark
      cases hmark
    · rename_i hmark
      split at h
      · rename_i hinside
        exact hpass inCode (by simp [hmark]) (fun _ => hinside) h
      · rename_i houtside
        split at h
        · rename_i found hfound
          cases h
          refine ⟨[], first, rest, rfl, hfound, ?_, by simp⟩
          simp [houtside]
        · rename_i hnone
          exact hpass inCode (by simp [hmark]) (fun hheading => absurd hnone hheading) h

/-! ## Titles and blocks -/

/-- The title of a Markdown document is taken from the first heading that is read outside code, and this
lies outside every block of code exactly if the stray marks before it are even in number. -/
theorem heading_outside_blocks_iff {content title : String}
    (h : find? .markdown content = some title) :
    ∃ before line behind, withoutFrontMatter (lines content.toList) = before ++ line :: behind ∧
      IsFirstHeading false before line title.toList ∧
      (openFence none before = none ↔ Even (strayFences none before)) := by
  rw [find?, Option.map_eq_some_iff] at h
  obtain ⟨chars, hchars, rfl⟩ := h
  obtain ⟨before, line, behind, hlines, hfirst⟩ := exists_isFirstHeading hchars
  refine ⟨before, line, behind, hlines, by rwa [String.toList_ofList], ?_⟩
  have hopen := toNat_isSome_openFence none before
  have heven := hfirst.even
  have hnone : openFence none before = none ↔ (openFence none before).isSome.toNat = 0 := by
    cases openFence none before <;> simp
  rw [hnone, hopen, Nat.even_iff]
  rw [Nat.even_iff] at heven
  simp only [Option.isSome_none, Bool.toNat_false] at heven ⊢
  omega

/-- A heading in a block is passed over, and the one behind it is the title. -/
theorem heading_behind_block :
    find? .markdown "~~~\n# a\n~~~\n# b\n" = some "b" ∧
      ∃ before line behind,
        withoutFrontMatter (lines "~~~\n# a\n~~~\n# b\n".toList) = before ++ line :: behind ∧
        IsFirstHeading false before line "b".toList ∧
        (openFence none before = none ↔ Even (strayFences none before)) :=
  have hfind : find? .markdown "~~~\n# a\n~~~\n# b\n" = some "b" := by decide +kernel
  ⟨hfind, heading_outside_blocks_iff hfind⟩

/-- A shorter run of marks inside a block is taken to end it, and a line of code to be a heading. -/
theorem title_from_code :
    find? .markdown "````\n```\n# a\n```\n````\n" = some "a" ∧
      withoutFrontMatter (lines "````\n```\n# a\n```\n````\n".toList) =
        ["````".toList, "```".toList] ++ "# a".toList :: ["```".toList, "````".toList] ∧
      (∀ line ∈ ["````".toList, "```".toList, "```".toList, "````".toList], heading? line = none) ∧
      openFence none ["````".toList, "```".toList] ≠ none ∧
      openFence none ["````".toList, "```".toList, "# a".toList, "```".toList, "````".toList] = none := by
  decide +kernel

end Title

end DocAtlas
