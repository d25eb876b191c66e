import DocAtlas.Classify
import DocAtlas.Proofs.Text.Occurrences

/-! # The choice of a section

A file name with a keyword settles the section. Otherwise the content does, if one is given: of the
sections with the greatest score the first is chosen, and none if all scores are zero.

* `Classify.FirstMax` — the first of the elements with the greatest score
* `Classify.best?_eq_some_iff`, `Classify.best?_eq_none_iff` — what is chosen from scores
* `Classify.Mentions`, `Classify.HasScore` — what file names and contents say for a section
* `Classify.Chosen`, `Classify.sectionOf_eq_iff` — the section of a document
-/

set_option autoImplicit false

namespace DocAtlas

namespace Classify

open Text (contains contains_iff lowercase FindsFrom findsFrom_iff occurrences)

/-! ## The first of the greatest -/

variable {α : Type}

/-- All elements before `best` have a smaller score, and none behind it has a greater one. -/
def FirstMax (score : α → Nat) (xs : List α) (best : α) : Prop :=
  ∃ before after, xs = before ++ best :: after ∧
    (∀ x ∈ before, score x < score best) ∧ ∀ x ∈ after, score x ≤ score best

theorem FirstMax.le {score : α → Nat} {xs : List α} {best x : α} (h : FirstMax score xs best)
    (hx : x ∈ xs) : score x ≤ score best := by
  obtain ⟨before, after, rfl, hbefore, hafter⟩ := h
  rcases List.mem_append.1 hx with hx | hx
  · exact Nat.le_of_lt (hbefore x hx)
  · rcases List.mem_cons.1 hx with rfl | hx
    · exact Nat.le_refl _
    · exact hafter x hx

theorem FirstMax.mem {score : α → Nat} {xs : List α} {best : α} (h : FirstMax score xs best) :
    best ∈ xs := by
  obtain ⟨before, after, rfl, -, -⟩ := h
  simp

theorem FirstMax.find? {score : α → Nat} {xs : List α} {best : α} (h : FirstMax score xs best) :
    xs.find? (fun x => decide (score best ≤ score x)) = some best := by
  obtain ⟨before, after, rfl, hbefore, -⟩ := h
  rw [List.find?_eq_some_iff_append]
  refine ⟨by simp, before, after, rfl, fun x hx => ?_⟩
  simpa using hbefore x hx

theorem FirstMax.unique {score : α → Nat} {xs : List α} {best best' : α}
    (h : FirstMax score xs best) (h' : FirstMax score xs best') : best = best' := by
  have hscore : score best = score best' := Nat.le_antisymm (h'.le h.mem) (h.le h'.mem)
  have hfind := h.find?
  rw [hscore, h'.find?] at hfind
  exact (Option.some.inj hfind).symm

theorem FirstMax.congr {score score' : α → Nat} {xs : List α} {best : α}
    (heq : ∀ x ∈ xs, score x = score' x) (h : FirstMax score xs best) : FirstMax score' xs best := by
  obtain ⟨before, after, rfl, hbefore, hafter⟩ := h
  have hbest := heq best (by simp)
  refine ⟨before, after, rfl, fun x hx => ?_, fun x hx => ?_⟩
  · rw [← hbest, ← heq x (by simp [hx])]
    exact hbefore x hx
  · rw [← hbest, ← heq x (by simp [hx])]
    exact hafter x hx

theorem firstMax_map {β : Type} {f : α → β} {score : β → Nat} {xs : List α} {best : α}
    (h : FirstMax (fun x => score (f x)) xs best) : FirstMax score (xs.map f) (f best) := by
  obtain ⟨before, after, rfl, hbefore, hafter⟩ := h
  refine ⟨before.map f, after.map f, by simp, ?_, ?_⟩
  · simpa using hbefore
  · simpa using hafter

theorem exists_of_firstMax_map {β : Type} {f : α → β} {score : β → Nat} {xs : List α} {best : β}
    (h : FirstMax score (xs.map f) best) :
    ∃ x, f x = best ∧ FirstMax (fun x => score (f x)) xs x := by
  obtain ⟨before, after, hxs, hbefore, hafter⟩ := h
  obtain ⟨front, back, rfl, rfl, hback⟩ := List.map_eq_append_iff.1 hxs
  obtain ⟨x, behind, rfl, rfl, rfl⟩ := List.map_eq_cons_iff.1 hback
  refine ⟨x, rfl, front, behind, rfl, ?_, ?_⟩
  · simpa using hbefore
  · simpa using hafter

/-! ## The best score -/

theorem best?_concat (scores : List (String × Nat)) (scored : String × Nat) :
    best? (scores ++ [scored]) =
      if ((best? scores).map (·.2)).getD 0 < scored.2 then some scored else best? scores := by
  rw [best?, List.foldl_append]
  rfl

/-- The scores are gone through from the front, so the induction adds one at the end. -/
theorem best?_spec (scores : List (String × Nat)) :
    (best? scores = none ∧ ∀ scored ∈ scores, scored.2 = 0) ∨
      ∃ best, best? scores = some best ∧ 0 < best.2 ∧ FirstMax (·.2) scores best := by
  induction scores using List.reverseRecOn with
  | nil => exact Or.inl ⟨rfl, by simp⟩
  | append_singleton scores scored ih =>
    rw [best?_concat]
    rcases ih with ⟨hnone, hzero⟩ | ⟨best, hbest, hpos, before, after, rfl, hbefore, hafter⟩
    · rw [hnone]
      by_cases hscored : 0 < scored.2
      · refine Or.inr ⟨scored, if_pos hscored, hscored, scores, [], rfl, fun x hx => ?_, by simp⟩
        change x.2 < scored.2
        rwa [hzero x hx]
      · refine Or.inl ⟨if_neg hscored, fun x hx => ?_⟩
        rcases List.mem_append.1 hx with hx | hx
        · exact hzero x hx
        · rw [List.mem_singleton.1 hx]
          omega
    · rw [hbest]
      by_cases hscored : best.2 < scored.2
      · refine Or.inr ⟨scored, if_pos hscored, by omega, _, [], rfl, fun x hx => ?_, by simp⟩
        have hx' : x.2 ≤ best.2 := FirstMax.le ⟨before, after, rfl, hbefore, hafter⟩ hx
        exact Nat.lt_of_le_of_lt hx' hscored
      · refine Or.inr ⟨best, if_neg hscored, hpos, before, after ++ [scored], by simp, hbefore,
          fun x hx => ?_⟩
        rcases List.mem_append.1 hx with hx | hx
        · exact hafter x hx
        · rw [List.mem_singleton.1 hx]
          exact Nat.not_lt.1 hscored

theorem best?_eq_none_iff {scores : List (String × Nat)} :
    best? scores = none ↔ ∀ scored ∈ scores, scored.2 = 0 := by
  rcases best?_spec scores with ⟨hnone, hzero⟩ | ⟨best, hbest, hpos, hmax⟩
  · exact iff_of_true hnone hzero
  · refine iff_of_false (by simp [hbest]) fun hzero => ?_
    exact Nat.ne_of_gt hpos (hzero best hmax.mem)

theorem best?_eq_some_iff {scores : List (String × Nat)} {best : String × Nat} :
    best? scores = some best ↔ 0 < best.2 ∧ FirstMax (·.2) scores best := by
  rcases best?_spec scores with ⟨hnone, hzero⟩ | ⟨found, hfound, hpos, hmax⟩
  · refine iff_of_false (by simp [hnone]) fun ⟨hpos, hmax⟩ => ?_
    exact Nat.ne_of_gt hpos (hzero best hmax.mem)
  · rw [hfound, Option.some.injEq]
    constructor
    · rintro rfl
      exact ⟨hpos, hmax⟩
    · rintro ⟨-, hmax'⟩
      exact hmax.unique hmax'

/-! ## What speaks for a section -/

/-- One of the words is a part of the text. -/
def Mentions (words : List String) (text : String) : Prop :=
  ∃ word ∈ words, word.toList <:+: text.toList

/-- What an occurrence counts: three if it starts within the first 500 characters, else one. -/
def weight (place : Nat) : Nat := if place < 500 then 3 else 1

/-- The words have this score in the content: the weights of the places at which each of them is found
in lower case, taken together. -/
def HasScore (words : List String) (content : String) (score : Nat) : Prop :=
  ∃ places : String → List Nat,
    (∀ word ∈ words, FindsFrom word.toList (lowercase content.toList) 0 (places word)) ∧
      score = sumOf (fun word => sumOf weight (places word)) words

/-- The score of a section in a content. -/
def scoreIn (content : String) (row : String × List String) : Nat :=
  sumOf (weigh · (lowercase content.toList)) row.2

theorem scores_eq (content : String) :
    scores content = sectionKeywords.map fun row => (row.1, scoreIn content row) := rfl

theorem words_ne_nil : ∀ row ∈ sectionKeywords, ∀ word ∈ row.2, word.toList ≠ [] := by
  decide +kernel

theorem hasScore_iff {row : String × List String} (hrow : row ∈ sectionKeywords) {content : String}
    {score : Nat} : HasScore row.2 content score ↔ score = scoreIn content row := by
  have hne := words_ne_nil row hrow
  constructor
  · rintro ⟨places, hplaces, rfl⟩
    refine sumOf_congr fun word hword => ?_
    rw [(findsFrom_iff (hne word hword)).1 (hplaces word hword)]
    rfl
  · rintro rfl
    refine ⟨fun word => occurrences word.toList (lowercase content.toList), fun word hword => ?_, rfl⟩
    exact (findsFrom_iff (hne word hword)).2 rfl

theorem any_contains_iff {words : List String} {stem : String} :
    (words.any fun word => contains word.toList stem.toList) = true ↔ Mentions words stem := by
  simp only [List.any_eq_true, contains_iff]
  rfl

theorem ofStem?_eq_none_iff {stem : String} :
    ofStem? stem = none ↔ ∀ row ∈ sectionKeywords, ¬ Mentions row.2 stem := by
  rw [ofStem?, Option.map_eq_none_iff, List.find?_eq_none]
  simp only [any_contains_iff]

theorem ofStem?_eq_some_iff {stem : String} {found : String × Nat} :
    ofStem? stem = some found ↔ ∃ before row after, sectionKeywords = before ++ row :: after ∧
      Mentions row.2 stem ∧ (∀ other ∈ before, ¬ Mentions other.2 stem) ∧
      found = (row.1, nameScore) := by
  rw [ofStem?, Option.map_eq_some_iff]
  simp only [List.find?_eq_some_iff_append, any_contains_iff, Bool.not_eq_true', ← Bool.not_eq_true]
  constructor
  · rintro ⟨row, ⟨hrow, before, after, htable, hbefore⟩, rfl⟩
    exact ⟨before, row, after, htable, hrow, hbefore, rfl⟩
  · rintro ⟨before, row, after, htable, hrow, hbefore, rfl⟩
    exact ⟨row, ⟨hrow, before, after, htable, hbefore⟩, rfl⟩

/-! ## The section of a document -/

/-- The section a document belongs to, given the stem of its name and its content, if it can be read. -/
inductive Chosen (stem : String) (content : Option String) : String → Prop
  | byName {before after : List (String × List String)} {row : String × List String}
      (htable : sectionKeywords = before ++ row :: after) (hrow : Mentions row.2 stem)
      (hfirst : ∀ other ∈ before, ¬ Mentions other.2 stem) : Chosen stem content row.1
  | byContent {text : String} {score : String × List String → Nat} {row : String × List String}
      (hname : ∀ other ∈ sectionKeywords, ¬ Mentions other.2 stem) (hcontent : content = some text)
      (hscore : ∀ other ∈ sectionKeywords, HasScore other.2 text (score other))
      (hpos : 0 < score row) (hmax : FirstMax score sectionKeywords row) :
      Chosen stem content row.1
  | fallback (hname : ∀ other ∈ sectionKeywords, ¬ Mentions other.2 stem)
      (hzero : ∀ text, content = some text → ∀ other ∈ sectionKeywords, HasScore other.2 text 0) :
      Chosen stem content "reference"

theorem chosen_sectionOf (stem : String) (content : Option String) :
    Chosen stem content (sectionOf stem content) := by
  unfold sectionOf
  cases hstem : ofStem? stem with
  | some found =>
    obtain ⟨before, row, after, htable, hrow, hbefore, rfl⟩ := ofStem?_eq_some_iff.1 hstem
    exact .byName htable hrow hbefore
  | none =>
    have hname := ofStem?_eq_none_iff.1 hstem
    cases content with
    | none => exact .fallback hname (by simp)
    | some text =>
      simp only [Option.bind_some]
      cases hbest : best? (scores text) with
      | none =>
        refine .fallback hname fun other hother row hrow => ?_
        cases hother
        have hzero := best?_eq_none_iff.1 hbest _ (List.mem_map_of_mem hrow)
        exact (hasScore_iff hrow).2 hzero.symm
      | some best =>
        obtain ⟨hpos, hmax⟩ := best?_eq_some_iff.1 hbest
        obtain ⟨row, rfl, hrow⟩ := exists_of_firstMax_map hmax
        exact .byContent hname rfl (fun other hother => (hasScore_iff hother).2 rfl) hpos hrow

theorem Chosen.sectionOf_eq {stem key : String} {content : Option String}
    (h : Chosen stem content key) : sectionOf stem content = key := by
  unfold sectionOf
  cases h with
  | byName htable hrow hfirst =>
    rw [ofStem?_eq_some_iff.2 ⟨_, _, _, htable, hrow, hfirst, rfl⟩]
  | @byContent text score row hname hcontent hscore hpos hmax =>
    have heq : ∀ other ∈ sectionKeywords, score other = scoreIn text other :=
      fun other hother => (hasScore_iff hother).1 (hscore other hother)
    have hbest : best? (scores text) = some (row.1, scoreIn text row) := by
      refine best?_eq_some_iff.2 ⟨?_, firstMax_map (f := fun row => (row.1, scoreIn text row)) ?_⟩
      · rwa [heq row hmax.mem] at hpos
      · exact hmax.congr heq
    rw [ofStem?_eq_none_iff.2 hname, hcontent]
    simp [hbest]
  | fallback hname hzero =>
    rw [ofStem?_eq_none_iff.2 hname]
    cases content with
    | none => rfl
    | some text =>
      have hbest : best? (scores text) = none := by
        refine best?_eq_none_iff.2 fun scored hscored => ?_
        obtain ⟨row, hrow, rfl⟩ := List.mem_map.1 hscored
        exact ((hasScore_iff hrow).1 (hzero text rfl row hrow)).symm
      simp [hbest, Config.fallbackSection]

/-- A name settles the section before the content does, and the first of equal sections is taken. -/
theorem sectionOf_eq_iff {stem key : String} {content : Option String} :
    sectionOf stem content = key ↔ Chosen stem content key := by
  constructor
  · rintro rfl
    exact chosen_sectionOf stem content
  · exact Chosen.sectionOf_eq

end Classify

end DocAtlas
