import DocAtlas.Text.Search
import Mathlib.Data.List.Forall2
import Mathlib.Data.List.Infix

/-! # Words in a text

A word is looked for from left to right, each time behind the place where it was found before.

* `Text.contains_iff`, `Text.before?_eq_some_iff` — whether a word is a part of a text, and what stands
  before its first place
* `Text.FindsFrom` — the places at which a word is found
* `Text.findsFrom_iff` — these are the occurrences
* `Text.occurrences_congr` — characters that are not in the word do not matter
* `Text.occurrences_isPrefix` — occurrences stay where they are if the text goes on
-/

set_option autoImplicit false

namespace DocAtlas

namespace Text

variable {word s t : List Char}

theorem contains_iff : contains word s = true ↔ word <:+: s := by
  induction s with
  | nil => rw [contains, List.isEmpty_iff, List.infix_nil]
  | cons c rest ih =>
    rw [contains, Bool.or_eq_true, List.isPrefixOf_iff_prefix, ih, List.infix_cons_iff]

theorem before?_eq_some_iff {front : List Char} :
    before? word s = some front ↔
      front ++ word <+: s ∧ ∀ place < front.length, ¬ word <+: s.drop place := by
  induction s generalizing front with
  | nil =>
    rw [before?, List.prefix_nil, List.append_eq_nil_iff]
    cases word <;> cases front <;> simp
  | cons c rest ih =>
    rw [before?]
    by_cases hword : word <+: c :: rest
    · rw [if_pos (List.isPrefixOf_iff_prefix.2 hword), Option.some.injEq]
      constructor
      · rintro rfl
        exact ⟨hword, by simp⟩
      · rintro ⟨-, hfirst⟩
        by_contra hfront
        exact hfirst 0 (List.length_pos_iff.2 (Ne.symm hfront)) hword
    · rw [if_neg (by rwa [List.isPrefixOf_iff_prefix]), Option.map_eq_some_iff]
      constructor
      · rintro ⟨front, hfront, rfl⟩
        obtain ⟨hbegin, hfirst⟩ := ih.1 hfront
        refine ⟨List.cons_prefix_cons.2 ⟨rfl, hbegin⟩, fun place hplace => ?_⟩
        cases place with
        | zero => exact hword
        | succ place => exact hfirst place (Nat.lt_of_succ_lt_succ hplace)
      · rintro ⟨hbegin, hfirst⟩
        cases front with
        | nil => exact absurd hbegin hword
        | cons d front =>
          obtain ⟨rfl, hrest⟩ := List.cons_prefix_cons.1 hbegin
          refine ⟨front, ih.2 ⟨hrest, fun place hplace => ?_⟩, rfl⟩
          exact hfirst (place + 1) (Nat.succ_lt_succ hplace)

/-! ## Places -/

/-- The places at which `word` is found in `s`, if it is first looked for at `start` and then behind each
place in turn. -/
inductive FindsFrom (word s : List Char) : Nat → List Nat → Prop
  | none {start : Nat} (h : ∀ place, start ≤ place → ¬ word <+: s.drop place) :
    FindsFrom word s start []
  | next {start place : Nat} {places : List Nat} (hstart : start ≤ place)
      (hword : word <+: s.drop place)
      (hfirst : ∀ other, start ≤ other → other < place → ¬ word <+: s.drop other)
      (hrest : FindsFrom word s (place + word.length) places) :
    FindsFrom word s start (place :: places)

theorem FindsFrom.unique {start : Nat} {places places' : List Nat}
    (h : FindsFrom word s start places) (h' : FindsFrom word s start places') :
    places = places' := by
  induction h generalizing places' with
  | none hnone =>
    cases h' with
    | none => rfl
    | next hstart hword => exact absurd hword (hnone _ hstart)
  | @next start place places hstart hword hfirst _ ih =>
    cases h' with
    | none hnone => exact absurd hword (hnone _ hstart)
    | @next _ place' places' hstart' hword' hfirst' hrest' =>
      have hplace : place = place' := by
        rcases Nat.lt_trichotomy place place' with hlt | heq | hgt
        · exact absurd hword (hfirst' _ hstart hlt)
        · exact heq
        · exact absurd hword' (hfirst _ hstart' hgt)
      subst hplace
      rw [ih hrest']

theorem FindsFrom.of_succ {start : Nat} {places : List Nat} (hstart : ¬ word <+: s.drop start)
    (h : FindsFrom word s (start + 1) places) : FindsFrom word s start places := by
  have hlater : ∀ place, start ≤ place → word <+: s.drop place → start + 1 ≤ place := by
    intro place hle hword
    rcases Nat.lt_or_eq_of_le hle with hlt | rfl
    · exact hlt
    · exact absurd hword hstart
  cases h with
  | none hnone => exact .none fun place hle hword => hnone place (hlater place hle hword) hword
  | next hle hword hfirst hrest =>
    refine .next (Nat.le_of_succ_le hle) hword (fun other hother hlt hword' => ?_) hrest
    exact hfirst other (hlater other hother hword') hlt hword'

theorem findsFrom_occurrencesFrom (hne : word ≠ []) {place : Nat} (skip : Nat)
    (ht : s.drop place = t) : FindsFrom word s (place + skip) (occurrencesFrom word place skip t) := by
  induction t generalizing place skip with
  | nil =>
    rw [occurrencesFrom]
    refine .none fun other hother hword => hne ?_
    have hend : s.drop other = [] := by
      rw [List.drop_eq_nil_iff] at ht ⊢
      omega
    rwa [hend, List.prefix_nil] at hword
  | cons c rest ih =>
    have hrest : s.drop (place + 1) = rest := by rw [← List.drop_drop, ht, List.drop_one, List.tail_cons]
    cases skip with
    | succ skip =>
      have hnext := ih skip hrest
      rwa [occurrencesFrom, Nat.add_comm skip 1, ← Nat.add_assoc]
    | zero =>
      rw [occurrencesFrom, Nat.add_zero]
      split
      · rename_i hword
        have hnext := ih (word.length - 1) hrest
        have hlength := List.length_pos_iff.2 hne
        rw [show place + 1 + (word.length - 1) = place + word.length by omega] at hnext
        refine .next (Nat.le_refl place) ?_ (fun other hother hlt => by omega) hnext
        rwa [ht, ← List.isPrefixOf_iff_prefix]
      · rename_i hword
        rw [List.isPrefixOf_iff_prefix, ← ht] at hword
        exact (ih 0 hrest).of_succ hword

theorem findsFrom_iff (hne : word ≠ []) {places : List Nat} :
    FindsFrom word s 0 places ↔ places = occurrences word s := by
  have hoccurrences : FindsFrom word s 0 (occurrences word s) :=
    findsFrom_occurrencesFrom hne 0 List.drop_zero
  constructor
  · intro h
    exact h.unique hoccurrences
  · rintro rfl
    exact hoccurrences

/-! ## Other texts -/

/-- Whether two characters are equal or both missing in `word`. -/
def AlikeFor (word : List Char) (c d : Char) : Prop := c = d ∨ c ∉ word ∧ d ∉ word

theorem isPrefixOf_congr {part : List Char} (hpart : part ⊆ word)
    (h : List.Forall₂ (AlikeFor word) s t) : part.isPrefixOf s = part.isPrefixOf t := by
  induction part generalizing s t with
  | nil => rw [List.isPrefixOf_nil_left, List.isPrefixOf_nil_left]
  | cons c part ih =>
    obtain ⟨hc, hpart⟩ := List.cons_subset.1 hpart
    cases h with
    | nil => rfl
    | @cons a b s t hab hrest =>
      rw [List.isPrefixOf_cons_cons, List.isPrefixOf_cons_cons, ih hpart hrest]
      rcases hab with rfl | ⟨ha, hb⟩
      · rfl
      · have hca : c ≠ a := fun heq => ha (heq ▸ hc)
        have hcb : c ≠ b := fun heq => hb (heq ▸ hc)
        rw [beq_false_of_ne hca, beq_false_of_ne hcb]

theorem occurrencesFrom_congr (place skip : Nat) (h : List.Forall₂ (AlikeFor word) s t) :
    occurrencesFrom word place skip s = occurrencesFrom word place skip t := by
  induction h generalizing place skip with
  | nil => rfl
  | cons hab hrest ih =>
    cases skip with
    | succ skip =>
      rw [occurrencesFrom, occurrencesFrom]
      exact ih (place + 1) skip
    | zero =>
      rw [occurrencesFrom, occurrencesFrom, isPrefixOf_congr (List.Subset.refl word) (.cons hab hrest),
        ih, ih]

theorem occurrences_congr (h : List.Forall₂ (AlikeFor word) s t) :
    occurrences word s = occurrences word t := occurrencesFrom_congr 0 0 h

theorem occurrencesFrom_of_short (place skip : Nat) (h : s.length < word.length) :
    occurrencesFrom word place skip s = [] := by
  induction s generalizing place skip with
  | nil => rfl
  | cons c rest ih =>
    have hrest : rest.length < word.length := Nat.lt_of_succ_lt h
    cases skip with
    | succ skip => exact ih (place + 1) skip hrest
    | zero =>
      have hword : ¬ word <+: c :: rest := fun hword => Nat.not_le.2 h hword.length_le
      rw [occurrencesFrom, if_neg (by rwa [List.isPrefixOf_iff_prefix])]
      exact ih (place + 1) 0 hrest

/-- An occurrence that reaches into `t` is behind all that do not. -/
theorem occurrencesFrom_isPrefix (place skip : Nat) (s t : List Char) :
    occurrencesFrom word place skip s <+: occurrencesFrom word place skip (s ++ t) := by
  induction s generalizing place skip with
  | nil => exact List.nil_prefix
  | cons c rest ih =>
    cases skip with
    | succ skip => exact ih (place + 1) skip
    | zero =>
      rw [List.cons_append, occurrencesFrom, occurrencesFrom]
      simp only [List.isPrefixOf_iff_prefix]
      by_cases hlong : word <+: c :: (rest ++ t)
      · rw [if_pos hlong]
        split
        · exact List.cons_prefix_cons.2 ⟨rfl, ih (place + 1) (word.length - 1)⟩
        · rename_i hshort
          have hlength : (c :: rest).length < word.length := by
            by_contra hle
            exact hshort (List.prefix_of_prefix_length_le hlong
              (List.prefix_append (c :: rest) t) (Nat.not_lt.1 hle))
          rw [occurrencesFrom_of_short _ _ (Nat.lt_of_succ_lt hlength)]
          exact List.nil_prefix
      · have hshort : ¬ word <+: c :: rest := fun hword =>
          hlong (hword.trans (List.prefix_append (c :: rest) t))
        rw [if_neg hlong, if_neg hshort]
        exact ih (place + 1) 0

theorem occurrences_isPrefix (s t : List Char) : occurrences word s <+: occurrences word (s ++ t) :=
  occurrencesFrom_isPrefix 0 0 s t

end Text

end DocAtlas
