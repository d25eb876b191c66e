import DocAtlas.Proofs.Classify.Choice

/-! # Scores of a content that goes on

What is added to a content may turn a final sigma at its end into another sigma, and nothing else of its
lower case. No keyword has a sigma of either form, so each occurrence stays at its place and keeps its
weight.

* `Text.exists_lowercase_append` — the lower case of a text that goes on
* `Classify.occurrences_lowercase_isPrefix` — the occurrences of a keyword in it
* `Classify.scores_append` — no score becomes smaller
-/

set_option autoImplicit false

namespace DocAtlas

/-! ## Lower case -/

namespace Text

/-- Whether two characters are equal or both a small sigma. -/
def AlikeSigmas (c d : Char) : Prop := c = d ∨ c ∈ ['σ', 'ς'] ∧ d ∈ ['σ', 'ς']

theorem alikeSigmas_refl (s : List Char) : List.Forall₂ AlikeSigmas s s :=
  List.forall₂_same.2 fun _ _ => Or.inl rfl

theorem lowerWithin_alike (before behind behind' : List Char) (c : Char) :
    List.Forall₂ AlikeSigmas (lowerWithin before c behind) (lowerWithin before c behind') := by
  have hsigma : ∀ final : Bool, ∃ d ∈ ['σ', 'ς'], (if final then ['ς'] else ['σ']) = [d] :=
    Bool.forall_bool.2 ⟨⟨'σ', by simp⟩, ⟨'ς', by simp⟩⟩
  unfold lowerWithin
  split
  · obtain ⟨d, hd, heq⟩ := hsigma (startsCased before && !startsCased behind)
    obtain ⟨d', hd', heq'⟩ := hsigma (startsCased before && !startsCased behind')
    rw [heq, heq']
    exact .cons (Or.inr ⟨hd, hd'⟩) .nil
  · exact alikeSigmas_refl _

theorem exists_lowercaseAfter_append (before s t : List Char) :
    ∃ front, lowercaseAfter before (s ++ t) = front ++ lowercaseAfter (s.reverse ++ before) t ∧
      List.Forall₂ AlikeSigmas (lowercaseAfter before s) front := by
  induction s generalizing before with
  | nil => exact ⟨[], rfl, .nil⟩
  | cons c rest ih =>
    obtain ⟨front, hfront, halike⟩ := ih (c :: before)
    refine ⟨lowerWithin before c (rest ++ t) ++ front, ?_, ?_⟩
    · rw [List.cons_append, lowercaseAfter, hfront]
      simp
    · exact List.rel_append (lowerWithin_alike before rest (rest ++ t) c) halike

theorem exists_lowercase_append (s t : List Char) :
    ∃ front behind, lowercase (s ++ t) = front ++ behind ∧
      List.Forall₂ AlikeSigmas (lowercase s) front := by
  obtain ⟨front, hfront, halike⟩ := exists_lowercaseAfter_append [] s t
  exact ⟨front, _, hfront, halike⟩

end Text

/-! ## Scores -/

namespace Classify

open Text (AlikeFor AlikeSigmas lowercase occurrences)

theorem sigma_notMem_words :
    ∀ row ∈ sectionKeywords, ∀ word ∈ row.2, 'σ' ∉ word.toList ∧ 'ς' ∉ word.toList := by
  decide +kernel

theorem occurrences_lowercase_isPrefix {word : List Char} (hword : 'σ' ∉ word ∧ 'ς' ∉ word)
    (s t : List Char) :
    occurrences word (lowercase s) <+: occurrences word (lowercase (s ++ t)) := by
  obtain ⟨front, behind, hlower, halike⟩ := Text.exists_lowercase_append s t
  have hmissing : ∀ c ∈ ['σ', 'ς'], c ∉ word :=
    List.forall_mem_cons.2 ⟨hword.1, List.forall_mem_singleton.2 hword.2⟩
  have hfor : List.Forall₂ (AlikeFor word) (lowercase s) front :=
    halike.imp fun c d h => h.imp id fun ⟨hc, hd⟩ => ⟨hmissing c hc, hmissing d hd⟩
  rw [hlower, Text.occurrences_congr hfor]
  exact Text.occurrences_isPrefix front behind

/-- Text that is added to a content lowers the score of no section. -/
theorem scores_append (content more : String) :
    List.Forall₂ (fun scored scored' => scored'.1 = scored.1 ∧ scored.2 ≤ scored'.2)
      (scores content) (scores (content ++ more)) := by
  rw [scores_eq, scores_eq, List.forall₂_map_left_iff, List.forall₂_map_right_iff, List.forall₂_same]
  intro row hrow
  refine ⟨rfl, sumOf_le_sumOf fun word hword => ?_⟩
  rw [String.toList_append]
  exact sumOf_le_of_isPrefix _
    (occurrences_lowercase_isPrefix (sigma_notMem_words row hrow word hword) _ _)

end Classify

end DocAtlas
