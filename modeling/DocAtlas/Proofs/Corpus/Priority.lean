import DocAtlas.Corpus.Priority

/-! # Priorities without limits

The sum of a priority is formed within the range of signed 32-bit numbers, and only the depth can lead out
of it. What leaves the range is far above 100, where the sum is cut off anyway: the priority is the one of
the integers.

* `Priority.rank` — the place of a document before it is cut off at 0 and 100
* `Priority.cut_saturate`, `Priority.cut_add_saturate` — limits that the cut makes good
* `Priority.coe_ofDocument` — the priority is the rank, cut off
* `Priority.ofDocument_le_iff` — cutting off does not move a document past the orphans
* `Priority.ofDocument_exact` — the sum over the integers, at every depth
-/

set_option autoImplicit false

namespace DocAtlas.Priority

variable {n penalty : Int}

/-- The place of a document within its section as far as its category, folder and name tell. -/
def ground (category : Category) (folder : String) (p : Path) : Int :=
  category.basePriority - (if importantFolders.contains folder then importantBonus else 0)
    - (if isEntryPage p then indexBonus else 0)

/-- The place of a document within its section before it is cut off. -/
def rank (category : Category) (folder : String) (p : Path) (depth : Nat) : Int :=
  category.basePriority - (if importantFolders.contains folder then importantBonus else 0)
    - (if isEntryPage p then indexBonus else 0) + depth * depthPenalty

/-- A number cut off at 0 and 100. -/
def cut (n : Int) : Int := max 0 (min 100 n)

/-! ## Limits -/

theorem saturate_of_mem_range (hleast : least ≤ n) (hgreatest : n ≤ greatest) : saturate n = n := by
  rw [saturate, Int.min_eq_right hgreatest, Int.max_eq_right hleast]

/-- The range reaches beyond the cut on both sides. -/
theorem cut_saturate (n : Int) : cut (saturate n) = cut n := by
  unfold cut saturate least greatest
  omega

/-- A penalty that is out of the range is cut off, be it at its limit or as it is. -/
theorem cut_add_saturate (hn : 0 ≤ n) (hpenalty : 0 ≤ penalty) :
    cut (n + saturate penalty) = cut (n + penalty) := by
  unfold cut saturate least greatest
  omega

/-- A depth that is out of the range has a penalty out of the range. -/
theorem saturate_penalty (depth : Nat) :
    saturate (saturate depth * depthPenalty) = saturate (depth * depthPenalty) := by
  unfold saturate least greatest depthPenalty
  omega

/-! ## The sum -/

theorem basePriority_le (category : Category) :
    50 ≤ category.basePriority ∧ category.basePriority ≤ 90 := by
  cases category <;> decide

/-- No bonus leads out of the range. -/
theorem saturate_sub_bonus {bonus : Int} (given : Bool) (hn : 0 ≤ n ∧ n ≤ 100)
    (hbonus : 0 ≤ bonus ∧ bonus ≤ 100) :
    (if given then saturate (n - bonus) else n) = n - (if given then bonus else 0) := by
  cases given with
  | false => exact (Int.sub_zero n).symm
  | true =>
    refine saturate_of_mem_range ?_ ?_
    · unfold least
      omega
    · unfold greatest
      omega

theorem ground_mem (category : Category) (folder : String) (p : Path) :
    0 ≤ ground category folder p ∧ ground category folder p ≤ 90 := by
  obtain ⟨hlow, hhigh⟩ := basePriority_le category
  unfold ground importantBonus indexBonus
  omega

theorem ofDocument_eq (category : Category) (folder : String) (p : Path) (depth : Nat) :
    ofDocument category folder p depth =
      (cut (saturate (ground category folder p +
        saturate (saturate depth * depthPenalty)))).toNat := by
  obtain ⟨hlow, hhigh⟩ := basePriority_le category
  have hfolder := saturate_sub_bonus (n := category.basePriority) (importantFolders.contains folder)
    (by omega) (show 0 ≤ importantBonus ∧ importantBonus ≤ 100 by decide)
  have hname := saturate_sub_bonus (isEntryPage p)
    (n := category.basePriority - if importantFolders.contains folder then importantBonus else 0)
    (by unfold importantBonus; omega) (show 0 ≤ indexBonus ∧ indexBonus ≤ 100 by decide)
  unfold ofDocument
  simp only [hfolder, hname]
  rfl

/-- The limits of the range leave no trace in the priority. -/
theorem coe_ofDocument (category : Category) (folder : String) (p : Path) (depth : Nat) :
    (ofDocument category folder p depth : Int) = cut (rank category folder p depth) := by
  obtain ⟨hground, -⟩ := ground_mem category folder p
  have hpenalty : (0 : Int) ≤ depth * depthPenalty := by
    unfold depthPenalty
    omega
  have hcut : ∀ n, 0 ≤ cut n := fun n => Int.le_max_left 0 (min 100 n)
  rw [ofDocument_eq, Int.toNat_of_nonneg (hcut _), cut_saturate, saturate_penalty,
    cut_add_saturate hground hpenalty]
  rfl

/-! ## Depths and orphans -/

/-- The cut at 0 and 100 and the limits of the range do not move a document past the orphans. -/
theorem ofDocument_le_iff (category : Category) (folder : String) (p : Path) (depth : Nat) :
    ofDocument category folder p depth ≤ Category.orphanPriority ↔
      rank category folder p depth ≤ Category.orphanPriority := by
  rw [← Int.ofNat_le, coe_ofDocument]
  unfold cut Category.orphanPriority
  omega

theorem cut_mono {m : Int} (h : n ≤ m) : cut n ≤ cut m := by
  unfold cut
  omega

theorem ofDocument_le_of_le (category : Category) (folder : String) (p : Path) {depth deeper : Nat}
    (h : depth ≤ deeper) :
    ofDocument category folder p depth ≤ ofDocument category folder p deeper := by
  rw [← Int.ofNat_le, coe_ofDocument, coe_ofDocument]
  refine cut_mono ?_
  unfold rank depthPenalty
  omega

theorem ofDocument_le_hundred (category : Category) (folder : String) (p : Path) (depth : Nat) :
    ofDocument category folder p depth ≤ 100 := by
  rw [← Int.ofNat_le, coe_ofDocument]
  unfold cut
  omega

/-- At every depth the priority is the sum over the integers, cut off at 0 and 100. So it is never less
for a greater depth, and a byte holds it. -/
theorem ofDocument_exact (category : Category) (folder : String) (p : Path) (depth : Nat) :
    (ofDocument category folder p depth : Int) =
        max (0 : Int) (min (100 : Int) ((category.basePriority : Int) - (if folder ∈ importantFolders then 10 else 0)
          - (if Text.lowercase (p.fileStem.getD "").toList ∈ ["index".toList, "readme".toList]
              then 20 else 0)
          + 2 * (depth : Int))) ∧
      (∀ deeper, depth ≤ deeper →
        ofDocument category folder p depth ≤ ofDocument category folder p deeper) ∧
      (ofDocument category folder p depth).toUInt8.toNat = ofDocument category folder p depth := by
  have hfolder : importantFolders.contains folder = true ↔ folder ∈ importantFolders :=
    List.contains_iff_mem
  have hname : isEntryPage p = true ↔
      Text.lowercase (p.fileStem.getD "").toList ∈ ["index".toList, "readme".toList] := by
    simp [isEntryPage]
  refine ⟨?_, fun _ => ofDocument_le_of_le category folder p, ?_⟩
  · rw [coe_ofDocument, cut, rank, Int.mul_comm]
    simp only [hfolder, hname, importantBonus, indexBonus, depthPenalty]
  · exact Nat.mod_eq_of_lt (Nat.lt_of_le_of_lt (ofDocument_le_hundred category folder p depth) (by decide))

end DocAtlas.Priority
