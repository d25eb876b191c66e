import DocAtlas.Markup.Reference
import DocAtlas.Proofs.Path.Renaming
import DocAtlas.Proofs.Text.Occurrences
import Mathlib.Data.List.TakeWhile

/-! # Roles in a text

A role is a mark, a target without backquotes and a backquote. Roles are read from left to right and
do not overlap: one that opens inside of another does not count.

* `Markup.StartsRole`, `Markup.HasRole` — the text starts with a role, or has one
* `Markup.docRole_eq_some`, `Markup.mem_scan_docRole` — these are the roles that are found
* `Reference.IsPlain` — targets that are taken as they are written, but for an extension
* `Reference.ofWritten_plain`, `Reference.mem_ofContent_of_hasRole` — the reference such a target makes
-/

set_option autoImplicit false

namespace DocAtlas

namespace Markup

variable {s target behind : List Char}

/-! ## Parts of patterns -/

theorem expect_eq_some {word : String} {rest : List Char} :
    expect word s = some rest ↔ s = word.toList ++ rest := by
  unfold expect
  constructor
  · intro h
    split at h
    · rename_i hword
      obtain ⟨tail, rfl⟩ := List.isPrefixOf_iff_prefix.1 hword
      rw [← String.length_toList, List.drop_left] at h
      rw [Option.some.inj h]
    · cases h
  · rintro rfl
    rw [if_pos (List.isPrefixOf_iff_prefix.2 (List.prefix_append _ _)), ← String.length_toList,
      List.drop_left]

theorem expectRun_append {p : Char → Bool} {run rest : List Char} (hne : run ≠ [])
    (hrun : ∀ c ∈ run, p c = true) (hrest : ∀ c ∈ rest.head?, p c = false) :
    expectRun p (run ++ rest) = some (run, rest) := by
  unfold expectRun
  rw [takeWhile_append_of_head hrun hrest, dropWhile_append_of_head hrun hrest]
  cases run with
  | nil => exact absurd rfl hne
  | cons c run => rfl

theorem expectRun_eq_some {p : Char → Bool} {run rest : List Char}
    (h : expectRun p s = some (run, rest)) :
    s = run ++ rest ∧ run ≠ [] ∧ ∀ c ∈ run, p c = true := by
  unfold expectRun at h
  split at h
  · cases h
  · rename_i hne
    cases h
    exact ⟨List.takeWhile_append_dropWhile.symm, hne, fun c hc => List.mem_takeWhile_imp hc⟩

/-! ## Roles -/

/-- The text starts with a role for `target`, and `behind` follows. -/
structure StartsRole (target behind s : List Char) : Prop where
  text : s = ":doc:`".toList ++ (target ++ '\x60' :: behind) ∨
    s = "{doc}`".toList ++ (target ++ '\x60' :: behind)
  target_ne : target ≠ []
  target_open : '\x60' ∉ target

/-- The text has a role for `target`, roles being taken from left to right. -/
inductive HasRole (target : List Char) : List Char → Prop
  | here {behind s : List Char} (h : StartsRole target behind s) : HasRole target s
  | skip {c : Char} {rest : List Char} (h : ∀ t behind, ¬ StartsRole t behind (c :: rest))
      (hrest : HasRole target rest) : HasRole target (c :: rest)
  | behind {t behind s : List Char} (h : StartsRole t behind s) (hrest : HasRole target behind) :
      HasRole target s

theorem docRole_eq_some {atLineStart : Bool} :
    docRole atLineStart s = some (target, behind) ↔ StartsRole target behind s := by
  unfold docRole
  simp only [bind, Option.bind_eq_some_iff, Option.or_eq_some_iff, expect_eq_some]
  constructor
  · rintro ⟨opened, hopened, ⟨run, closed⟩, hrun, rest, hclosed, heq⟩
    cases heq
    obtain ⟨hsplit, hne, hfree⟩ := expectRun_eq_some hrun
    subst hclosed
    rw [hsplit] at hopened
    refine ⟨hopened.imp id And.right, hne, fun hmem => ?_⟩
    have hquote := hfree _ hmem
    simp at hquote
  · rintro ⟨htext, hne, hfree⟩
    have hrun : expectRun (· != '\x60') (target ++ '\x60' :: behind) =
        some (target, '\x60' :: behind) := by
      refine expectRun_append hne (fun c hc => ?_) (by simp)
      rw [bne_iff_ne]
      rintro rfl
      exact hfree hc
    refine ⟨_, htext.imp id fun h => ⟨?_, h⟩, (target, '\x60' :: behind), hrun, behind, rfl, rfl⟩
    rw [h]
    rfl

theorem scanFrom_docRole_zero (atLineStart : Bool) (s : List Char) :
    scanFrom docRole atLineStart 0 s = scan docRole s := by
  cases s <;> rfl

/-- Where the next characters are passed over, the scan goes on behind them. -/
theorem scanFrom_docRole (atLineStart : Bool) (skip : Nat) (s : List Char) :
    scanFrom docRole atLineStart skip s = scan docRole (s.drop skip) := by
  induction s generalizing atLineStart skip with
  | nil => rw [List.drop_nil, scan, scanFrom, scanFrom]
  | cons c rest ih =>
    cases skip with
    | zero => exact scanFrom_docRole_zero atLineStart (c :: rest)
    | succ skip =>
      rw [scanFrom, List.drop_succ_cons]
      exact ih (c == '\n') skip

/-- A role takes some of the text away. -/
theorem StartsRole.exists_cons (h : StartsRole target behind s) :
    ∃ c rest, s = c :: rest ∧ rest.drop (rest.length - behind.length) = behind := by
  have hdrop : ∀ front : List Char, (front ++ behind).drop ((front ++ behind).length - behind.length) =
      behind := by
    intro front
    rw [List.length_append, Nat.add_sub_cancel, List.drop_left]
  rcases h.text with rfl | rfl
  · refine ⟨':', "doc:`".toList ++ (target ++ ['\x60']) ++ behind, by simp, hdrop _⟩
  · refine ⟨'{', "doc\x7d`".toList ++ (target ++ ['\x60']) ++ behind, by simp, hdrop _⟩

theorem scan_of_startsRole (h : StartsRole target behind s) :
    scan docRole s = target :: scan docRole behind := by
  obtain ⟨c, rest, rfl, hbehind⟩ := h.exists_cons
  rw [scan, scanFrom, docRole_eq_some.2 h]
  simp only
  rw [scanFrom_docRole, hbehind]

theorem scan_of_not_startsRole {c : Char} {rest : List Char}
    (h : ∀ t behind, ¬ StartsRole t behind (c :: rest)) :
    scan docRole (c :: rest) = scan docRole rest := by
  have hnone : docRole true (c :: rest) = none := by
    cases hrole : docRole true (c :: rest) with
    | none => rfl
    | some found => exact absurd (docRole_eq_some.1 hrole) (h found.1 found.2)
  rw [scan, scanFrom, hnone]
  exact scanFrom_docRole_zero _ rest

/-- The scan finds the roles that the text has. -/
theorem mem_scan_docRole : target ∈ scan docRole s ↔ HasRole target s := by
  constructor
  · intro h
    induction hlength : s.length using Nat.strongRecOn generalizing s with
    | ind n ih =>
      subst hlength
      cases s with
      | nil => cases h
      | cons c rest =>
        by_cases hrole : ∃ t behind, StartsRole t behind (c :: rest)
        · obtain ⟨t, behind, hstarts⟩ := hrole
          rw [scan_of_startsRole hstarts] at h
          rcases List.mem_cons.1 h with rfl | h
          · exact .here hstarts
          · obtain ⟨c', rest', heq, hbehind⟩ := hstarts.exists_cons
            obtain ⟨rfl, rfl⟩ := List.cons.inj heq
            have hshort : behind.length < (c :: rest).length := by
              rw [← hbehind, List.length_drop, List.length_cons]
              omega
            exact .behind hstarts (ih behind.length hshort h rfl)
        · have hnone : ∀ t behind, ¬ StartsRole t behind (c :: rest) :=
            fun t behind hstarts => hrole ⟨t, behind, hstarts⟩
          rw [scan_of_not_startsRole hnone] at h
          exact .skip hnone (ih rest.length (by simp) h rfl)
  · intro h
    induction h with
    | here hstarts =>
      rw [scan_of_startsRole hstarts]
      exact List.mem_cons_self
    | skip hnone _ ih =>
      rw [scan_of_not_startsRole hnone]
      exact ih
    | behind hstarts _ ih =>
      rw [scan_of_startsRole hstarts]
      exact List.mem_cons_of_mem _ ih

end Markup

/-! ## Plain targets -/

namespace Reference

open Text (isBlank)

/-- Whether a target has none of the characters that make it more than a path. -/
def IsPlain (target : List Char) : Prop :=
  ∀ c ∈ target, c ≠ '\x60' ∧ c ≠ '<' ∧ c ≠ '>' ∧ c ≠ '#' ∧ c ≠ ':' ∧ isBlank c = false

instance (target : List Char) : Decidable (IsPlain target) :=
  List.decidableBAll _ _

variable {target : List Char}

theorem IsPlain.unwrap (h : IsPlain target) : unwrap target = target := by
  unfold Reference.unwrap
  split
  · rename_i hlast
    exact absurd rfl (h _ (List.mem_of_getLast? hlast)).2.2.1
  · rfl

theorem isExternal_iff :
    isExternal target = true ↔
      target.head? = some '#' ∨ "mailto:".toList <+: target ∨ "://".toList <:+: target := by
  rw [isExternal, Bool.or_eq_true, Bool.or_eq_true, beq_iff_eq, List.isPrefixOf_iff_prefix,
    Text.contains_iff, or_assoc]

theorem IsPlain.isExternal (h : IsPlain target) : isExternal target = false := by
  have hcolon : ':' ∉ target := fun hmem => absurd rfl (h _ hmem).2.2.2.2.1
  have hhash : '#' ∉ target := fun hmem => absurd rfl (h _ hmem).2.2.2.1
  rw [← Bool.not_eq_true, isExternal_iff]
  rintro (hhead | hmail | hscheme)
  · exact hhash (List.mem_of_mem_head? hhead)
  · exact hcolon (hmail.subset (by decide))
  · exact hcolon (hscheme.subset (by decide))

theorem IsPlain.trim (h : IsPlain target) : Text.trim (target.takeWhile (· != '#')) = target := by
  have hanchor : target.takeWhile (· != '#') = target :=
    List.takeWhile_eq_self_iff.2 fun c hc => by simpa using (h c hc).2.2.2.1
  have hnoBlank : ∀ s : List Char, (∀ c ∈ s, isBlank c = false) → s.dropWhile isBlank = s := by
    intro s hs
    cases s with
    | nil => rfl
    | cons c rest => simp [hs c (by simp)]
  have hblank : ∀ c ∈ target, isBlank c = false := fun c hc => (h c hc).2.2.2.2.2
  rw [hanchor, Text.trim, Text.trimStart, hnoBlank target hblank, Text.trimEnd, Text.dropEndWhile,
    hnoBlank _ fun c hc => hblank c (List.mem_reverse.1 hc), List.reverse_reverse]

theorem withoutExtension_ne_nil {file : List Char} (h : file ≠ []) : withoutExtension file ≠ [] := by
  unfold withoutExtension
  split
  · split
    · rename_i hstem
      exact hstem.1
    · exact h
  · exact h

/-- A plain target is kept but for the extension of its last part. -/
theorem ofWritten_plain {lead last : List Char} (hlead : lead = [] ∨ ∃ front, lead = front ++ ['/'])
    (hlast : '/' ∉ last) (hne : last ≠ []) (h : IsPlain (lead ++ last)) :
    ofWritten (lead ++ last) = some (String.ofList (lead ++ withoutExtension last)) := by
  have hkept : withoutExtension last ≠ [] := withoutExtension_ne_nil hne
  have hnormal : normalize (lead ++ last) = some (lead ++ withoutExtension last) := by
    unfold normalize
    simp only [h.trim]
    rcases hlead with rfl | ⟨front, rfl⟩
    · rw [List.nil_append, (Text.splitAtLast_eq_none '/' last).2 hlast]
      simp [hkept]
    · rw [List.append_assoc, List.singleton_append, Text.splitAtLast_append front hlast]
      simp
  unfold ofWritten
  rw [h.unwrap]
  simp only [h.isExternal, Bool.false_eq_true, if_false, hnormal, Option.map_some]

theorem mem_ofContent {markup : Markup} {content reference : String} :
    reference ∈ ofContent markup content ↔
      ∃ s ∈ written markup content.toList, ofWritten s = some reference := by
  rw [ofContent, TextSet.mem_ofList, List.mem_filterMap]

/-- A role makes a reference of the document. -/
theorem mem_ofContent_of_hasRole {markup : Markup} {content reference : String}
    (hrole : Markup.HasRole target content.toList) (h : ofWritten target = some reference) :
    reference ∈ ofContent markup content := by
  refine mem_ofContent.2 ⟨target, List.mem_flatMap.2 ⟨Markup.docRole, ?_, Markup.mem_scan_docRole.2 hrole⟩, h⟩
  cases markup <;> simp [patterns]

end Reference

end DocAtlas
