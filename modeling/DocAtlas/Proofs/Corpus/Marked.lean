import DocAtlas.Corpus.Fingerprint
import DocAtlas.Proofs.Text.Runs
import Mathlib.Data.List.Basic

/-! # Lists cut by marks

* `terminated`, `terminated_inj` — pieces with a mark behind each can be read back
* `headed`, `headed_inj` — groups with a head in front of each can be read back
* `Fingerprint.IsPlain` — texts without the marks of the fingerprint
* `Fingerprint.utf8_injective`, `Fingerprint.IsPlain.not_mem_utf8` — what is known of their bytes
-/

set_option autoImplicit false

namespace DocAtlas

variable {α : Type}

/-! ## Marks behind pieces -/

/-- The pieces with a mark behind each. -/
def terminated (mark : α) (pieces : List (List α)) : List α := pieces.flatMap (· ++ [mark])

theorem terminated_cons (mark : α) (piece : List α) (pieces : List (List α)) :
    terminated mark (piece :: pieces) = piece ++ mark :: terminated mark pieces := by
  simp [terminated]

theorem append_mark_inj {mark : α} {xs ys behind behind' : List α} (hx : mark ∉ xs)
    (hy : mark ∉ ys) (h : xs ++ mark :: behind = ys ++ mark :: behind') :
    xs = ys ∧ behind = behind' := by
  induction xs generalizing ys with
  | nil =>
    cases ys with
    | nil => exact ⟨rfl, (List.cons.inj h).2⟩
    | cons y ys => exact absurd (by simp [(List.cons.inj h).1]) hy
  | cons x xs ih =>
    cases ys with
    | nil => exact absurd (by simp [(List.cons.inj h).1]) hx
    | cons y ys =>
      obtain ⟨rfl, hrest⟩ := List.cons.inj h
      have hx' : mark ∉ xs := fun hmem => hx (List.mem_cons_of_mem _ hmem)
      have hy' : mark ∉ ys := fun hmem => hy (List.mem_cons_of_mem _ hmem)
      obtain ⟨rfl, hbehind⟩ := ih hx' hy' hrest
      exact ⟨rfl, hbehind⟩

theorem terminated_inj {mark : α} {xs ys : List (List α)} (hx : ∀ x ∈ xs, mark ∉ x)
    (hy : ∀ y ∈ ys, mark ∉ y) (h : terminated mark xs = terminated mark ys) : xs = ys := by
  induction xs generalizing ys with
  | nil =>
    cases ys with
    | nil => rfl
    | cons y ys => simp [terminated] at h
  | cons x xs ih =>
    cases ys with
    | nil => simp [terminated] at h
    | cons y ys =>
      rw [terminated_cons, terminated_cons] at h
      obtain ⟨rfl, hrest⟩ := append_mark_inj (hx x (by simp)) (hy y (by simp)) h
      rw [ih (fun z hz => hx z (by simp [hz])) (fun z hz => hy z (by simp [hz])) hrest]

/-! ## Heads in front of groups -/

/-- The groups behind one another, each behind its head. -/
def headed (groups : List (α × List α)) : List α := groups.flatMap fun g => g.1 :: g.2

theorem headed_cons (g : α × List α) (groups : List (α × List α)) :
    headed (g :: groups) = g.1 :: (g.2 ++ headed groups) := by
  simp [headed]

/-- What stands behind a head up to the next one is its group. -/
theorem takeWhile_append_headed {isHead : α → Bool} {items : List α} {groups : List (α × List α)}
    (hitems : ∀ x ∈ items, isHead x = false) (hheads : ∀ g ∈ groups, isHead g.1 = true) :
    (items ++ headed groups).takeWhile (fun x => !isHead x) = items := by
  refine takeWhile_append_of_head (fun x hx => by rw [hitems x hx, Bool.not_false]) ?_
  cases groups with
  | nil => simp [headed]
  | cons g rest => simp [headed_cons, hheads g (by simp)]

theorem headed_inj {isHead : α → Bool} {groups groups' : List (α × List α)}
    (hheads : ∀ g ∈ groups, isHead g.1 = true) (hitems : ∀ g ∈ groups, ∀ x ∈ g.2, isHead x = false)
    (hheads' : ∀ g ∈ groups', isHead g.1 = true)
    (hitems' : ∀ g ∈ groups', ∀ x ∈ g.2, isHead x = false)
    (h : headed groups = headed groups') : groups = groups' := by
  induction groups generalizing groups' with
  | nil =>
    cases groups' with
    | nil => rfl
    | cons g' rest' => simp [headed] at h
  | cons g rest ih =>
    cases groups' with
    | nil => simp [headed] at h
    | cons g' rest' =>
      rw [headed_cons, headed_cons] at h
      obtain ⟨hhead, hbehind⟩ := List.cons.inj h
      have hrest : ∀ a ∈ rest, isHead a.1 = true := fun a ha => hheads a (by simp [ha])
      have hrest' : ∀ a ∈ rest', isHead a.1 = true := fun a ha => hheads' a (by simp [ha])
      have hgroup : g.2 = g'.2 := by
        rw [← takeWhile_append_headed (hitems g (by simp)) hrest, hbehind,
          takeWhile_append_headed (hitems' g' (by simp)) hrest']
      rw [hgroup, List.append_cancel_left_eq] at hbehind
      rw [Prod.ext hhead hgroup, ih hrest (fun a ha => hitems a (by simp [ha])) hrest'
        (fun a ha => hitems' a (by simp [ha])) hbehind]

/-! ## Texts without marks -/

namespace Fingerprint

/-- Whether a text has none of the two marks of the fingerprint. -/
def IsPlain (s : String) : Prop := ∀ c ∈ s.toList, c.toNat ≠ fieldEnd.toNat ∧ c.toNat ≠ recordEnd.toNat

instance (s : String) : Decidable (IsPlain s) :=
  List.decidableBAll _ _

theorem utf8_eq (s : String) : utf8 s = s.toList.flatMap String.utf8EncodeChar := by
  unfold utf8 String.toUTF8
  rw [← String.utf8Encode_toList, List.utf8Encode, List.data_toByteArray]

theorem utf8_injective : Function.Injective utf8 := by
  intro s t h
  have hdata : s.toUTF8.data = t.toUTF8.data := Array.toList_inj.1 h
  exact String.toByteArray_inj.1 (ByteArray.ext hdata)

/-- In the code of a character a byte below 128 is the whole code. -/
theorem toNat_eq_of_mem_utf8EncodeChar {c : Char} {b : UInt8} (hb : b ∈ String.utf8EncodeChar c)
    (hsmall : b.toNat < 128) : c.toNat = b.toNat := by
  unfold String.utf8EncodeChar at hb
  have hc : c.val.toNat = c.toNat := rfl
  simp only [hc] at hb
  split at hb
  · rename_i hv
    obtain rfl := List.mem_singleton.1 hb
    rw [UInt8.toNat_ofNat', Nat.mod_eq_of_lt (by omega)]
  -- every byte of a longer code is at least 128
  · exfalso
    split at hb
    · simp only [List.mem_cons, List.not_mem_nil, or_false] at hb
      rcases hb with rfl | rfl <;> simp only [UInt8.toNat_ofNat'] at hsmall <;> omega
    · split at hb
      · simp only [List.mem_cons, List.not_mem_nil, or_false] at hb
        rcases hb with rfl | rfl | rfl <;> simp only [UInt8.toNat_ofNat'] at hsmall <;> omega
      · simp only [List.mem_cons, List.not_mem_nil, or_false] at hb
        rcases hb with rfl | rfl | rfl | rfl <;> simp only [UInt8.toNat_ofNat'] at hsmall <;> omega

theorem exists_char_of_mem_utf8 {s : String} {b : UInt8} (hb : b ∈ utf8 s) (hsmall : b.toNat < 128) :
    ∃ c ∈ s.toList, c.toNat = b.toNat := by
  rw [utf8_eq, List.mem_flatMap] at hb
  obtain ⟨c, hc, hbc⟩ := hb
  exact ⟨c, hc, toNat_eq_of_mem_utf8EncodeChar hbc hsmall⟩

theorem IsPlain.not_mem_utf8 {s : String} (h : IsPlain s) :
    fieldEnd ∉ utf8 s ∧ recordEnd ∉ utf8 s := by
  constructor
  · intro hmem
    obtain ⟨c, hc, heq⟩ := exists_char_of_mem_utf8 hmem (by decide)
    exact (h c hc).1 heq
  · intro hmem
    obtain ⟨c, hc, heq⟩ := exists_char_of_mem_utf8 hmem (by decide)
    exact (h c hc).2 heq

end Fingerprint

end DocAtlas
