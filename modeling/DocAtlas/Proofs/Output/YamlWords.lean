import DocAtlas.Proofs.Output.YamlReader
import Mathlib.Data.List.TakeWhile

/-! # Texts that read as something else

The writer and the reader judge a text without quotes by different rules: the writer asks whether
anything could read it as a number, the reader which number it is.

* `Yaml.readsAsOther_of_integer?`, `Yaml.readsAsOther_of_isFloat` — the writer knows all numbers that
  are read
* `Yaml.resolve_of_readsAsOther` — what the writer takes for a text is read as a text
-/

set_option autoImplicit false

namespace DocAtlas.Yaml

open Reader

/-! ## Digits -/

theorem reservedWords_eq : reservedWords = nullWords ++ trueWords ++ falseWords ++ boundlessWords := rfl

theorem isDigit_of_digitValue? {c : Char} {n : Nat} (h : digitValue? 10 c = some n) :
    c.isDigit = true := by
  by_contra hdigit
  have hrange : ¬ ('0' ≤ c ∧ c ≤ '9') := by
    simpa [Char.isDigit, Char.le_def] using hdigit
  simp only [digitValue?, if_neg hrange] at h
  split_ifs at h <;> omega

theorem isDigit_of_digitsValue? {s : List Char} {n : Nat} (h : digitsValue? 10 s = some n) :
    ∀ c ∈ s, c.isDigit = true := by
  have hfold : ∀ (s : List Char) (n m : Nat),
      s.foldlM (fun n c => (digitValue? 10 c).map (n * 10 + ·)) n = some m →
        ∀ c ∈ s, c.isDigit = true := by
    intro s
    induction s with
    | nil => simp
    | cons c s ih =>
      intro n m hm
      rw [List.foldlM_cons] at hm
      obtain ⟨next, hnext, hrest⟩ := Option.bind_eq_some_iff.1 hm
      obtain ⟨d, hd, -⟩ := Option.map_eq_some_iff.1 hnext
      exact List.forall_mem_cons.2 ⟨isDigit_of_digitValue? hd, ih next m hrest⟩
  unfold digitsValue? at h
  split at h
  · cases h
  · exact hfold s 0 n h

/-- Digits alone are a decimal number. -/
theorem decimal?_of_digitsValue? {s : List Char} {n : Nat} (h : digitsValue? 10 s = some n) :
    decimal? s = some (n, 0) := by
  have hdigits := isDigit_of_digitsValue? h
  have hwhole : s.takeWhile Char.isDigit = s := List.takeWhile_eq_self_iff.2 hdigits
  have hbehind : s.dropWhile Char.isDigit = [] := List.dropWhile_eq_nil_iff.2 hdigits
  have hnothing : fraction [] = ([], []) := by rw [fraction]; rintro rest ⟨⟩
  simp [decimal?, hwhole, hbehind, hnothing, h, exponent?]

/-! ## Decimal numbers -/

theorem doubleLimit_lt_pow {exponent : Int} (h : exponent > 310) :
    Nat.pow 2 1024 - Nat.pow 2 970 < Nat.pow 10 exponent.toNat := by
  have hexponent : 310 ≤ exponent.toNat := by omega
  have hlimit : Nat.pow 2 1024 - Nat.pow 2 970 < Nat.pow 10 310 := by decide +kernel
  have hgrows : ∀ j k, j ≤ k → Nat.pow 10 j ≤ Nat.pow 10 k :=
    fun j k hle => Nat.pow_le_pow_right (by decide) hle
  exact hlimit.trans_le (hgrows 310 _ hexponent)

theorem isFinite_of_fitsDouble {mantissa : Nat} {exponent : Int} (digits : Nat)
    (h : fitsDouble mantissa exponent) : isFinite mantissa digits exponent = true := by
  have hlarge := @doubleLimit_lt_pow exponent
  have hone : Nat.pow 10 0 = 1 := rfl
  unfold fitsDouble at h
  unfold isFinite
  generalize Nat.pow 2 1024 - Nat.pow 2 970 = limit at h hlarge ⊢
  split
  · rfl
  split
  · rfl
  rename_i hmantissa _
  split
  · rename_i hexponent
    have hnegative : (-exponent).toNat = 0 := by omega
    rw [hnegative, hone, Nat.mul_one] at h
    have hprod : Nat.pow 10 exponent.toNat ≤ mantissa * Nat.pow 10 exponent.toNat :=
      Nat.le_mul_of_pos_left _ (Nat.pos_of_ne_zero hmantissa)
    exact absurd ((hlarge hexponent).trans_le hprod) (Nat.lt_asymm h)
  · dsimp only
    split
    · have hnegative : (-exponent).toNat = 0 := by omega
      rw [hnegative, hone, Nat.mul_one] at h
      exact decide_eq_true h
    · have hpositive : exponent.toNat = 0 := by omega
      rw [hpositive, hone, Nat.mul_one] at h
      exact decide_eq_true h

theorem isUnsignedDecimal_eq {s : List Char} {mantissa : Nat} {exponent : Int}
    (h : decimal? s = some (mantissa, exponent)) :
    isUnsignedDecimal s = isFinite mantissa
      (s.takeWhile Char.isDigit ++ (fraction (s.dropWhile Char.isDigit)).1).length exponent := by
  unfold decimal? fraction at h
  obtain ⟨m, hm, h⟩ := Option.bind_eq_some_iff.1 h
  obtain ⟨e, he, h⟩ := Option.bind_eq_some_iff.1 h
  cases h
  -- both look for a point with a match of their own, so the cases are those of the text behind
  unfold isUnsignedDecimal fraction
  generalize s.dropWhile Char.isDigit = behind at hm he ⊢
  split at he
  · simp only at hm
    simp only [hm, he]
  · simp only at hm
    simp only [hm, he]

/-- A decimal number that a double holds is one for the writer too. -/
theorem isUnsignedDecimal_of_decimal? {s : List Char} {mantissa : Nat} {exponent : Int}
    (h : decimal? s = some (mantissa, exponent)) (hfits : fitsDouble mantissa exponent) :
    isUnsignedDecimal s = true := by
  rw [isUnsignedDecimal_eq h]
  exact isFinite_of_fitsDouble _ hfits

theorem isDecimal_eq (s : List Char) : isDecimal s = isUnsignedDecimal (signed s).2 := by
  unfold isDecimal
  split
  · rfl
  · rfl
  · rw [signed]
    · assumption
    · assumption

/-- What a number behind an optional sign must be less than to be an integer of 128 bits. -/
def integerLimit (negative : Bool) : Nat := if negative then Nat.pow 2 127 + 1 else Nat.pow 2 128

theorem integer?_eq (s : List Char) :
    integer? s = (natural? (signed s).2).bind fun n =>
      if n < integerLimit (signed s).1 then some (if (signed s).1 then -(n : Int) else n)
      else none := by
  unfold integer? integerLimit
  generalize signed s = parts
  obtain ⟨negative, digits⟩ := parts
  dsimp only
  cases natural? digits with
  | none => rfl
  | some n =>
    cases negative with
    | true => simp [Nat.lt_succ_iff]
    | false => simp

theorem isBasedInteger_eq {s rest : List Char} {base n : Nat}
    (hbase : announcedBase? (signed s).2 = some (base, rest)) (hn : digitsValue? base rest = some n) :
    isBasedInteger s = decide (n < integerLimit (signed s).1) := by
  unfold isBasedInteger
  split
  rename_i limit digits hmatch
  have hparts : (limit, digits) = (integerLimit (signed s).1, (signed s).2) := by
    rw [← hmatch]
    split
    · rfl
    · rfl
    · rw [signed]
      · rfl
      · assumption
      · assumption
  cases hparts
  simp only [hbase, hn]

theorem natural?_of_announced {s rest : List Char} {base : Nat}
    (h : announcedBase? s = some (base, rest)) : natural? s = digitsValue? base rest := by
  unfold announcedBase? at h
  split at h
  all_goals
    cases h
    try rfl

theorem natural?_of_not_announced {s : List Char} {n : Nat} (h : announcedBase? s = none)
    (hn : natural? s = some n) : digitsValue? 10 s = some n := by
  unfold natural? at hn
  split at hn
  · cases h
  · cases h
  · cases h
  · split at hn
    · cases hn
    · exact hn

theorem fitsDouble_of_lt_integerLimit {n : Nat} {negative : Bool} (h : n < integerLimit negative) :
    fitsDouble n 0 := by
  have hlimit : ∀ negative, integerLimit negative ≤ Nat.pow 2 1024 - Nat.pow 2 970 := by
    decide +kernel
  have hlt := h.trans_le (hlimit negative)
  unfold fitsDouble
  generalize Nat.pow 2 1024 - Nat.pow 2 970 = limit at hlt ⊢
  have hone : Nat.pow 10 0 = 1 := rfl
  rw [Int.neg_zero, Int.toNat_zero, hone, Nat.mul_one, Nat.mul_one]
  exact hlt

theorem readsAsOther_of_integer? {s : List Char} {n : Int} (h : integer? s = some n) :
    readsAsOther s = true := by
  rw [integer?_eq] at h
  obtain ⟨m, hm, h⟩ := Option.bind_eq_some_iff.1 h
  have hlimit : m < integerLimit (signed s).1 := by
    by_contra hlimit
    rw [if_neg hlimit] at h
    cases h
  cases hbase : announcedBase? (signed s).2 with
  | some announced =>
    obtain ⟨base, rest⟩ := announced
    rw [natural?_of_announced hbase] at hm
    have hbased : isBasedInteger s = true := by
      rw [isBasedInteger_eq hbase hm]
      exact decide_eq_true hlimit
    simp [readsAsOther, hbased]
  | none =>
    have hdigits := natural?_of_not_announced hbase hm
    have hdecimal : isDecimal s = true := by
      rw [isDecimal_eq]
      exact isUnsignedDecimal_of_decimal? (decimal?_of_digitsValue? hdigits)
        (fitsDouble_of_lt_integerLimit hlimit)
    simp [readsAsOther, hdecimal]

theorem readsAsOther_of_isFloat {s : List Char} (h : isFloat s = true) : readsAsOther s = true := by
  unfold isFloat at h
  split at h
  · cases h
  split at h
  · rename_i mantissa exponent hdecimal
    have hdecimal : isDecimal s = true := by
      rw [isDecimal_eq]
      exact isUnsignedDecimal_of_decimal? hdecimal (of_decide_eq_true h)
    simp [readsAsOther, hdecimal]
  · cases h

/-- What reads as nothing else is a text. -/
theorem resolve_of_readsAsOther {s : List Char} (h : readsAsOther s = false) :
    resolve s = .text (String.ofList s) := by
  have hinteger : integer? s = none := by
    rw [Option.eq_none_iff_forall_ne_some]
    intro n hn
    rw [readsAsOther_of_integer? hn] at h
    cases h
  have hfloat : isFloat s = false := by
    rw [Bool.eq_false_iff]
    intro hfloat
    rw [readsAsOther_of_isFloat hfloat] at h
    cases h
  simp only [readsAsOther, reservedWords_eq, Bool.or_eq_false_iff, List.contains_append] at h
  obtain ⟨⟨⟨⟨⟨⟨hnull, htrue⟩, hfalse⟩, hboundless⟩, -⟩, -⟩, -⟩ := h
  simp only [resolve, hnull, htrue, hfalse, hboundless, hinteger, hfloat, Bool.false_eq_true, if_false,
    Bool.or_false]

end DocAtlas.Yaml
