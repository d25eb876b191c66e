import DocAtlas.Proofs.Output.YamlScalars

/-! # The characters of a document

* `Yaml.Legible` — texts of characters that are written as they are
* `Yaml.fitsKey_scalar` — a key that stands on its line is one for a reader
* `Yaml.behindColon`, `Yaml.entry_eq` — the parts of a field
* `Yaml.legible_block`, `Yaml.unifyBreaks_of_legible` — a document is read as it is written
-/

set_option autoImplicit false

namespace DocAtlas.Yaml

open Reader

/-! ## Legible texts -/

/-- A text of nothing but characters that are written as they are. -/
def Legible (text : List Char) : Prop := ∀ c ∈ text, isPrintable c = true

theorem Legible.append {s t : List Char} (hs : Legible s) (ht : Legible t) : Legible (s ++ t) :=
  fun c hc => (List.mem_append.1 hc).elim (hs c) (ht c)

theorem Legible.cons {c : Char} {s : List Char} (hc : isPrintable c = true) (hs : Legible s) :
    Legible (c :: s) := List.forall_mem_cons.2 ⟨hc, hs⟩

theorem legible_nil : Legible [] := fun _ hc => absurd hc List.not_mem_nil

theorem legible_margin (indent : Nat) : Legible (margin indent) := by
  intro c hc
  rw [List.eq_of_mem_replicate hc]
  rfl

theorem isPrintable_of_isDigit {c : Char} (h : c.isDigit = true) : isPrintable c = true := by
  have hrange : 48 ≤ c.toNat ∧ c.toNat ≤ 57 := by
    simp only [Char.isDigit, Bool.and_eq_true, decide_eq_true_eq, ge_iff_le,
      UInt32.le_iff_toNat_le] at h
    exact h
  simp only [isPrintable, Bool.or_eq_true, Bool.and_eq_true, decide_eq_true_eq]
  omega

theorem isAllowed_of_isPrintable {c : Char} (h : isPrintable c = true) : isAllowed c = true := by
  simp only [isPrintable, isAllowed, Bool.or_eq_true, Bool.and_eq_true, decide_eq_true_eq,
    beq_iff_eq, bne_iff_ne] at h ⊢
  omega

theorem unifyBreaks_of_legible {text : List Char} (h : Legible text) : unifyBreaks text = text := by
  induction text with
  | nil => rfl
  | cons c text ih =>
    obtain ⟨hc, htext⟩ := List.forall_mem_cons.1 h
    have hreturn : c ≠ '\r' := by
      rintro rfl
      cases hc
    have hnext : c ≠ '\u0085' := by
      rintro rfl
      cases hc
    rw [unifyBreaks, ih htext, if_neg (not_or.2 ⟨hreturn, hnext⟩)]
    rintro rest rfl
    exact absurd rfl hreturn

/-! ## Scalars -/

theorem hexDigit_spec : ∀ d < 16, isPrintable (hexDigit d) = true ∧ isBreak (hexDigit d) = false := by
  decide

theorem hexDigits_spec (width n : Nat) :
    ∀ c ∈ hexDigits width n, isPrintable c = true ∧ isBreak c = false := by
  induction width generalizing n with
  | zero => simp [hexDigits]
  | succ width ih =>
    intro c hc
    rw [hexDigits, List.mem_append, List.mem_singleton] at hc
    obtain hc | rfl := hc
    · exact ih _ c hc
    · exact hexDigit_spec _ (Nat.mod_lt n (by decide))

theorem length_hexDigits (width n : Nat) : (hexDigits width n).length = width := by
  induction width generalizing n with
  | zero => rfl
  | succ width ih => rw [hexDigits, List.length_append, ih, List.length_singleton]

theorem escape_spec (c : Char) :
    (escape c).length ≤ 6 ∧ ∀ d ∈ escape c, isPrintable d = true ∧ isBreak d = false := by
  by_cases hlettered : c ∈ lettered.map Prod.fst
  · have hall : ∀ p ∈ lettered, (escape p.1).length ≤ 6 ∧
        (escape p.1).all (fun d => isPrintable d && !isBreak d) = true := by decide
    obtain ⟨p, hmem, rfl⟩ := List.mem_map.1 hlettered
    refine ⟨(hall p hmem).1, fun d hd => ?_⟩
    simpa using List.all_eq_true.1 (hall p hmem).2 d hd
  · have hbackslash : isPrintable '\\' = true ∧ isBreak '\\' = false := by decide
    rw [escape_not_lettered hlettered]
    split
    · rename_i hplain
      rw [Bool.and_eq_true, Bool.not_eq_true'] at hplain
      simpa using hplain
    split
    · refine ⟨by simp [length_hexDigits], ?_⟩
      exact List.forall_mem_cons.2 ⟨hbackslash, List.forall_mem_cons.2 ⟨by decide, hexDigits_spec 2 _⟩⟩
    · refine ⟨by simp [length_hexDigits], ?_⟩
      exact List.forall_mem_cons.2 ⟨hbackslash, List.forall_mem_cons.2 ⟨by decide, hexDigits_spec 4 _⟩⟩

theorem mem_quoted {c d : Char} (h : d ∈ quoted c) : d = c := by
  unfold quoted at h
  split at h
  · simp_all
  · simpa using h

theorem mem_withMargins {indent : Nat} {atStart : Bool} {s : List Char} {d : Char}
    (h : d ∈ withMargins indent atStart s) : d ∈ s ∨ d = ' ' := by
  induction s generalizing atStart with
  | nil => cases h
  | cons c s ih =>
    rw [withMargins] at h
    split at h
    · obtain rfl | h := List.mem_cons.1 h
      · exact Or.inl List.mem_cons_self
      · exact (ih h).imp_left (List.mem_cons_of_mem c)
    · obtain h | h := List.mem_append.1 h
      · split at h
        · exact Or.inr (List.eq_of_mem_replicate h)
        · cases h
      · obtain rfl | h := List.mem_cons.1 h
        · exact Or.inl List.mem_cons_self
        · exact (ih h).imp_left (List.mem_cons_of_mem c)

theorem mem_singleQuoted {indent : Nat} {s : List Char} {d : Char} (h : d ∈ singleQuoted indent s) :
    d ∈ s ∨ d = ' ' ∨ d = '\x27' := by
  rw [singleQuoted_eq] at h
  simp only [List.mem_cons, List.mem_append, List.not_mem_nil, or_false] at h
  obtain h | (h | h) | h := h
  · exact Or.inr (Or.inr h)
  · obtain h | h := mem_withMargins h
    · obtain ⟨c, hc, hd⟩ := List.mem_flatMap.1 h
      exact Or.inl (mem_quoted hd ▸ hc)
    · exact Or.inr (Or.inl h)
  · split at h
    · exact Or.inr (Or.inl (List.eq_of_mem_replicate h))
    · cases h
  · exact Or.inr (Or.inr h)

theorem doubleQuoted_spec (s : List Char) :
    ∀ d ∈ doubleQuoted s, isPrintable d = true ∧ isBreak d = false := by
  intro d h
  simp only [doubleQuoted, List.mem_cons, List.mem_append, List.not_mem_nil, or_false,
    List.mem_flatMap] at h
  obtain (rfl | ⟨c, -, hd⟩) | rfl := h
  · decide
  · exact (escape_spec c).2 d hd
  · decide

theorem withMargins_of_forall {indent : Nat} {s : List Char} (h : ∀ c ∈ s, isBreak c = false) :
    withMargins indent false s = s := by
  induction s with
  | nil => rfl
  | cons c s ih =>
    obtain ⟨hc, hs⟩ := List.forall_mem_cons.1 h
    rw [withMargins, if_neg (Bool.eq_false_iff.1 hc), ih hs]
    rfl

theorem length_flatMap_le {f : Char → List Char} {k : Nat} (h : ∀ c, (f c).length ≤ k) (s : List Char) :
    (s.flatMap f).length ≤ k * s.length := by
  induction s with
  | nil => exact Nat.le_refl 0
  | cons c s ih =>
    have hc := h c
    rw [List.flatMap_cons, List.length_append, List.length_cons, Nat.mul_succ]
    omega

theorem length_le_utf8ByteSize (s : String) : s.toList.length ≤ s.utf8ByteSize := by
  have hlist : ∀ l : List Char, l.length ≤ (String.ofList l).utf8ByteSize := by
    intro l
    induction l with
    | nil => exact Nat.zero_le _
    | cons c l ih =>
      have hc := c.utf8Size_pos
      rw [String.ofList_cons, String.utf8ByteSize_append, String.utf8ByteSize_singleton,
        List.length_cons]
      omega
  have hle := hlist s.toList
  rwa [String.ofList_toList] at hle

/-! ## Keys -/

theorem styleOf_of_isSimpleKey {key : String} (h : isSimpleKey key = true) :
    styleOf key.toList ≠ .literal := by
  intro hstyle
  have hline := ((styleOf_spec key.toList).2.2 hstyle).2
  rw [isSimpleKey, Bool.and_eq_true, Bool.not_eq_true', List.any_eq_false] at h
  exact h.1 '\n' hline rfl

theorem fitsKey_scalar (indent : Nat) {key : String} (h : isSimpleKey key = true) :
    fitsKey (scalar indent key) = true := by
  have hstyle := styleOf_of_isSimpleKey h
  rw [isSimpleKey, Bool.and_eq_true, Bool.not_eq_true', List.any_eq_false, decide_eq_true_eq] at h
  have hbreak : ∀ c ∈ key.toList, isBreak c = false := fun c hc => Bool.eq_false_iff.2 (h.1 c hc)
  have hlength : key.toList.length ≤ 128 := (length_le_utf8ByteSize key).trans h.2
  suffices hwritten : (∀ c ∈ scalar indent key, isBreak c = false) ∧
      (scalar indent key).length ≤ 1024 by
    rw [fitsKey, Bool.and_eq_true, Bool.not_eq_true', List.any_eq_false, decide_eq_true_eq]
    exact ⟨fun c hc => Bool.eq_false_iff.1 (hwritten.1 c hc), hwritten.2⟩
  rw [scalar]
  cases hkey : styleOf key.toList with
  | plain =>
    refine ⟨hbreak, ?_⟩
    dsimp only
    omega
  | single =>
    have hquoted : ∀ c ∈ key.toList.flatMap quoted, isBreak c = false := by
      intro c hc
      obtain ⟨d, hd, hmem⟩ := List.mem_flatMap.1 hc
      exact mem_quoted hmem ▸ hbreak d hd
    have hend : endsWith isBreak key.toList = false := endsWith_of_forall hbreak
    have hdouble := length_flatMap_le (f := quoted) (k := 2)
      (fun c => by rw [quoted]; split <;> simp) key.toList
    constructor
    · intro c hc
      obtain hc | rfl | rfl := mem_singleQuoted hc
      · exact hbreak c hc
      · rfl
      · rfl
    · dsimp only
      rw [singleQuoted_eq, hend, withMargins_of_forall hquoted]
      simp only [List.length_cons, List.length_append, List.length_nil, Bool.false_eq_true, if_false]
      omega
  | double =>
    have hescape := length_flatMap_le (fun c => (escape_spec c).1) key.toList
    refine ⟨fun c hc => (doubleQuoted_spec _ c hc).2, ?_⟩
    simp only [doubleQuoted, List.length_cons, List.length_append, List.length_nil]
    omega
  | literal => exact absurd hkey hstyle

/-! ## Blocks -/

theorem block_text (indent : Nat) (s : String) : block indent (.text s) = scalarLine indent s := rfl

theorem block_number (indent n : Nat) : block indent (.number n) = Nat.toDigits 10 n ++ ['\n'] := rfl

theorem block_list (indent : Nat) (v : Value) (vs : List Value) :
    block indent (.list (v :: vs)) = '-' :: ' ' :: block (indent + 2) v ++ items indent vs := rfl

theorem block_object (indent : Nat) (f : String × Value) (fs : List (String × Value)) :
    block indent (.object (f :: fs)) = entry indent f ++ fields indent fs := rfl

/-- What is written behind the colon of a key that stands on its line. -/
def behindColon (indent : Nat) : Value → List Char
  | .list (item :: rest) =>
    '\n' :: margin indent ++ '-' :: ' ' :: block (indent + 2) item ++ items indent rest
  | .object (field :: rest) =>
    '\n' :: margin (indent + 2) ++ entry (indent + 2) field ++ fields (indent + 2) rest
  | value => ' ' :: block (indent + 2) value

theorem entry_eq (indent : Nat) (key : String) (v : Value) :
    entry indent (key, v) =
      if isSimpleKey key then scalar (indent + 2) key ++ ':' :: behindColon indent v
      else '?' :: ' ' :: scalarLine (indent + 2) key ++ margin indent ++
        ':' :: ' ' :: block (indent + 2) v := by
  cases v with
  | text s => rfl
  | number n => rfl
  | flag b => rfl
  | list items => cases items <;> rfl
  | object fields => cases fields <;> rfl

/-! ## Documents -/

theorem legible_scalar (indent : Nat) (s : String) : Legible (scalar indent s) := by
  obtain ⟨hplain, hsingle, hliteral⟩ := styleOf_spec s.toList
  rw [scalar]
  cases hstyle : styleOf s.toList with
  | plain =>
    have hallows := (hplain hstyle).2
    simp only [allowsPlain, Bool.and_eq_true, Bool.not_eq_true'] at hallows
    exact isPrintable_of_needsEscapes hallows.1.1.1.1
  | single =>
    have hallows := (hsingle hstyle).1
    simp only [allowsSingle, Bool.and_eq_true, Bool.not_eq_true'] at hallows
    intro c hc
    obtain hc | rfl | rfl := mem_singleQuoted hc
    · exact isPrintable_of_needsEscapes hallows.1 c hc
    · rfl
    · rfl
  | double => exact fun c hc => (doubleQuoted_spec _ c hc).1
  | literal =>
    have hallows := (hliteral hstyle).1
    simp only [allowsLiteral, Bool.and_eq_true, Bool.not_eq_true'] at hallows
    have hall : ∀ signs ∈ [['-'], ['+'], []], signs.all isPrintable = true := by decide
    have hsigns : Legible (chomping s.toList) :=
      List.all_eq_true.1 (hall _ (chomping_mem s.toList))
    have hlines : Legible (withMargins indent true s.toList) := by
      intro c hc
      obtain hc | rfl := mem_withMargins hc
      · exact isPrintable_of_needsEscapes hallows.1 c hc
      · rfl
    have hhint : ∀ b : Bool, Legible (if b then ['2'] else []) := by
      intro b
      cases b
      · exact legible_nil
      · exact legible_nil.cons rfl
    exact (((hhint _).append hsigns).cons rfl).append (hlines.cons rfl)

theorem legible_scalarLine (indent : Nat) (s : String) : Legible (scalarLine indent s) := by
  unfold scalarLine
  split
  · exact legible_scalar indent s
  · exact (legible_scalar indent s).append (legible_nil.cons rfl)

theorem legible_items {vs : List Value} (h : ∀ v ∈ vs, ∀ indent, Legible (block indent v))
    (indent : Nat) : Legible (items indent vs) := by
  induction vs with
  | nil => exact legible_nil
  | cons v vs ih =>
    obtain ⟨hv, hvs⟩ := List.forall_mem_cons.1 h
    rw [items]
    exact ((legible_margin indent).append (.cons rfl (.cons rfl (hv _)))).append (ih hvs)

theorem legible_fields {fs : List (String × Value)} (h : ∀ f ∈ fs, ∀ indent, Legible (entry indent f))
    (indent : Nat) : Legible (fields indent fs) := by
  induction fs with
  | nil => exact legible_nil
  | cons f fs ih =>
    obtain ⟨hf, hfs⟩ := List.forall_mem_cons.1 h
    rw [fields]
    exact ((legible_margin indent).append (hf _)).append (ih hfs)

theorem legible_entry {v : Value} (hblock : ∀ indent, Legible (block indent v))
    (hcolon : ∀ indent, Legible (behindColon indent v)) (indent : Nat) (key : String) :
    Legible (entry indent (key, v)) := by
  rw [entry_eq]
  split
  · exact (legible_scalar _ key).append (.cons rfl (hcolon indent))
  · exact ((((legible_scalarLine _ key).append (legible_margin indent)).cons rfl).cons rfl).append
      (((hblock _).cons rfl).cons rfl)

theorem legible_of_scalar {v : Value}
    (hcolon : ∀ indent, behindColon indent v = ' ' :: block (indent + 2) v)
    (hblock : ∀ indent, Legible (block indent v)) :
    (∀ indent, Legible (block indent v)) ∧ ∀ indent key, Legible (entry indent (key, v)) := by
  refine ⟨hblock, legible_entry hblock fun indent => ?_⟩
  rw [hcolon]
  exact (hblock _).cons rfl

theorem legible_list {v : Value} {vs : List Value} (hv : ∀ indent, Legible (block indent v))
    (hvs : ∀ w ∈ vs, ∀ indent, Legible (block indent w)) :
    (∀ indent, Legible (block indent (.list (v :: vs)))) ∧
      ∀ indent key, Legible (entry indent (key, .list (v :: vs))) := by
  have hitems := legible_items hvs
  have hblock : ∀ indent, Legible (block indent (.list (v :: vs))) := fun indent => by
    rw [block_list]
    exact (((hv _).cons rfl).cons rfl).append (hitems indent)
  refine ⟨hblock, legible_entry hblock fun indent => ?_⟩
  exact (((legible_margin indent).cons rfl).append (((hv _).cons rfl).cons rfl)).append (hitems indent)

theorem legible_object {f : String × Value} {fs : List (String × Value)}
    (hf : ∀ indent, Legible (entry indent f)) (hfs : ∀ g ∈ fs, ∀ indent, Legible (entry indent g)) :
    (∀ indent, Legible (block indent (.object (f :: fs)))) ∧
      ∀ indent key, Legible (entry indent (key, .object (f :: fs))) := by
  have hfields := legible_fields hfs
  have hblock : ∀ indent, Legible (block indent (.object (f :: fs))) := fun indent => by
    rw [block_object]
    exact (hf indent).append (hfields indent)
  refine ⟨hblock, legible_entry hblock fun indent => ?_⟩
  exact (((legible_margin (indent + 2)).cons rfl).append (hf _)).append (hfields _)

theorem legible_block (v : Value) : (∀ indent, Legible (block indent v)) ∧
    ∀ indent key, Legible (entry indent (key, v)) := by
  induction v using Value.induct with
  | text s =>
    refine legible_of_scalar (fun _ => rfl) fun indent => ?_
    rw [block_text]
    exact legible_scalarLine indent s
  | number n =>
    refine legible_of_scalar (fun _ => rfl) fun indent => ?_
    rw [block_number]
    refine Legible.append (fun c hc => isPrintable_of_isDigit ?_) (legible_nil.cons rfl)
    exact Nat.isDigit_of_mem_toDigits (by decide) (by decide) hc
  | flag b =>
    refine legible_of_scalar (fun _ => by cases b <;> rfl) fun indent => ?_
    rw [Legible, ← List.all_eq_true]
    cases b <;> rfl
  | list vs ih =>
    cases vs with
    | nil =>
      refine legible_of_scalar (fun _ => rfl) fun indent => ?_
      rw [Legible, ← List.all_eq_true]
      rfl
    | cons v vs =>
      obtain ⟨hv, hvs⟩ := List.forall_mem_cons.1 ih
      exact legible_list hv.1 fun w hw => (hvs w hw).1
  | object fs ih =>
    cases fs with
    | nil =>
      refine legible_of_scalar (fun _ => rfl) fun indent => ?_
      rw [Legible, ← List.all_eq_true]
      rfl
    | cons f fs =>
      obtain ⟨hf, hfs⟩ := List.forall_mem_cons.1 ih
      exact legible_object (fun indent => hf.2 indent f.1) fun g hg indent => (hfs g hg).2 indent g.1

end DocAtlas.Yaml
