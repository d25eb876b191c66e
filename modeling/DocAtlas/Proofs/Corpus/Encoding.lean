import DocAtlas.Proofs.Corpus.Marked
import DocAtlas.Proofs.Site.Harvest
import DocAtlas.Proofs.Ordering.Stable
import DocAtlas.Proofs.Session.Survey
import Mathlib.Data.List.Perm.Basic

/-! # What the fingerprint tells apart

The byte string behind a fingerprint is cut by two marks, one behind each field and one behind each
record and each name of a category. No text is escaped, so it can be read back only where the texts of
the records have no mark of their own.

* `Record.traits` — what a record says apart from the place of the documentation
* `Fingerprint.encode_eq_of_traits` — corpora that say the same in the same order are written alike
* `Fingerprint.encode_eq_iff` — when two corpora of plain records are written alike
* `Fingerprint.encode_ne` — corpora of plain records that differ are not written alike
-/

set_option autoImplicit false

namespace DocAtlas

/-- What a record says apart from the place of the documentation. -/
structure Traits where
  category : Category
  isIndex : Bool
  path : Path
  priority : Nat
  references : TextSet
  folder : String
  title : String
  url : String
  deriving DecidableEq, Repr

/-- What a record says, its path taken relative to the root. -/
def Record.traits (layout : Layout) (r : Record) : Traits :=
  ⟨r.category, r.isIndex, layout.relative r.path, r.priority, r.references, r.folder, r.title, r.url⟩

namespace Fingerprint

variable {layout layout' : Layout} {corpus corpus' : Corpus} {r s : Record}

/-! ## Fields -/

/-- Whether no text of a record has a mark. -/
structure PlainRecord (layout : Layout) (r : Record) : Prop where
  path : IsPlain (layout.relative r.path).text
  url : IsPlain r.url
  title : IsPlain r.title
  folder : IsPlain r.folder
  references : ∀ t ∈ r.references.toList, IsPlain t

/-- Whether no text of any record has a mark. -/
def PlainCorpus (layout : Layout) (corpus : Corpus) : Prop := ∀ r ∈ corpus.found, PlainRecord layout r

theorem isPlain_toString (n : Nat) : IsPlain (toString n) := by
  intro c hc
  rw [Nat.toString_eq_repr, Nat.toList_repr] at hc
  have hdigit := Nat.isDigit_of_mem_toDigits (by decide) (by decide) hc
  rw [Char.isDigit, Bool.and_eq_true, decide_eq_true_eq, decide_eq_true_eq] at hdigit
  have hlow : 48 ≤ c.toNat := hdigit.1
  have hfield : fieldEnd.toNat = 31 := rfl
  have hrecord : recordEnd.toNat = 30 := rfl
  omega

theorem PlainRecord.isPlain_of_mem_fields (h : PlainRecord layout r) {field : String}
    (hf : field ∈ fields layout r) : IsPlain field := by
  unfold fields at hf
  simp only [List.mem_append, List.mem_cons, List.not_mem_nil, or_false] at hf
  rcases hf with (rfl | rfl | rfl | rfl | rfl | rfl) | hf
  · exact h.path
  · exact h.url
  · exact h.title
  · exact h.folder
  · exact isPlain_toString _
  · cases r.isIndex <;> decide
  · exact h.references field hf

theorem toString_inj {m n : Nat} (h : toString m = toString n) : m = n := by
  rw [Nat.toString_eq_repr, Nat.toString_eq_repr] at h
  have hdigits := congrArg String.toList h
  rw [Nat.toList_repr, Nat.toList_repr] at hdigits
  have hvalue := congrArg (Nat.ofDigitChars 10 · 0) hdigits
  simpa only [Nat.ofDigitChars_ten_toDigits] using hvalue

theorem ite_index_inj {a b : Bool} (h : (if a then "index" else "") = if b then "index" else "") :
    a = b := by
  cases a <;> cases b <;> first | rfl | exact absurd h (by decide)

theorem toTextSet_inj {a b : TextSet} (h : a.toList = b.toList) : a = b := by
  cases a
  cases b
  obtain rfl := h
  rfl

/-- The fields of a record and its category are all it says. -/
theorem traits_eq_iff :
    r.traits layout = s.traits layout' ↔ r.category = s.category ∧ fields layout r = fields layout' s := by
  constructor
  · intro h
    simp only [Record.traits, Traits.mk.injEq] at h
    obtain ⟨hcategory, hindex, hpath, hpriority, hreferences, hfolder, htitle, hurl⟩ := h
    refine ⟨hcategory, ?_⟩
    rw [fields, fields, hindex, hpath, hpriority, hreferences, hfolder, htitle, hurl]
  · rintro ⟨hcategory, hfields⟩
    simp only [fields, List.cons_append, List.nil_append, List.cons.injEq] at hfields
    obtain ⟨hpath, hurl, htitle, hfolder, hpriority, hindex, hreferences⟩ := hfields
    have hrelative : layout.relative r.path = layout'.relative s.path := by
      cases hl : layout.relative r.path
      cases hl' : layout'.relative s.path
      rw [hl, hl'] at hpath
      exact congrArg Path.mk hpath
    rw [Record.traits, Record.traits, hcategory, ite_index_inj hindex, hrelative, toString_inj hpriority,
      toTextSet_inj hreferences, hfolder, htitle, hurl]

/-- Lists that are mapped alike stay so under what is told by the images. -/
theorem map_eq_of_map_eq {α β γ δ : Type} {f : α → γ} {f' : β → γ} {g : α → δ} {g' : β → δ}
    {xs : List α} {ys : List β} (h : ∀ x ∈ xs, ∀ y ∈ ys, f x = f' y → g x = g' y)
    (heq : xs.map f = ys.map f') : xs.map g = ys.map g' := by
  induction xs generalizing ys with
  | nil =>
    obtain rfl : ys = [] := by simpa using heq.symm
    rfl
  | cons x xs ih =>
    cases ys with
    | nil => cases heq
    | cons y ys =>
      rw [List.map_cons, List.map_cons, List.cons.injEq] at heq
      rw [List.map_cons, List.map_cons, h x (by simp) y (by simp) heq.1,
        ih (fun a ha b hb => h a (by simp [ha]) b (by simp [hb])) heq.2]

theorem map_eq_map_iff {α β γ δ : Type} {f : α → γ} {f' : β → γ} {g : α → δ} {g' : β → δ}
    {xs : List α} {ys : List β} (h : ∀ x ∈ xs, ∀ y ∈ ys, (f x = f' y ↔ g x = g' y)) :
    xs.map f = ys.map f' ↔ xs.map g = ys.map g' :=
  ⟨map_eq_of_map_eq fun x hx y hy => (h x hx y hy).1,
    map_eq_of_map_eq fun x hx y hy => (h x hx y hy).2⟩

/-! ## Records -/

/-- What is written of a record in front of the mark behind it. -/
def body (layout : Layout) (r : Record) : List UInt8 :=
  terminated fieldEnd ((fields layout r).map utf8)

theorem encodeRecord_eq (layout : Layout) (r : Record) :
    encodeRecord layout r = body layout r ++ [recordEnd] := by
  rw [encodeRecord, body, terminated, List.flatMap_map]

theorem fieldEnd_mem_body (layout : Layout) (r : Record) : fieldEnd ∈ body layout r := by
  simp [body, terminated, fields]

theorem PlainRecord.recordEnd_not_mem_body (h : PlainRecord layout r) :
    recordEnd ∉ body layout r := by
  intro hmem
  rw [body, terminated, List.mem_flatMap] at hmem
  obtain ⟨piece, hpiece, hmark⟩ := hmem
  obtain ⟨field, hfield, rfl⟩ := List.mem_map.1 hpiece
  rcases List.mem_append.1 hmark with hmark | hmark
  · exact (h.isPlain_of_mem_fields hfield).not_mem_utf8.2 hmark
  · exact absurd (List.mem_singleton.1 hmark) (by decide)

theorem PlainRecord.fieldEnd_not_mem (h : PlainRecord layout r) :
    ∀ piece ∈ (fields layout r).map utf8, fieldEnd ∉ piece := by
  intro piece hpiece
  obtain ⟨field, hfield, rfl⟩ := List.mem_map.1 hpiece
  exact (h.isPlain_of_mem_fields hfield).not_mem_utf8.1

/-- Plain records written alike have the same fields. -/
theorem body_inj (hr : PlainRecord layout r) (hs : PlainRecord layout' s) :
    body layout r = body layout' s ↔ fields layout r = fields layout' s := by
  constructor
  · intro h
    have hpieces := terminated_inj hr.fieldEnd_not_mem hs.fieldEnd_not_mem h
    exact List.map_injective_iff.2 utf8_injective hpieces
  · intro h
    rw [body, body, h]

/-! ## Groups -/

/-- The name of each reported category with what is written of its records. -/
def written (layout : Layout) (corpus : Corpus) : List (List UInt8 × List (List UInt8)) :=
  corpus.categories.map fun c =>
    (utf8 c.label, (sortBy comesBefore (corpus.ofCategory c)).map (body layout))

/-- A corpus is written as its groups, each behind the name of its category, with a mark behind each
name and each record. -/
theorem encode_eq (layout : Layout) (corpus : Corpus) :
    encode layout corpus = terminated recordEnd (headed (written layout corpus)) := by
  unfold encode Corpus.groups headed written
  induction corpus.categories with
  | nil => rfl
  | cons c rest ih =>
    have hrecords : (sortBy comesBefore (corpus.ofCategory c)).flatMap (encodeRecord layout) =
        terminated recordEnd ((sortBy comesBefore (corpus.ofCategory c)).map (body layout)) := by
      rw [terminated, List.flatMap_map]
      exact List.flatMap_congr fun r _ => encodeRecord_eq layout r
    rw [List.map_cons, List.flatMap_cons, ih, List.map_cons, List.flatMap_cons]
    simp only [encodeGroup]
    rw [hrecords]
    simp [terminated]

theorem mem_found_of_mem_sorted {c : Category}
    (h : r ∈ sortBy comesBefore (corpus.ofCategory c)) : r ∈ corpus.found :=
  (List.mem_filter.1 (mem_sortBy.1 h)).1

theorem label_plain (c : Category) : fieldEnd ∉ utf8 c.label ∧ recordEnd ∉ utf8 c.label :=
  IsPlain.not_mem_utf8 (by cases c <;> decide)

theorem label_injective {c d : Category} (h : utf8 c.label = utf8 d.label) : c = d := by
  have hlabel : c.label = d.label := utf8_injective h
  cases c <;> cases d <;> first | rfl | exact absurd hlabel (by decide)

/-- A piece without a mark behind a field is the name of a category. -/
def isLabel (piece : List UInt8) : Bool := !piece.contains fieldEnd

theorem isLabel_head {g : List UInt8 × List (List UInt8)} (hg : g ∈ written layout corpus) :
    isLabel g.1 = true := by
  obtain ⟨c, -, rfl⟩ := List.mem_map.1 hg
  simp [isLabel, (label_plain c).1]

theorem not_isLabel_item {g : List UInt8 × List (List UInt8)} (hg : g ∈ written layout corpus) :
    ∀ piece ∈ g.2, isLabel piece = false := by
  obtain ⟨c, -, rfl⟩ := List.mem_map.1 hg
  intro piece hpiece
  obtain ⟨r, -, rfl⟩ := List.mem_map.1 hpiece
  simp [isLabel, fieldEnd_mem_body]

theorem recordEnd_not_mem_headed (h : PlainCorpus layout corpus) :
    ∀ piece ∈ headed (written layout corpus), recordEnd ∉ piece := by
  intro piece hpiece
  obtain ⟨g, hg, hpiece⟩ := List.mem_flatMap.1 hpiece
  obtain ⟨c, -, rfl⟩ := List.mem_map.1 hg
  rcases List.mem_cons.1 hpiece with rfl | hpiece
  · exact (label_plain c).2
  · obtain ⟨r, hr, rfl⟩ := List.mem_map.1 hpiece
    exact (h r (mem_found_of_mem_sorted hr)).recordEnd_not_mem_body

/-- What plain corpora are written as tells the groups apart. -/
theorem written_eq_of_encode_eq (h : PlainCorpus layout corpus) (h' : PlainCorpus layout' corpus')
    (heq : encode layout corpus = encode layout' corpus') :
    written layout corpus = written layout' corpus' := by
  rw [encode_eq, encode_eq] at heq
  have hpieces := terminated_inj (recordEnd_not_mem_headed h) (recordEnd_not_mem_headed h') heq
  exact headed_inj (fun g hg => isLabel_head hg) (fun g hg => not_isLabel_item hg)
    (fun g hg => isLabel_head hg) (fun g hg => not_isLabel_item hg) hpieces

/-! ## Corpora -/

/-- A category that is not reported has no records. -/
theorem ofCategory_eq_nil {c : Category} (hc : c ∉ corpus.categories) : corpus.ofCategory c = [] := by
  have hall : c ∈ Category.all := by cases c <;> decide
  by_contra hne
  refine hc (List.mem_filter.2 ⟨hall, ?_⟩)
  cases hrecords : corpus.ofCategory c with
  | nil => exact absurd hrecords hne
  | cons r rest =>
    simp

theorem category_of_mem_sorted {c : Category}
    (h : r ∈ sortBy comesBefore (corpus.ofCategory c)) : r.category = c := by
  have hfilter := (List.mem_filter.1 (mem_sortBy.1 h)).2
  exact beq_iff_eq.1 hfilter

/-- The records of one category are written alike if they say the same in the same order. -/
theorem map_body_eq_iff (h : PlainCorpus layout corpus) (h' : PlainCorpus layout' corpus')
    (c : Category) :
    (sortBy comesBefore (corpus.ofCategory c)).map (body layout) =
        (sortBy comesBefore (corpus'.ofCategory c)).map (body layout') ↔
      (sortBy comesBefore (corpus.ofCategory c)).map (Record.traits layout) =
        (sortBy comesBefore (corpus'.ofCategory c)).map (Record.traits layout') := by
  refine map_eq_map_iff fun r hr s hs => ?_
  have hcategory : r.category = s.category :=
    (category_of_mem_sorted hr).trans (category_of_mem_sorted hs).symm
  rw [body_inj (h r (mem_found_of_mem_sorted hr)) (h' s (mem_found_of_mem_sorted hs)),
    traits_eq_iff]
  simp [hcategory]

/-- Corpora whose records, sorted by address and path, say the same in each category are written
alike. -/
theorem encode_eq_of_traits (h : ∀ c, (sortBy comesBefore (corpus.ofCategory c)).map
      (Record.traits layout) =
        (sortBy comesBefore (corpus'.ofCategory c)).map (Record.traits layout')) :
    encode layout corpus = encode layout' corpus' := by
  have hcategories : corpus.categories = corpus'.categories := by
    refine List.filter_congr fun c _ => ?_
    have hlength := congrArg List.length (h c)
    rw [List.length_map, List.length_map, (sortBy_perm _ _).length_eq,
      (sortBy_perm _ _).length_eq] at hlength
    have hempty : (corpus.ofCategory c).isEmpty = (corpus'.ofCategory c).isEmpty := by
      rw [Bool.eq_iff_iff, List.isEmpty_iff, List.isEmpty_iff, ← List.length_eq_zero_iff, hlength,
        List.length_eq_zero_iff]
    rw [hempty]
  have hbodies : ∀ c, (sortBy comesBefore (corpus.ofCategory c)).map (body layout) =
      (sortBy comesBefore (corpus'.ofCategory c)).map (body layout') := by
    refine fun c => map_eq_of_map_eq (fun r _ s _ htraits => ?_) (h c)
    rw [body, body, (traits_eq_iff.1 htraits).2]
  rw [encode_eq, encode_eq, written, written, ← hcategories]
  congr 2
  exact List.map_congr_left fun c _ => by rw [hbodies c]

/-- Plain corpora are written alike exactly if their records, sorted by address and path, say the same
in each category. -/
theorem encode_eq_iff (h : PlainCorpus layout corpus) (h' : PlainCorpus layout' corpus') :
    encode layout corpus = encode layout' corpus' ↔
      ∀ c, (sortBy comesBefore (corpus.ofCategory c)).map (Record.traits layout) =
        (sortBy comesBefore (corpus'.ofCategory c)).map (Record.traits layout') := by
  constructor
  · intro heq c
    have hwritten := written_eq_of_encode_eq h h' heq
    have hcategories : corpus.categories = corpus'.categories := by
      have hlabels := congrArg (List.map Prod.fst) hwritten
      simp only [written, List.map_map] at hlabels
      exact List.map_injective_iff.2 (fun _ _ hlabel => label_injective hlabel) hlabels
    by_cases hc : c ∈ corpus.categories
    · unfold written at hwritten
      rw [← hcategories, List.map_inj_left] at hwritten
      exact (map_body_eq_iff h h' c).1 (Prod.mk.inj (hwritten c hc)).2
    · rw [ofCategory_eq_nil hc, ofCategory_eq_nil (hcategories ▸ hc)]
      rfl
  · exact encode_eq_of_traits

/-- Records that say the same in each category say the same altogether. -/
theorem perm_traits (h : ∀ c, ((corpus.ofCategory c).map (Record.traits layout)).Perm
      ((corpus'.ofCategory c).map (Record.traits layout'))) :
    (corpus.found.map (Record.traits layout)).Perm
      (corpus'.found.map (Record.traits layout')) := by
  have hrecords : (corpus.records.map (Record.traits layout)).Perm
      (corpus'.records.map (Record.traits layout')) := by
    rw [Corpus.records_eq, Corpus.records_eq, List.map_flatMap, List.map_flatMap]
    exact List.Perm.flatMap_left _ fun c _ => h c
  exact ((corpus.records_perm.map _).symm.trans hrecords).trans (corpus'.records_perm.map _)

/-- Corpora of plain records that say different things are written as different byte strings. -/
theorem encode_ne (h : PlainCorpus layout corpus) (h' : PlainCorpus layout' corpus')
    (hne : ¬ (corpus.found.map (Record.traits layout)).Perm
      (corpus'.found.map (Record.traits layout'))) :
    encode layout corpus ≠ encode layout' corpus' := by
  intro heq
  refine hne (perm_traits fun c => ?_)
  have hsorted := (encode_eq_iff h h').1 heq c
  have hleft := (sortBy_perm comesBefore (corpus.ofCategory c)).map (Record.traits layout)
  have hright := (sortBy_perm comesBefore (corpus'.ofCategory c)).map (Record.traits layout')
  rw [hsorted] at hleft
  exact hleft.symm.trans hright

end Fingerprint

/-! ## One document, changed -/

namespace Fingerprint

instance (layout : Layout) (r : Record) : Decidable (PlainRecord layout r) :=
  decidable_of_iff (IsPlain (layout.relative r.path).text ∧ IsPlain r.url ∧ IsPlain r.title ∧
      IsPlain r.folder ∧ ∀ t ∈ r.references.toList, IsPlain t)
    ⟨fun h => ⟨h.1, h.2.1, h.2.2.1, h.2.2.2.1, h.2.2.2.2⟩,
      fun h => ⟨h.path, h.url, h.title, h.folder, h.references⟩⟩

instance (layout : Layout) (corpus : Corpus) : Decidable (PlainCorpus layout corpus) :=
  List.decidableBAll _ _

end Fingerprint

/-- A documentation of one document. -/
def soleDocs (content : String) : Tree where
  root := Listing.nil.plantAt ["docs", "user_docs", "a.md"] (.file content.toUTF8)
  wellFormed := Listing.wellFormed_plantAt rfl rfl

theorem discover_soleDocs {content : String}
    (hdir : (soleDocs content).isDir Session.usual.layout.root = true) :
    (Session.usual.discover (soleDocs content)).ending =
      .done (Session.usual.fresh (soleDocs content)).corpus :=
  Session.ending_discover hdir (by decide)

theorem encode_ne_soleDocs :
    ∃ corpus corpus', (Session.usual.discover (soleDocs "[x](a)")).ending = .done corpus ∧
      (Session.usual.discover (soleDocs "[x](a) [y](b)")).ending = .done corpus' ∧
      Fingerprint.encode Session.usual.layout corpus ≠
        Fingerprint.encode Session.usual.layout corpus' := by
  refine ⟨_, _, discover_soleDocs (by decide +kernel), discover_soleDocs (by decide +kernel),
    Fingerprint.encode_ne ?_ ?_ ?_⟩
  all_goals decide +kernel

/-- A mark inside of a reference is read as the end of one. -/
theorem merged_references_encoded_alike :
    ∃ corpus corpus', (Session.usual.discover (soleDocs "[x](a\x1fb)")).ending = .done corpus ∧
      (Session.usual.discover (soleDocs "[x](a) [y](b)")).ending = .done corpus' ∧
      corpus.found.map (·.references.toList) = [["a\x1fb"]] ∧
      corpus'.found.map (·.references.toList) = [["a", "b"]] ∧
      Fingerprint.encode Session.usual.layout corpus =
        Fingerprint.encode Session.usual.layout corpus' := by
  refine ⟨_, _, discover_soleDocs (by decide +kernel), discover_soleDocs (by decide +kernel),
    ?_, ?_, ?_⟩
  all_goals decide +kernel

end DocAtlas
