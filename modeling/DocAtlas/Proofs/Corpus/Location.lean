import DocAtlas.Proofs.Corpus.Encoding
import DocAtlas.Proofs.Path.Joining
import Mathlib.Data.String.Basic

/-! # What the fingerprint does not tell

Records are written by address and then by path, relative to the root. So neither the order in which
documents are found nor the place of the root has a part in the fingerprint.

* `Record.under` — a record whose path is seen from a directory
* `Corpus.ofRecords` — the corpus of records that were pushed one after another
* `Fingerprint.comesBefore_under` — records rank alike under every root
* `Fingerprint.traits_under` — records say the same under every root
* `Fingerprint.encode_under`, `Corpus.fingerprint_under` — what is written is the same
-/

set_option autoImplicit false

namespace DocAtlas

/-- The record whose path is seen from a directory. -/
def Record.under (root : Path) (r : Record) : Record := { r with path := root.join r.path }

/-- The corpus of records that were pushed one after another. -/
def Corpus.ofRecords (records : List Record) : Corpus := records.foldl Corpus.push {}

theorem Corpus.found_ofRecords (records : List Record) : (ofRecords records).found = records := by
  have hpush : ∀ corpus : Corpus, (records.foldl push corpus).found = corpus.found ++ records := by
    induction records with
    | nil => simp
    | cons r rest ih =>
      intro corpus
      rw [List.foldl_cons, ih, push, List.append_assoc, List.singleton_append]
  exact hpush {}

theorem Corpus.ofCategory_under (root : Path) (records : List Record) (c : Category) :
    (ofRecords (records.map (Record.under root))).ofCategory c =
      ((ofRecords records).ofCategory c).map (Record.under root) := by
  rw [ofCategory, ofCategory, found_ofRecords, found_ofRecords, List.filter_map]
  rfl

namespace Fingerprint

variable {r s : Record}

/-! ## The order of records -/

theorem comesBefore_iff : comesBefore r s = true ↔
    r.url < s.url ∨ r.url = s.url ∧ r.path.le s.path = true := by
  unfold comesBefore
  split
  · rename_i h
    simp [h]
  · rename_i h
    simp [h]

theorem comesBefore_total (r s : Record) : comesBefore r s = true ∨ comesBefore s r = true := by
  rw [comesBefore_iff, comesBefore_iff]
  rcases lt_trichotomy r.url s.url with h | h | h
  · exact Or.inl (Or.inl h)
  · exact (Path.le_total r.path s.path).imp (fun hle => Or.inr ⟨h, hle⟩)
      fun hle => Or.inr ⟨h.symm, hle⟩
  · exact Or.inr (Or.inl h)

theorem comesBefore_trans (r s t : Record) (hrs : comesBefore r s = true)
    (hst : comesBefore s t = true) : comesBefore r t = true := by
  rw [comesBefore_iff] at hrs hst ⊢
  rcases hrs with hrs | ⟨hrs, hle⟩
  · rcases hst with hst | ⟨hst, -⟩
    · exact Or.inl (hrs.trans hst)
    · exact Or.inl (hst ▸ hrs)
  · rcases hst with hst | ⟨hst, hle'⟩
    · exact Or.inl (hrs ▸ hst)
    · exact Or.inr ⟨hrs.trans hst, Path.le_trans hle hle'⟩

theorem same_of_comesBefore (hrs : comesBefore r s = true) (hsr : comesBefore s r = true) :
    r.path.same s.path = true := by
  rw [comesBefore_iff] at hrs hsr
  rcases hrs with hrs | ⟨hrs, hle⟩
  · rcases hsr with hsr | ⟨hsr, -⟩
    · exact absurd hsr hrs.asymm
    · exact absurd hsr hrs.ne'
  · rcases hsr with hsr | ⟨-, hle'⟩
    · exact absurd hrs.symm hsr.ne
    · exact Path.same_of_le hle hle'

/-! ## The place of the root -/

theorem comesBefore_under (root : Path) (hr : r.path.IsInner) (hs : s.path.IsInner) :
    comesBefore (r.under root) (s.under root) = comesBefore r s := by
  rw [comesBefore, comesBefore, Record.under, Record.under]
  dsimp only
  rw [Path.le_join hr hs]

theorem traits_under (here there : Layout) (hr : r.path.IsInner) :
    (r.under here.root).traits here = (r.under there.root).traits there := by
  have hrelative : ∀ layout : Layout, layout.relative (layout.root.join r.path) =
      Path.spell false (Text.dropEndWhile Path.isIdle r.path.segments) := by
    intro layout
    rw [Layout.relative, Path.stripBase_join hr, Option.getD_some]
  rw [Record.traits, Record.traits, Record.under, Record.under]
  dsimp only
  rw [hrelative here, hrelative there]

variable {records others : List Record}

/-- The records of a category are written in one order, however they were pushed. -/
theorem sorted_under (hperm : records.Perm others) (hinner : ∀ r ∈ records, r.path.IsInner)
    (hpaths : records.Pairwise fun r s => r.path.same s.path = false) (root : Path) (c : Category) :
    sortBy comesBefore ((Corpus.ofRecords (others.map (Record.under root))).ofCategory c) =
      (sortBy comesBefore ((Corpus.ofRecords records).ofCategory c)).map (Record.under root) := by
  have hfound : ∀ xs : List Record, (Corpus.ofRecords xs).ofCategory c =
      xs.filter (·.category == c) := by
    intro xs
    rw [Corpus.ofCategory, Corpus.found_ofRecords]
  have hmem : ∀ r ∈ (Corpus.ofRecords records).ofCategory c, r ∈ records := by
    intro r hr
    rw [hfound] at hr
    exact List.mem_of_mem_filter hr
  have hgroup : ((Corpus.ofRecords records).ofCategory c).Perm
      ((Corpus.ofRecords others).ofCategory c) := by
    rw [hfound, hfound]
    exact hperm.filter _
  have hsort : sortBy comesBefore ((Corpus.ofRecords records).ofCategory c) =
      sortBy comesBefore ((Corpus.ofRecords others).ofCategory c) := by
    refine sortBy_eq_of_perm comesBefore_total comesBefore_trans hgroup fun r hr s hs hrs hsr => ?_
    by_contra hne
    have hsame := same_of_comesBefore hrs hsr
    rcases pairwise_or hpaths (hmem r hr) (hmem s hs) hne with h | h
    · exact Bool.false_ne_true (h.symm.trans hsame)
    · exact Bool.false_ne_true (h.symm.trans ((Path.same_comm _ _).trans hsame))
  rw [Corpus.ofCategory_under, sortBy_map, hsort]
  intro r hr s hs
  exact comesBefore_under root (hinner r (hmem r (hgroup.mem_iff.2 hr)))
    (hinner s (hmem s (hgroup.mem_iff.2 hs)))

theorem encode_under (hperm : records.Perm others) (hinner : ∀ r ∈ records, r.path.IsInner)
    (hpaths : records.Pairwise fun r s => r.path.same s.path = false) (here there : Layout) :
    encode here (Corpus.ofRecords (records.map (Record.under here.root))) =
      encode there (Corpus.ofRecords (others.map (Record.under there.root))) := by
  refine encode_eq_of_traits fun c => ?_
  rw [sorted_under (List.Perm.refl records) hinner hpaths, sorted_under hperm hinner hpaths,
    List.map_map, List.map_map]
  refine List.map_congr_left fun r hr => traits_under here there (hinner r ?_)
  have hfound := mem_found_of_mem_sorted hr
  rwa [Corpus.found_ofRecords] at hfound

end Fingerprint

/-- The fingerprint of documents with different paths below the root tells neither where the root is
nor in which order they were found. -/
theorem Corpus.fingerprint_under {records others : List Record} (hperm : records.Perm others)
    (hinner : ∀ r ∈ records, r.path.IsInner)
    (hpaths : records.Pairwise fun r s => r.path.same s.path = false) (here there : Layout) :
    (ofRecords (records.map (Record.under here.root))).fingerprint here =
      (ofRecords (others.map (Record.under there.root))).fingerprint there := by
  rw [fingerprint, fingerprint, Fingerprint.encode_under hperm hinner hpaths here there]

/-- Two documents with one address and a third, seen from a directory. -/
def threeRecords : List Record :=
  [⟨.user, false, ⟨"guides/foo.md"⟩, 50, .empty, "guides", "Foo", "guides/foo.html"⟩,
    ⟨.auto, true, ⟨"api/index.md"⟩, 30, .empty, "api", "API", "api/index.html"⟩,
    ⟨.user, false, ⟨"guides//foo.rst"⟩, 50, .empty, "guides", "Foo", "guides/foo.html"⟩]

theorem fingerprint_threeRecords :
    (Corpus.ofRecords (threeRecords.map (Record.under ⟨"/docs"⟩))).fingerprint
        (Layout.ofRoot ⟨"/docs"⟩ {}) =
      (Corpus.ofRecords (threeRecords.reverse.map (Record.under ⟨"./checkout/docs/"⟩))).fingerprint
        (Layout.ofRoot ⟨"./checkout/docs/"⟩ {}) :=
  Corpus.fingerprint_under (List.reverse_perm threeRecords).symm (by decide) (by decide)
    (Layout.ofRoot ⟨"/docs"⟩ {}) (Layout.ofRoot ⟨"./checkout/docs/"⟩ {})

end DocAtlas
