import DocAtlas.Ordering.TextSet
import DocAtlas.Tree.Listing

/-! # Changes keep listings well-formed

* `Listing.wellFormed_plantAt`, `Listing.wellFormed_eraseAt` — the main statements
-/

set_option autoImplicit false

namespace DocAtlas.Listing

@[simp] theorem names_cons (name : String) (entry : Entry) (rest : Listing) :
    (cons name entry rest).names = name :: rest.names := by
  cases entry <;> rfl

theorem wellFormed_cons {name : String} {entry : Entry} {rest : Listing} :
    (cons name entry rest).wellFormed = true ↔
      isEntryName name = true ∧ entry.wellFormed = true ∧ rest.isAbove name = true ∧
        rest.wellFormed = true := by
  cases entry <;> simp [cons, wellFormed, Entry.wellFormed, and_assoc, and_comm, and_left_comm]

theorem isAbove_iff {name : String} {listing : Listing} :
    listing.isAbove name = true ↔ ∀ n ∈ listing.names, name < n := by
  simp [isAbove]

theorem isAbove_of_lt {name n : String} {listing : Listing} (h : name < n)
    (hn : listing.isAbove n = true) : listing.isAbove name = true := by
  rw [isAbove_iff] at hn ⊢
  exact fun m hm => String.lt_trans h (hn m hm)

theorem isAbove_cons {name n : String} {entry : Entry} {rest : Listing} :
    (cons n entry rest).isAbove name = true ↔ name < n ∧ rest.isAbove name = true := by
  simp [isAbove]

/-- A listing is empty or starts with an entry. -/
theorem eq_nil_or_cons (listing : Listing) :
    listing = nil ∨ ∃ n entry rest, listing = cons n entry rest := by
  cases listing with
  | nil => exact .inl rfl
  | file n bytes rest => exact .inr ⟨n, .file bytes, rest, rfl⟩
  | link n target rest => exact .inr ⟨n, .link target, rest, rfl⟩
  | dir n inside rest => exact .inr ⟨n, .dir inside, rest, rfl⟩

/-! ## The operations on a first entry -/

theorem find?_cons (name n : String) (entry : Entry) (rest : Listing) :
    (cons n entry rest).find? name = if n = name then some entry else rest.find? name := by
  cases entry <;> rfl

theorem put_cons (name n : String) (entry e : Entry) (rest : Listing) :
    (cons n e rest).put name entry =
      if name < n then cons name entry (cons n e rest)
      else if name = n then cons name entry rest
      else cons n e (rest.put name entry) := by
  cases e <;> rfl

theorem erase_cons (name n : String) (e : Entry) (rest : Listing) :
    (cons n e rest).erase name = if n = name then rest else cons n e (rest.erase name) := by
  cases e <;> rfl

/-- Induction on the entries of one directory. -/
theorem cons_induction {motive : Listing → Prop} (nil : motive .nil)
    (cons : ∀ n e rest, motive rest → motive (cons n e rest)) : ∀ listing, motive listing
  | .nil => nil
  | .file n bytes rest => cons n (.file bytes) rest (cons_induction nil cons rest)
  | .link n target rest => cons n (.link target) rest (cons_induction nil cons rest)
  | .dir n inside rest => cons n (.dir inside) rest (cons_induction nil cons rest)

/-! ## Well-formed listings -/

theorem mem_names_put {name m : String} {entry : Entry} {listing : Listing}
    (h : m ∈ (listing.put name entry).names) : m = name ∨ m ∈ listing.names := by
  induction listing using cons_induction with
  | nil => simpa [put] using h
  | cons n e rest ih =>
    rw [put_cons] at h
    split at h
    · simpa using h
    · split at h
      · simp only [names_cons, List.mem_cons] at h ⊢
        rcases h with h | h <;> simp [h]
      · simp only [names_cons, List.mem_cons] at h ⊢
        rcases h with h | h
        · simp [h]
        · rcases ih h with h | h <;> simp [h]

theorem wellFormed_put {name : String} {entry : Entry} {listing : Listing}
    (hn : isEntryName name = true) (he : entry.wellFormed = true)
    (h : listing.wellFormed = true) : (listing.put name entry).wellFormed = true := by
  induction listing using cons_induction with
  | nil => exact wellFormed_cons.2 ⟨hn, he, rfl, rfl⟩
  | cons n e rest ih =>
    have hc := wellFormed_cons.1 h
    rw [put_cons]
    split
    · rename_i hlt
      exact wellFormed_cons.2 ⟨hn, he, isAbove_cons.2 ⟨hlt, isAbove_of_lt hlt hc.2.2.1⟩, h⟩
    · split
      · rename_i heq
        subst heq
        exact wellFormed_cons.2 ⟨hn, he, hc.2.2⟩
      · rename_i hlt hne
        refine wellFormed_cons.2 ⟨hc.1, hc.2.1, isAbove_iff.2 fun m hm => ?_, ih hc.2.2.2⟩
        rcases mem_names_put hm with rfl | hm
        · exact TextSet.lt_of_not_lt_of_ne hlt hne
        · exact isAbove_iff.1 hc.2.2.1 m hm

theorem mem_names_erase {name m : String} {listing : Listing}
    (h : m ∈ (listing.erase name).names) : m ∈ listing.names := by
  induction listing using cons_induction with
  | nil => exact h
  | cons n e rest ih =>
    rw [erase_cons] at h
    split at h
    · simp [h]
    · simp only [names_cons, List.mem_cons] at h ⊢
      exact h.imp id ih

theorem wellFormed_erase {name : String} {listing : Listing} (h : listing.wellFormed = true) :
    (listing.erase name).wellFormed = true := by
  induction listing using cons_induction with
  | nil => rfl
  | cons n e rest ih =>
    have hc := wellFormed_cons.1 h
    rw [erase_cons]
    split
    · exact hc.2.2.2
    · exact wellFormed_cons.2 ⟨hc.1, hc.2.1,
        isAbove_iff.2 fun m hm => isAbove_iff.1 hc.2.2.1 m (mem_names_erase hm), ih hc.2.2.2⟩

theorem find?_some {name : String} {entry : Entry} {listing : Listing}
    (h : listing.wellFormed = true) (hf : listing.find? name = some entry) :
    isEntryName name = true ∧ entry.wellFormed = true := by
  induction listing using cons_induction with
  | nil => cases hf
  | cons n e rest ih =>
    have hc := wellFormed_cons.1 h
    rw [find?_cons] at hf
    split at hf
    · rename_i heq
      subst heq
      cases hf
      exact ⟨hc.1, hc.2.1⟩
    · exact ih hc.2.2.2 hf

theorem wellFormed_inside {name : String} {listing : Listing} (h : listing.wellFormed = true) :
    (listing.inside name).wellFormed = true := by
  unfold inside
  split
  · rename_i hf
    exact (find?_some h hf).2
  · rfl

theorem wellFormed_plantAt {names : List String} {entry : Entry} {listing : Listing}
    (he : entry.wellFormed = true) (h : listing.wellFormed = true) :
    (listing.plantAt names entry).wellFormed = true := by
  fun_induction plantAt names entry listing with
  | case1 => exact h
  | case2 entry listing name hn => exact wellFormed_put hn he h
  | case3 => exact h
  | case4 entry listing name next rest hn ih => exact wellFormed_put hn (ih he (wellFormed_inside h)) h
  | case5 => exact h

theorem wellFormed_eraseAt {names : List String} {listing : Listing}
    (h : listing.wellFormed = true) : (listing.eraseAt names).wellFormed = true := by
  fun_induction eraseAt names listing with
  | case1 => exact h
  | case2 => exact wellFormed_erase h
  | case3 listing name next rest inside hf ih =>
    exact wellFormed_put (find?_some h hf).1 (ih (find?_some h hf).2) h
  | case4 => exact h

end DocAtlas.Listing
