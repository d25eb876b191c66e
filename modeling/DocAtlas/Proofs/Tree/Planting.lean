import DocAtlas.Proofs.Tree.Agreement

/-! # Writing a file

A file that is written into a directory changes nothing but the file at its names.

* `Listing.find?_put` — one entry of a directory after another was put there
* `Listing.plantAt_cons_dir` — what is planted below a directory is put in its place
* `Listing.AgreeOn.plantAt` — the listing before and after agree on all that is kept
* `Tree.agreeOn_plantFile` — the same of a tree
-/

set_option autoImplicit false

namespace DocAtlas

namespace Listing

theorem find?_put (name x : String) (entry : Entry) (listing : Listing) :
    (listing.put name entry).find? x = if name = x then some entry else listing.find? x := by
  induction listing using cons_induction with
  | nil => rw [put, find?_cons]
  | cons n e rest ih =>
    rw [put_cons]
    split
    · rw [find?_cons]
    · split
      · rename_i hname
        subst hname
        rw [find?_cons, find?_cons]
        by_cases hx : name = x
        · rw [if_pos hx, if_pos hx]
        · rw [if_neg hx, if_neg hx, if_neg hx]
      · rename_i hname
        rw [find?_cons, find?_cons, ih]
        by_cases hx : n = x
        · subst hx
          rw [if_pos rfl, if_pos rfl, if_neg hname]
        · rw [if_neg hx, if_neg hx]

theorem find?_put_self (name : String) (entry : Entry) (listing : Listing) :
    (listing.put name entry).find? name = some entry := by
  rw [find?_put, if_pos rfl]

theorem isUnlinked_put {name : String} {entry : Entry} {listing : Listing}
    (h : listing.isUnlinked = true) (hlink : ∀ target, entry ≠ .link target)
    (hinside : ∀ inside, entry = .dir inside → inside.isUnlinked = true) :
    (listing.put name entry).isUnlinked = true := by
  induction listing using cons_induction with
  | nil => exact isUnlinked_cons.2 ⟨hlink, hinside, rfl⟩
  | cons n e rest ih =>
    obtain ⟨he, hd, hrest⟩ := isUnlinked_cons.1 h
    rw [put_cons]
    split
    · exact isUnlinked_cons.2 ⟨hlink, hinside, h⟩
    · split
      · exact isUnlinked_cons.2 ⟨hlink, hinside, hrest⟩
      · exact isUnlinked_cons.2 ⟨he, hd, ih hrest⟩

variable {keeps : List String → Bool} {listing inside : Listing} {name : String}
  {names : List String}

/-! ## Behind a directory -/

theorem hasDir_cons_dir (names : List String) (hfind : listing.find? name = some (.dir inside)) :
    listing.hasDir (name :: names) = inside.hasDir names := by
  rw [hasDir, hasDir, entryAt?_cons_dir names hfind]

theorem fileAt?_cons_dir (names : List String) (hfind : listing.find? name = some (.dir inside)) :
    listing.fileAt? (name :: names) = inside.fileAt? names := by
  rw [fileAt?, fileAt?, entryAt?_cons_dir names hfind]

theorem exists_dir_of_hasDir_cons (h : listing.hasDir (name :: names) = true) :
    ∃ inside, listing.find? name = some (.dir inside) ∧ inside.hasDir names = true := by
  obtain ⟨last, hlast⟩ := hasDir_iff.1 h
  obtain ⟨inside, hfind, hbelow⟩ := find?_dir_of_entryAt? hlast
  exact ⟨inside, hfind, hasDir_iff.2 ⟨last, hbelow⟩⟩

theorem plantAt_cons_dir {entry : Entry} (hname : isEntryName name = true) (hnames : names ≠ [])
    (hfind : listing.find? name = some (.dir inside)) :
    listing.plantAt (name :: names) entry =
      listing.put name (.dir (inside.plantAt names entry)) := by
  obtain ⟨next, rest, rfl⟩ := List.exists_cons_of_ne_nil hnames
  rw [plantAt, if_pos hname, Listing.inside, hfind]

theorem hasDir_put_file (name : String) (bytes : ByteArray) (listing : Listing) :
    (listing.put name (.file bytes)).hasDir [name] = false := by
  rw [hasDir, entryAt?, find?_put_self]
  rfl

/-! ## What is kept -/

/-- What is put under a name matters for the names that start with it only. -/
theorem AgreeOn.put {entry : Entry} (h : listing.isUnlinked = true)
    (hlink : ∀ target, entry ≠ .link target)
    (hinside : ∀ inside, entry = .dir inside → inside.isUnlinked = true)
    (hdirs : ∀ xs, listing.hasDir (name :: xs) = (listing.put name entry).hasDir (name :: xs))
    (hfiles : ∀ xs, keeps (name :: xs) = true →
      listing.fileAt? (name :: xs) = (listing.put name entry).fileAt? (name :: xs)) :
    listing.AgreeOn keeps (listing.put name entry) := by
  have hbehind : ∀ x xs, x ≠ name →
      (listing.put name entry).entryAt? (x :: xs) = listing.entryAt? (x :: xs) := by
    intro x xs hx
    exact entryAt?_congr xs (by rw [find?_put, if_neg (Ne.symm hx)])
  refine ⟨h, isUnlinked_put h hlink hinside, ?_, ?_⟩
  · intro names
    cases names with
    | nil => rfl
    | cons x xs =>
      by_cases hx : x = name
      · subst hx
        exact hdirs xs
      · rw [hasDir, hasDir, hbehind x xs hx]
  · intro names hkeeps
    cases names with
    | nil => rfl
    | cons x xs =>
      by_cases hx : x = name
      · subst hx
        exact hfiles xs hkeeps
      · rw [fileAt?, fileAt?, hbehind x xs hx]

/-- A name of a directory may be given to other contents that agree with the old ones. -/
theorem AgreeOn.put_dir {within : Listing} (h : listing.isUnlinked = true)
    (hfind : listing.find? name = some (.dir inside))
    (hagree : inside.AgreeOn (fun more => keeps (name :: more)) within) :
    listing.AgreeOn keeps (listing.put name (.dir within)) := by
  have hput := find?_put_self name (.dir within) listing
  refine AgreeOn.put h ?_ ?_ (fun xs => ?_) fun xs hkeeps => ?_
  · rintro target ⟨⟩
  · rintro _ ⟨⟩
    exact hagree.unlinked_other
  · rw [hasDir_cons_dir xs hfind, hasDir_cons_dir xs hput]
    exact hagree.dirs xs
  · rw [fileAt?_cons_dir xs hfind, fileAt?_cons_dir xs hput]
    exact hagree.files xs hkeeps

theorem entryAt?_of_not_hasDir (h : listing.hasDir [name] = false) (x : String) (xs : List String) :
    listing.entryAt? (name :: x :: xs) = none := by
  cases hentry : listing.entryAt? (name :: x :: xs) with
  | none => rfl
  | some entry =>
    obtain ⟨inside, hfind, -⟩ := find?_of_entryAt?_cons (List.cons_ne_nil x xs) hentry
    have hdir : listing.hasDir [name] = true := hasDir_iff.2 ⟨inside, hfind⟩
    rw [h] at hdir
    cases hdir

/-- A name that stands for no directory may be given to a file that is not kept. -/
theorem AgreeOn.put_file (bytes : ByteArray) (h : listing.isUnlinked = true)
    (hdir : listing.hasDir [name] = false) (hkeeps : keeps [name] = false) :
    listing.AgreeOn keeps (listing.put name (.file bytes)) := by
  have hfile := hasDir_put_file name bytes listing
  refine AgreeOn.put h ?_ ?_ (fun xs => ?_) fun xs hkept => ?_
  · rintro target ⟨⟩
  · rintro inside ⟨⟩
  · cases xs with
    | nil => rw [hdir, hfile]
    | cons x xs => rw [hasDir, hasDir, entryAt?_of_not_hasDir hdir, entryAt?_of_not_hasDir hfile]
  · cases xs with
    | nil =>
      rw [hkeeps] at hkept
      cases hkept
    | cons x xs => rw [fileAt?, fileAt?, entryAt?_of_not_hasDir hdir, entryAt?_of_not_hasDir hfile]

/-- A file that is not kept can be written into a directory. -/
theorem AgreeOn.plantAt {folder : List String} (bytes : ByteArray) (h : listing.isUnlinked = true)
    (hfolder : listing.hasDir folder = true) (hdir : listing.hasDir (folder ++ [name]) = false)
    (hnames : ∀ n ∈ folder ++ [name], isEntryName n = true) (hkeeps : keeps (folder ++ [name]) = false) :
    listing.AgreeOn keeps (listing.plantAt (folder ++ [name]) (.file bytes)) := by
  induction folder generalizing listing keeps with
  | nil =>
    rw [List.nil_append, Listing.plantAt, if_pos (hnames name (by simp))]
    exact AgreeOn.put_file bytes h hdir hkeeps
  | cons n folder ih =>
    obtain ⟨inside, hfind, hbelow⟩ := exists_dir_of_hasDir_cons hfolder
    rw [List.cons_append] at hdir hkeeps hnames ⊢
    rw [hasDir_cons_dir _ hfind] at hdir
    have hagree : inside.AgreeOn (fun more => keeps (n :: more))
        (inside.plantAt (folder ++ [name]) (.file bytes)) :=
      ih ((isUnlinked_of_find? h hfind).2 inside rfl) hbelow hdir
        (fun m hm => hnames m (List.mem_cons_of_mem n hm)) hkeeps
    rw [plantAt_cons_dir (hnames n List.mem_cons_self) (by simp) hfind]
    exact AgreeOn.put_dir h hfind hagree

end Listing

/-- Trees before and after a file is written into a directory agree on everything that does not ask for
the file. -/
theorem Tree.agreeOn_plantFile {keeps : List String → Bool} {tree : Tree} {folder : List String}
    {name : String} (bytes : ByteArray) (h : tree.root.isUnlinked = true)
    (hfolder : tree.root.hasDir folder = true) (hdir : tree.root.hasDir (folder ++ [name]) = false)
    (hname : isEntryName name = true) (hkeeps : keeps (folder ++ [name]) = false) :
    tree.root.AgreeOn keeps (tree.plantFile (folder ++ [name]) bytes).root := by
  obtain ⟨inside, hinside⟩ := Listing.hasDir_iff.1 hfolder
  have hnames := (Listing.isEntryName_of_entryAt? tree.wellFormed hinside).1
  refine Listing.AgreeOn.plantAt bytes h hfolder hdir (fun n hn => ?_) hkeeps
  rcases List.mem_append.1 hn with hn | hn
  · exact hnames n hn
  · rw [List.mem_singleton.1 hn]
    exact hname

end DocAtlas
