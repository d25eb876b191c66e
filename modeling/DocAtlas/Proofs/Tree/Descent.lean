import DocAtlas.Tree.Basic
import DocAtlas.Proofs.Path.Spelling

/-! # Going down a tree

A path that leads to a directory without links on the way is found there, however its text spells
the names, unless the text is too long.

* `Listing.entryAt?_append` — looking up names one part after the other
* `Listing.Passes`, `Listing.Halts` — what one segment does to a walk: it goes on, or it stops there
* `Listing.passes_or_halts` — every segment does one of the two
* `Listing.stride_entry` — the walk along segments that spell such names
* `Tree.entry?_of_dir`, `Tree.isDir_iff_of_dir` — what the path stands for
-/

set_option autoImplicit false

namespace DocAtlas

/-! ## Names of entries -/

theorem isName_of_isEntryName {name : String} (h : isEntryName name = true) : IsName name := by
  simp only [isEntryName, Bool.and_eq_true, bne_iff_ne, Bool.not_eq_true',
    List.contains_eq_mem, decide_eq_false_iff_not] at h
  obtain ⟨⟨⟨⟨⟨h0, h1⟩, h2⟩, hslash⟩, -⟩, -⟩ := h
  exact ⟨h0, h1, h2, hslash⟩

theorem nul_notMem_of_isEntryName {name : String} (h : isEntryName name = true) :
    '\x00' ∉ name.toList := by
  simp only [isEntryName, Bool.and_eq_true, Bool.not_eq_true', List.contains_eq_mem,
    decide_eq_false_iff_not] at h
  exact h.1.2

theorem utf8ByteSize_le_of_isEntryName {name : String} (h : isEntryName name = true) :
    name.utf8ByteSize ≤ maxNameBytes := by
  simp only [isEntryName, Bool.and_eq_true, decide_eq_true_eq] at h
  exact h.2

namespace Listing

/-! ## Looking up names -/

theorem entryAt?_cons_dir {listing inside : Listing} {name : String} (rest : List String)
    (h : listing.find? name = some (.dir inside)) :
    listing.entryAt? (name :: rest) = inside.entryAt? rest := by
  cases rest with
  | nil => exact h
  | cons next rest => rw [entryAt?, h]

/-- Behind a name with more names behind it there is a directory. -/
theorem find?_of_entryAt?_cons {listing : Listing} {name : String} {rest : List String} {entry : Entry}
    (hrest : rest ≠ []) (h : listing.entryAt? (name :: rest) = some entry) :
    ∃ inside, listing.find? name = some (.dir inside) ∧ inside.entryAt? rest = some entry := by
  obtain ⟨next, others, rfl⟩ := List.exists_cons_of_ne_nil hrest
  rw [entryAt?] at h
  split at h
  · rename_i inside hfind
    exact ⟨inside, hfind, h⟩
  · cases h

theorem entryAt?_append {listing inside : Listing} {xs : List String} (ys : List String)
    (h : listing.entryAt? xs = some (.dir inside)) :
    listing.entryAt? (xs ++ ys) = inside.entryAt? ys := by
  induction xs generalizing listing with
  | nil =>
    cases h
    rfl
  | cons x xs ih =>
    by_cases hxs : xs = []
    · subst hxs
      rw [List.singleton_append, entryAt?_cons_dir ys h]
    · obtain ⟨between, hfind, hbelow⟩ := find?_of_entryAt?_cons hxs h
      rw [List.cons_append, entryAt?_cons_dir _ hfind, ih hbelow]

/-- On the way to an entry there are directories. -/
theorem exists_dir_of_entryAt?_append {listing : Listing} {xs ys : List String} {entry : Entry}
    (hys : ys ≠ []) (h : listing.entryAt? (xs ++ ys) = some entry) :
    ∃ inside, listing.entryAt? xs = some (.dir inside) ∧ inside.entryAt? ys = some entry := by
  induction xs generalizing listing with
  | nil => exact ⟨listing, rfl, h⟩
  | cons x xs ih =>
    obtain ⟨between, hfind, hbelow⟩ := find?_of_entryAt?_cons (by simp [hys]) h
    obtain ⟨inside, hinside, hentry⟩ := ih hbelow
    exact ⟨inside, by rw [entryAt?_cons_dir _ hfind, hinside], hentry⟩

theorem isEntryName_of_entryAt? {listing : Listing} {names : List String} {entry : Entry}
    (hw : listing.wellFormed = true) (h : listing.entryAt? names = some entry) :
    (∀ name ∈ names, isEntryName name = true) ∧ entry.wellFormed = true := by
  induction names generalizing listing with
  | nil =>
    cases h
    exact ⟨by simp, hw⟩
  | cons x xs ih =>
    by_cases hxs : xs = []
    · subst hxs
      obtain ⟨hx, hentry⟩ := find?_some hw h
      exact ⟨by simpa using hx, hentry⟩
    · obtain ⟨between, hfind, hbelow⟩ := find?_of_entryAt?_cons hxs h
      obtain ⟨hx, hbetween⟩ := find?_some hw hfind
      obtain ⟨hnames, hentry⟩ := ih hbetween hbelow
      exact ⟨by simpa [hx] using hnames, hentry⟩

/-! ## One segment of a walk -/

/-- The walk goes on from `here` past the segment, to the directory behind it. -/
inductive Passes (root : Listing) (here : List String) (s : List Char) : List String → Prop where
  | idle (hs : Component.ofSegment s = none) : Passes root here s here
  | parent (hs : Component.ofSegment s = some .parent) : Passes root here s here.dropLast
  | dir {name : String} {inside : Listing} (hs : Component.ofSegment s = some (.normal name))
      (hshort : name.utf8ByteSize ≤ maxNameBytes)
      (hentry : root.entryAt? (here ++ [name]) = some (.dir inside)) :
      Passes root here s (here ++ [name])

/-- The walk that has come to `here` stops at the segment, with other segments behind it. -/
inductive Halts (root : Listing) (here : List String) (s : List Char) :
    List (List Char) → Stop → Prop where
  | tooLong {name : String} {rest : List (List Char)}
      (hs : Component.ofSegment s = some (.normal name)) (hlong : maxNameBytes < name.utf8ByteSize) :
      Halts root here s rest (.blocked .nameTooLong)
  | missing {name : String} (hs : Component.ofSegment s = some (.normal name))
      (hshort : name.utf8ByteSize ≤ maxNameBytes) (hentry : root.entryAt? (here ++ [name]) = none) :
      Halts root here s [] (.missing here name)
  | notFound {name : String} {rest : List (List Char)}
      (hs : Component.ofSegment s = some (.normal name)) (hshort : name.utf8ByteSize ≤ maxNameBytes)
      (hentry : root.entryAt? (here ++ [name]) = none) (hrest : rest ≠ []) :
      Halts root here s rest (.blocked .notFound)
  | file {name : String} {bytes : ByteArray} (hs : Component.ofSegment s = some (.normal name))
      (hshort : name.utf8ByteSize ≤ maxNameBytes)
      (hentry : root.entryAt? (here ++ [name]) = some (.file bytes)) :
      Halts root here s [] (.found (here ++ [name]))
  | notDirectory {name : String} {bytes : ByteArray} {rest : List (List Char)}
      (hs : Component.ofSegment s = some (.normal name)) (hshort : name.utf8ByteSize ≤ maxNameBytes)
      (hentry : root.entryAt? (here ++ [name]) = some (.file bytes)) (hrest : rest ≠ []) :
      Halts root here s rest (.blocked .notDirectory)
  | link {name target : String} {rest : List (List Char)}
      (hs : Component.ofSegment s = some (.normal name)) (hshort : name.utf8ByteSize ≤ maxNameBytes)
      (hentry : root.entryAt? (here ++ [name]) = some (.link target)) :
      Halts root here s rest (.link here name ⟨target⟩ rest)

section Steps

variable {root : Listing} {here there : List String} {s : List Char} {rest : List (List Char)}
  {stop : Stop}

theorem Passes.stride (h : root.Passes here s there) (rest : List (List Char)) :
    root.stride here (s :: rest) = root.stride there rest := by
  cases h with
  | idle hs => simp only [Listing.stride, hs]
  | parent hs => simp only [Listing.stride, hs]
  | dir hs hshort hentry => simp only [Listing.stride, hs, if_neg (Nat.not_lt.2 hshort), hentry]

theorem Halts.stride (h : root.Halts here s rest stop) : root.stride here (s :: rest) = stop := by
  cases h with
  | tooLong hs hlong => simp only [Listing.stride, hs, if_pos hlong]
  | missing hs hshort hentry =>
    simp only [Listing.stride, hs, if_neg (Nat.not_lt.2 hshort), hentry, if_true]
  | notFound hs hshort hentry hrest =>
    simp only [Listing.stride, hs, if_neg (Nat.not_lt.2 hshort), hentry, if_neg hrest]
  | file hs hshort hentry =>
    simp only [Listing.stride, hs, if_neg (Nat.not_lt.2 hshort), hentry, if_true]
  | notDirectory hs hshort hentry hrest =>
    simp only [Listing.stride, hs, if_neg (Nat.not_lt.2 hshort), hentry, if_neg hrest]
  | link hs hshort hentry => simp only [Listing.stride, hs, if_neg (Nat.not_lt.2 hshort), hentry]

/-- Past every segment the walk goes on, whatever stands behind it, or it stops there. -/
theorem passes_or_halts (root : Listing) (here : List String) (s : List Char) :
    (∃ there, root.Passes here s there) ∨
      ∀ rest, root.Halts here s rest (root.stride here (s :: rest)) := by
  have hhalts : (∀ rest, ∃ stop, root.Halts here s rest stop) →
      ∀ rest, root.Halts here s rest (root.stride here (s :: rest)) := by
    intro hstop rest
    obtain ⟨stop, h⟩ := hstop rest
    rwa [h.stride]
  cases hs : Component.ofSegment s with
  | none => exact Or.inl ⟨_, .idle hs⟩
  | some c =>
    obtain rfl | ⟨name, rfl⟩ := Component.ofSegment_cases hs
    · exact Or.inl ⟨_, .parent hs⟩
    by_cases hlong : maxNameBytes < name.utf8ByteSize
    · exact Or.inr (hhalts fun rest => ⟨_, .tooLong hs hlong⟩)
    have hshort := Nat.not_lt.1 hlong
    cases hentry : root.entryAt? (here ++ [name]) with
    | none =>
      refine Or.inr (hhalts fun rest => ?_)
      by_cases hrest : rest = []
      · subst hrest
        exact ⟨_, .missing hs hshort hentry⟩
      · exact ⟨_, .notFound hs hshort hentry hrest⟩
    | some entry =>
      cases entry with
      | dir inside => exact Or.inl ⟨_, .dir hs hshort hentry⟩
      | link target => exact Or.inr (hhalts fun rest => ⟨_, .link hs hshort hentry⟩)
      | file bytes =>
        refine Or.inr (hhalts fun rest => ?_)
        by_cases hrest : rest = []
        · subst hrest
          exact ⟨_, .file hs hshort hentry⟩
        · exact ⟨_, .notDirectory hs hshort hentry hrest⟩

/-- A segment that stops a walk names what is no directory, or is too long for a name. -/
theorem Halts.exists_name (h : root.Halts here s rest stop) :
    ∃ name, Component.ofSegment s = some (.normal name) ∧
      (maxNameBytes < name.utf8ByteSize ∨ name.utf8ByteSize ≤ maxNameBytes ∧
        ∀ inside, root.entryAt? (here ++ [name]) ≠ some (.dir inside)) := by
  cases h with
  | tooLong hs hlong => exact ⟨_, hs, Or.inl hlong⟩
  | missing hs hshort hentry => exact ⟨_, hs, Or.inr ⟨hshort, by simp [hentry]⟩⟩
  | notFound hs hshort hentry _ => exact ⟨_, hs, Or.inr ⟨hshort, by simp [hentry]⟩⟩
  | file hs hshort hentry => exact ⟨_, hs, Or.inr ⟨hshort, by simp [hentry]⟩⟩
  | notDirectory hs hshort hentry _ => exact ⟨_, hs, Or.inr ⟨hshort, by simp [hentry]⟩⟩
  | link hs hshort hentry => exact ⟨_, hs, Or.inr ⟨hshort, by simp [hentry]⟩⟩

theorem follow_of_found {segments : List (List Char)} {names : List String} {final : Bool} {hops : Nat}
    (h : root.stride here segments = .found names) :
    root.follow final hops here segments = .found names := by
  cases hops with
  | zero => rw [follow, h]
  | succ hops => rw [follow, h]

end Steps

/-! ## Walks without links -/

/-- The walk along segments that spell the way to a file or directory ends there. Only a slash behind
the name of a file stops it. -/
theorem stride_entry {root : Listing} (here : List String) {names : List String}
    {segments : List (List Char)} {entry : Entry} (hroot : root.wellFormed = true)
    (hnames : segments.filterMap Component.ofSegment = names.map .normal)
    (h : root.entryAt? (here ++ names) = some entry) (hlink : ∀ target, entry ≠ .link target) :
    root.stride here segments = .found (here ++ names) ∨
      (∃ bytes, entry = .file bytes) ∧ root.stride here segments = .blocked .notDirectory := by
  induction segments generalizing here names with
  | nil =>
    have hnil : names = [] := by simpa using hnames.symm
    subst hnil
    rw [List.append_nil]
    exact Or.inl rfl
  | cons s rest ih =>
    cases hs : Component.ofSegment s with
    | none =>
      rw [List.filterMap_cons_none hs] at hnames
      rw [(Passes.idle hs).stride]
      exact ih here hnames h
    | some c =>
      rw [List.filterMap_cons_some hs] at hnames
      obtain ⟨name, names, rfl⟩ : ∃ name more, names = name :: more :=
        List.exists_cons_of_ne_nil (by rintro rfl; simp at hnames)
      obtain ⟨rfl, hrest⟩ := List.cons.inj hnames
      have hassoc : here ++ name :: names = (here ++ [name]) ++ names := by simp
      rw [hassoc] at h ⊢
      have hname : isEntryName name = true := (isEntryName_of_entryAt? hroot h).1 name (by simp)
      have hshort := utf8ByteSize_le_of_isEntryName hname
      by_cases hdir : ∃ inside, root.entryAt? (here ++ [name]) = some (.dir inside)
      · obtain ⟨inside, hinside⟩ := hdir
        rw [(Passes.dir hs hshort hinside).stride]
        exact ih (here ++ [name]) hrest h
      · -- a name that leads to no directory is the last one, and it is the file
        have hnil : names = [] := by
          by_contra hnil
          obtain ⟨inside, hinside, -⟩ := exists_dir_of_entryAt?_append hnil h
          exact hdir ⟨inside, hinside⟩
        subst hnil
        rw [List.append_nil] at h ⊢
        cases entry with
        | dir inside => exact absurd ⟨inside, h⟩ hdir
        | link target => exact absurd rfl (hlink target)
        | file bytes =>
          by_cases hlast : rest = []
          · subst hlast
            exact Or.inl (Halts.file hs hshort h).stride
          · exact Or.inr ⟨⟨bytes, rfl⟩, (Halts.notDirectory hs hshort h hlast).stride⟩

end Listing

namespace Tree

/-! ## Paths -/

theorem exists_mem_splitOn {c d : Char} (hne : d ≠ c) {s : List Char} (h : d ∈ s) :
    ∃ segment ∈ s.splitOn c, d ∈ segment := by
  induction s with
  | nil => simp at h
  | cons e rest ih =>
    rw [List.splitOn_cons_eq_if_modifyHead]
    obtain ⟨first, others, hrest⟩ := List.exists_cons_of_ne_nil (List.splitOn_ne_nil c rest)
    rw [hrest] at ih ⊢
    rcases List.mem_cons.1 h with rfl | h
    · rw [if_neg (by simpa using hne)]
      exact ⟨d :: first, by simp, by simp⟩
    · obtain ⟨segment, hsegment, hd⟩ := ih h
      split
      · exact ⟨segment, List.mem_cons_of_mem [] hsegment, hd⟩
      · rcases List.mem_cons.1 hsegment with rfl | hsegment
        · exact ⟨e :: segment, by simp, by simp [hd]⟩
        · exact ⟨segment, by simp [hsegment], hd⟩

theorem nul_notMem_of_spells {p : Path} {names : List String} (hp : p.Spells names)
    (h : ∀ name ∈ names, isEntryName name = true) : '\x00' ∉ p.text.toList := by
  intro hnul
  obtain ⟨s, hs, hmem⟩ := exists_mem_splitOn (c := '/') (by decide) hnul
  have hsome : Component.ofSegment s ≠ none := by
    intro hnone
    have hidle := (Component.ofSegment_eq_none s).1 hnone
    rcases (by simpa [Path.isIdle] using hidle : s = [] ∨ s = ['.']) with rfl | rfl
    · simp at hmem
    · simp at hmem
  obtain ⟨c, hc⟩ := Option.ne_none_iff_exists'.1 hsome
  have hmemc : c ∈ p.segments.filterMap Component.ofSegment := List.mem_filterMap.2 ⟨s, hs, hc⟩
  rw [hp.filterMap_segments] at hmemc
  obtain ⟨name, hname, rfl⟩ := List.mem_map.1 hmemc
  obtain ⟨rfl, -⟩ := Component.ofSegment_eq_normal hc
  exact nul_notMem_of_isEntryName (h name hname) hmem

variable {tree : Tree} {p : Path} {names : List String}

/-- A walk along a path starts at the root or where the tree is, if the path can be looked up. -/
theorem stop_eq (hnul : '\x00' ∉ p.text.toList) (htext : p.text ≠ "") (hshort : isTooLong p = false)
    (walk : List String → List (List Char) → Stop) :
    tree.stop walk p =
      if p.isAbsolute then walk [] p.body else climb walk tree.here tree.lost p.body := by
  rw [stop, if_neg (by simpa using hnul), if_neg htext, if_neg (by simp [hshort])]

theorem of_stop_found {walk : List String → List (List Char) → Stop}
    (h : tree.stop walk p = .found names) :
    '\x00' ∉ p.text.toList ∧ p.text ≠ "" ∧ isTooLong p = false := by
  unfold stop at h
  split at h
  · cases h
  · rename_i hnul
    split at h
    · cases h
    · rename_i htext
      split at h
      · cases h
      · rename_i hshort
        exact ⟨by simpa using hnul, htext, Bool.eq_false_iff.2 hshort⟩

/-- A path without NUL that starts with a slash is looked up from the root if it is not too long. -/
theorem locate_eq (hp : p.Spells names) (hnul : '\x00' ∉ p.text.toList) :
    tree.locate p =
      if isTooLong p then .blocked .nameTooLong else tree.root.follow true maxHops [] p.body := by
  unfold locate stop
  rw [if_neg (by simpa using hnul), if_neg (Path.text_ne_of_absolute hp.isAbsolute),
    if_pos hp.isAbsolute]

theorem filterMap_body_of_spells (hp : p.Spells names) :
    p.body.filterMap Component.ofSegment = names.map .normal := by
  rw [Path.filterMap_body, hp.filterMap_segments]

theorem stride_of_dir {inside : Listing} {segments : List (List Char)}
    (hnames : segments.filterMap Component.ofSegment = names.map .normal)
    (h : tree.root.entryAt? names = some (.dir inside)) :
    tree.root.stride [] segments = .found names := by
  rcases Listing.stride_entry [] tree.wellFormed hnames h (fun _ e => by cases e) with
    hfound | ⟨⟨bytes, hfile⟩, -⟩
  · exact hfound
  · cases hfile

/-- The directory at the end of a way without links is found if the path is not too long. -/
theorem locate_of_dir {inside : Listing} (hp : p.Spells names)
    (h : tree.root.entryAt? names = some (.dir inside)) :
    tree.locate p = if isTooLong p then .blocked .nameTooLong else .found names := by
  obtain ⟨hnames, -⟩ := Listing.isEntryName_of_entryAt? tree.wellFormed h
  rw [locate_eq hp (nul_notMem_of_spells hp hnames)]
  rw [Listing.follow_of_found (stride_of_dir (filterMap_body_of_spells hp) h)]

theorem entry?_of_dir {inside : Listing} (hp : p.Spells names)
    (h : tree.root.entryAt? names = some (.dir inside)) :
    tree.entry? p = if isTooLong p then none else some (.dir inside) := by
  unfold entry?
  rw [locate_of_dir hp h]
  by_cases hlong : isTooLong p = true
  · simp [hlong]
  · simp [hlong, h]

theorem isDir_iff_of_dir {inside : Listing} (hp : p.Spells names)
    (h : tree.root.entryAt? names = some (.dir inside)) :
    tree.isDir p = true ↔ isTooLong p = false := by
  unfold isDir
  rw [entry?_of_dir hp h]
  by_cases hlong : isTooLong p = true
  · simp [hlong]
  · simp [hlong]

theorem isFile_of_dir {inside : Listing} (hp : p.Spells names)
    (h : tree.root.entryAt? names = some (.dir inside)) : tree.isFile p = false := by
  unfold isFile
  rw [entry?_of_dir hp h]
  by_cases hlong : isTooLong p = true
  · simp [hlong]
  · simp [hlong]

/-- What is found is found along a path that is not too long. -/
theorem isTooLong_of_present {entry : Entry} (h : tree.entry? p = some entry) :
    isTooLong p = false := by
  by_contra hlong
  rw [Bool.not_eq_false] at hlong
  have hblocked : ∃ fault, tree.locate p = .blocked fault := by
    unfold locate stop
    rw [if_pos hlong]
    split
    · exact ⟨_, rfl⟩
    · split
      · exact ⟨_, rfl⟩
      · exact ⟨_, rfl⟩
  obtain ⟨fault, hfault⟩ := hblocked
  unfold entry? at h
  rw [hfault] at h
  cases h

theorem entry?_of_isDir (h : tree.isDir p = true) :
    ∃ inside, tree.entry? p = some (.dir inside) := by
  unfold isDir at h
  split at h
  · rename_i inside hentry
    exact ⟨inside, hentry⟩
  · cases h

theorem entry?_of_isFile (h : tree.isFile p = true) :
    ∃ bytes, tree.entry? p = some (.file bytes) := by
  unfold isFile at h
  split at h
  · rename_i bytes hentry
    exact ⟨bytes, hentry⟩
  · cases h

theorem isTooLong_of_isDir (h : tree.isDir p = true) : isTooLong p = false := by
  obtain ⟨inside, hentry⟩ := entry?_of_isDir h
  exact isTooLong_of_present hentry

/-! ## Paths made of names -/

theorem spells_slash : (Path.mk "/").Spells [] := by
  unfold Path.Spells
  decide

theorem spells_pathOf (h : ∀ name ∈ names, IsName name) : (pathOf names).Spells names := by
  have hbelow := spells_slash.below h
  rwa [List.nil_append] at hbelow

end Tree

end DocAtlas
