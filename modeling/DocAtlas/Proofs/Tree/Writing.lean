import DocAtlas.Proofs.Tree.Growth

/-! # Writing to a path

A path leads to the file that is written through symbolic links, and the last of them may point at a
file that is yet to be made. What is written is read back along the same path, and every other file,
link and directory stays what it was.

* `Tree.IsSound` — what holds of every tree on a disk
* `Listing.Overwrites`, `Tree.Overwrites` — before and after a file was written at some names
* `Listing.overwrites_plantAt` — a file planted into a directory overwrites
* `Listing.Overwrites.stride` — walks before and after do the same up to the file
* `Listing.Overwrites.follow_of_approach` — the way to the file written is the way to the file read
* `Tree.write_spec` — what writing to a path does
-/

set_option autoImplicit false

namespace DocAtlas

/-! ## Before and after -/

/-- An entry without what lies below it. -/
def Entry.bare : Entry → Entry
  | .dir _ => .dir .nil
  | entry => entry

theorem Entry.isDir_bare (entry : Entry) : entry.bare.isDir = entry.isDir := by
  cases entry <;> rfl

/-- The listing `after` has a file at `names`, and all other files, links and directories of `before`,
and no more. -/
structure Listing.Overwrites (before : Listing) (names : List String) (bytes : ByteArray)
    (after : Listing) : Prop where
  file : after.entryAt? names = some (.file bytes)
  others : ∀ xs, xs ≠ names →
    (after.entryAt? xs).map Entry.bare = (before.entryAt? xs).map Entry.bare

structure Tree.Overwrites (before : Tree) (names : List String) (bytes : ByteArray) (after : Tree) :
    Prop where
  root : before.root.Overwrites names bytes after.root
  here_eq : after.here = before.here
  lost_eq : after.lost = before.lost

/-- Relative paths start in a directory that is there, or go up to one first, and no link leads along a
name with a NUL. -/
structure Tree.IsSound (tree : Tree) : Prop where
  base : tree.root.hasDir (tree.here.take (tree.here.length - tree.lost)) = true
  targets : ∀ names target, tree.root.entryAt? names = some (.link target) →
    '\x00' ∉ target.toList

/-- The stop once there is a file at `names`. -/
def Stop.withFile (names : List String) : Stop → Stop
  | .missing folder name =>
    if folder ++ [name] = names then .found names else .missing folder name
  | stop => stop

theorem Stop.withFile_of_file? {names : List String} {stop : Stop} (h : stop.file? = some names) :
    stop.withFile names = .found names := by
  cases stop with
  | found xs =>
    cases h
    rfl
  | missing folder name =>
    cases h
    rw [withFile, if_pos rfl]
  | link => cases h
  | removed => cases h
  | blocked => cases h

theorem Path.nul_notMem_of_mem_body {p : Path} (h : '\x00' ∉ p.text.toList) :
    ∀ s ∈ p.body, '\x00' ∉ s := by
  have hsegment : ∀ (text : List Char) (c : Char), ∀ s ∈ text.splitOn '/', c ∈ s → c ∈ text := by
    intro text c
    induction text with
    | nil => simp
    | cons d rest ih =>
      intro s hs hc
      rw [List.splitOn_cons_eq_if_modifyHead] at hs
      obtain ⟨first, others, hrest⟩ := List.exists_cons_of_ne_nil (List.splitOn_ne_nil '/' rest)
      rw [hrest] at hs ih
      split at hs
      · rcases List.mem_cons.1 hs with rfl | hs
        · cases hc
        · exact List.mem_cons_of_mem d (ih s hs hc)
      · rcases List.mem_cons.1 hs with rfl | hs
        · rcases List.mem_cons.1 hc with rfl | hc
          · exact List.mem_cons_self
          · exact List.mem_cons_of_mem d (ih first List.mem_cons_self hc)
        · exact List.mem_cons_of_mem d (ih s (List.mem_cons_of_mem first hs) hc)
  intro s hs hnul
  unfold body at hs
  split at hs
  · exact h (hsegment _ _ s (List.mem_of_mem_tail hs) hnul)
  · exact h (hsegment _ _ s hs hnul)

namespace Listing

variable {before after : Listing} {names : List String} {bytes : ByteArray}

theorem hasDir_congr {xs : List String}
    (h : (after.entryAt? xs).map Entry.bare = (before.entryAt? xs).map Entry.bare) :
    after.hasDir xs = before.hasDir xs := by
  have hbare : ∀ listing : Listing,
      listing.hasDir xs = ((listing.entryAt? xs).map Entry.bare).any Entry.isDir := by
    intro listing
    rw [hasDir, Option.any_map]
    simp [Entry.isDir_bare]
  rw [hbare, hbare, h]

theorem Overwrites.hasDir_eq (h : before.Overwrites names bytes after)
    (hdir : before.hasDir names = false) (xs : List String) : after.hasDir xs = before.hasDir xs := by
  by_cases hxs : xs = names
  · subst hxs
    rw [hdir, hasDir, h.file]
    rfl
  · exact hasDir_congr (h.others xs hxs)

/-- What is not a directory is the same before and after, unless it is what was written. -/
theorem Overwrites.entryAt?_eq (h : before.Overwrites names bytes after) {xs : List String}
    (hne : xs ≠ names) (hdir : before.hasDir xs = false) : after.entryAt? xs = before.entryAt? xs := by
  have hsame := h.others xs hne
  have hafter := (hasDir_congr hsame).trans hdir
  rw [hasDir] at hdir hafter
  cases hb : before.entryAt? xs with
  | none => simpa [hb] using hsame
  | some entry =>
    cases ha : after.entryAt? xs with
    | none => simp [ha, hb] at hsame
    | some other => cases entry <;> cases other <;> simp_all [Entry.bare, Entry.isDir]

/-! ## Planting a file -/

variable {listing : Listing} {name : String}

theorem overwrites_put_file (bytes : ByteArray) (hdir : listing.hasDir [name] = false) :
    listing.Overwrites [name] bytes (listing.put name (.file bytes)) := by
  refine ⟨find?_put_self name (.file bytes) listing, ?_⟩
  intro xs hne
  cases xs with
  | nil => rfl
  | cons x rest =>
    by_cases hx : name = x
    · subst hx
      cases rest with
      | nil => exact absurd rfl hne
      | cons y rest =>
        rw [entryAt?_of_not_hasDir (hasDir_put_file name bytes listing),
          entryAt?_of_not_hasDir hdir]
    · rw [entryAt?_put_of_ne _ rest hx]

theorem overwrites_put_dir {inside within : Listing} (hfind : listing.find? name = some (.dir inside))
    (h : inside.Overwrites names bytes within) :
    listing.Overwrites (name :: names) bytes (listing.put name (.dir within)) := by
  have hput := find?_put_self name (.dir within) listing
  refine ⟨by rw [entryAt?_cons_dir _ hput, h.file], ?_⟩
  intro xs hne
  cases xs with
  | nil => rfl
  | cons x rest =>
    by_cases hx : name = x
    · subst hx
      rw [entryAt?_cons_dir _ hput, entryAt?_cons_dir _ hfind]
      exact h.others rest fun heq => hne (by rw [heq])
    · rw [entryAt?_put_of_ne _ rest hx]

theorem overwrites_plantAt {folder : List String} (bytes : ByteArray)
    (hfolder : listing.hasDir folder = true) (hdir : listing.hasDir (folder ++ [name]) = false)
    (hnames : ∀ n ∈ folder ++ [name], isEntryName n = true) :
    listing.Overwrites (folder ++ [name]) bytes
      (listing.plantAt (folder ++ [name]) (.file bytes)) := by
  induction folder generalizing listing with
  | nil =>
    have hname := hnames name (by simp)
    rw [List.nil_append, plantAt, if_pos hname]
    exact overwrites_put_file bytes hdir
  | cons n folder ih =>
    obtain ⟨inside, hfind, hbelow⟩ := exists_dir_of_hasDir_cons hfolder
    rw [List.cons_append] at hdir hnames ⊢
    rw [hasDir_cons_dir _ hfind] at hdir
    have hrest := ih hbelow hdir fun m hm => hnames m (List.mem_cons_of_mem n hm)
    rw [plantAt_cons_dir (hnames n List.mem_cons_self) (by simp) hfind]
    exact overwrites_put_dir hfind hrest

/-! ## The way to the file -/

theorem stride_link {here folder : List String} {name : String} {target : Path}
    {segments rest : List (List Char)} (hhere : listing.hasDir here = true)
    (h : listing.stride here segments = .link folder name target rest) :
    listing.hasDir folder = true ∧ rest <:+ segments ∧
      listing.entryAt? (folder ++ [name]) = some (.link target.text) := by
  induction segments generalizing here with
  | nil => cases h
  | cons s more ih =>
    obtain ⟨there, hpasses⟩ | hhalts := listing.passes_or_halts here s
    · rw [hpasses.stride] at h
      obtain ⟨hdir, hremains, hentry⟩ := ih (hpasses.hasDir hhere) h
      exact ⟨hdir, hremains.trans (List.suffix_cons s more), hentry⟩
    · have hlast := hhalts more
      rw [h] at hlast
      cases hlast with
      | link _ _ hentry => exact ⟨hhere, List.suffix_cons s rest, hentry⟩

theorem stride_missing {here folder : List String} {name : String} {segments : List (List Char)}
    (hhere : listing.hasDir here = true)
    (h : listing.stride here segments = .missing folder name) :
    listing.hasDir folder = true ∧ listing.entryAt? (folder ++ [name]) = none ∧
      name.utf8ByteSize ≤ maxNameBytes ∧
      ∃ s ∈ segments, Component.ofSegment s = some (.normal name) := by
  induction segments generalizing here with
  | nil => cases h
  | cons s more ih =>
    obtain ⟨there, hpasses⟩ | hhalts := listing.passes_or_halts here s
    · rw [hpasses.stride] at h
      obtain ⟨hdir, hentry, hshort, t, ht, hname⟩ := ih (hpasses.hasDir hhere) h
      exact ⟨hdir, hentry, hshort, t, List.mem_cons_of_mem s ht, hname⟩
    · have hlast := hhalts more
      rw [h] at hlast
      cases hlast with
      | missing hs hshort hentry => exact ⟨hhere, hentry, hshort, s, List.mem_cons_self, hs⟩

variable {here : List String} {segments : List (List Char)}

theorem isEntryName_of_segment {s : List Char} {name : String}
    (h : Component.ofSegment s = some (.normal name)) (hs : '/' ∉ s ∧ '\x00' ∉ s)
    (hlength : name.utf8ByteSize ≤ maxNameBytes) : isEntryName name = true := by
  obtain ⟨rfl, h0, h1, h2⟩ := Component.ofSegment_eq_normal h
  simp [isEntryName, h0, h1, h2, hs.1, hs.2, hlength]

theorem stride_missing_isEntryName {folder : List String} {name : String}
    (hhere : listing.hasDir here = true) (hsegments : ∀ s ∈ segments, '/' ∉ s ∧ '\x00' ∉ s)
    (h : listing.stride here segments = .missing folder name) :
    listing.hasDir folder = true ∧ listing.entryAt? (folder ++ [name]) = none ∧
      isEntryName name = true := by
  obtain ⟨hfolder, hentry, hlength, s, hs, hname⟩ := stride_missing hhere h
  exact ⟨hfolder, hentry, isEntryName_of_segment hname (hsegments s hs) hlength⟩

theorem hasDir_of_place
    (hplace : ∀ entry, listing.entryAt? names = some entry → ∃ old, entry = .file old) :
    listing.hasDir names = false := by
  rw [hasDir]
  cases hentry : listing.entryAt? names with
  | none => rfl
  | some entry =>
    obtain ⟨old, rfl⟩ := hplace entry hentry
    rfl

/-- Before and after, a walk does the same up to the file that was written. -/
theorem Overwrites.stride (h : before.Overwrites names bytes after)
    (hplace : ∀ entry, before.entryAt? names = some entry → ∃ old, entry = .file old) :
    (∃ fault, before.stride here segments = .blocked fault) ∨
      after.stride here segments = (before.stride here segments).withFile names := by
  have hdirs := h.hasDir_eq (hasDir_of_place hplace)
  induction segments generalizing here with
  | nil => exact Or.inr rfl
  | cons s rest ih =>
    obtain ⟨there, hpasses⟩ | hhalts := before.passes_or_halts here s
    · have hafter : after.Passes here s there :=
        hpasses.of_hasDir fun xs hdir => (hdirs xs).trans hdir
      rw [hpasses.stride, hafter.stride]
      exact ih
    · have hlast := hhalts rest
      generalize before.stride here (s :: rest) = stop at hlast ⊢
      cases hlast with
      | tooLong => exact Or.inl ⟨_, rfl⟩
      | notFound => exact Or.inl ⟨_, rfl⟩
      | notDirectory => exact Or.inl ⟨_, rfl⟩
      | @missing name hs hshort hentry =>
        refine Or.inr ?_
        by_cases hnames : here ++ [name] = names
        · subst hnames
          rw [(Halts.file hs hshort h.file).stride, Stop.withFile, if_pos rfl]
        · have hsame := h.entryAt?_eq hnames (by rw [hasDir, hentry]; rfl)
          rw [(Halts.missing hs hshort (hsame.trans hentry)).stride, Stop.withFile, if_neg hnames]
      | @file name old hs hshort hentry =>
        refine Or.inr ?_
        by_cases hnames : here ++ [name] = names
        · subst hnames
          exact (Halts.file hs hshort h.file).stride
        · have hsame := h.entryAt?_eq hnames (by rw [hasDir, hentry]; rfl)
          exact (Halts.file hs hshort (hsame.trans hentry)).stride
      | @link name target _ hs hshort hentry =>
        have hnames : here ++ [name] ≠ names := by
          rintro rfl
          obtain ⟨old, hold⟩ := hplace _ hentry
          cases hold
        have hsame := h.entryAt?_eq hnames (by rw [hasDir, hentry]; rfl)
        exact Or.inr (Halts.link hs hshort (hsame.trans hentry)).stride

/-- The walk to a file that is to be written ends where a walk without links does, or goes on behind
a link. -/
theorem approach_cases {hops : Nat}
    (h : (listing.approach hops here segments).file? = some names) :
    listing.approach hops here segments = listing.stride here segments ∨
      ∃ left folder name target rest, hops = left + 1 ∧
        listing.stride here segments = .link folder name target rest ∧ target.text ≠ "" ∧
        listing.approach hops here segments =
          listing.approach left (if target.isAbsolute then [] else folder) (target.body ++ rest) := by
  unfold approach at h ⊢
  split at h
  · split at h
    · split at h <;> cases h
    · cases h
    · cases h
  · rename_i hslash
    rw [if_neg hslash]
    split at h
    · rename_i folder name target rest left hlink
      split at h
      · cases h
      · rename_i htext
        exact Or.inr ⟨left, folder, name, target, rest, rfl, hlink, htext,
          by rw [if_neg htext, approach.eq_def]⟩
    · cases h
    · rename_i hstop
      exact Or.inl rfl

theorem Overwrites.stride_found (h : before.Overwrites names bytes after)
    (hplace : ∀ entry, before.entryAt? names = some entry → ∃ old, entry = .file old)
    (hfile : (before.stride here segments).file? = some names) :
    after.stride here segments = .found names := by
  rcases h.stride hplace with ⟨fault, hblocked⟩ | hafter
  · rw [hblocked] at hfile
    cases hfile
  · rw [hafter, Stop.withFile_of_file? hfile]

theorem hasDir_start {folder : List String} (target : Path) (h : listing.hasDir folder = true) :
    listing.hasDir (if target.isAbsolute then [] else folder) = true := by
  split
  · rfl
  · exact h

/-- The walk to the file that was written, links included, finds it. -/
theorem Overwrites.follow_of_approach (h : before.Overwrites names bytes after)
    (hplace : ∀ entry, before.entryAt? names = some entry → ∃ old, entry = .file old) {hops : Nat}
    (hfile : (before.approach hops here segments).file? = some names) :
    after.follow true hops here segments = .found names := by
  induction hops using Nat.strongRecOn generalizing here segments with
  | ind hops ih =>
    rcases approach_cases hfile with hend | ⟨left, folder, name, target, rest, rfl, hlink, htext, hon⟩
    · rw [hend] at hfile
      exact follow_of_found (h.stride_found hplace hfile)
    · have hafter : after.stride here segments = .link folder name target rest := by
        rcases h.stride hplace with ⟨fault, hblocked⟩ | hafter
        · rw [hblocked] at hlink
          cases hlink
        · rw [hafter, hlink]
          rfl
      rw [hon] at hfile
      rw [follow, hafter]
      simp only [Bool.true_eq_false, and_false, if_false, if_neg htext]
      exact ih left (Nat.lt_succ_self left) hfile

/-- A file that is to be made has a possible name in a directory, where nothing has this name. -/
theorem approach_missing (hhere : listing.hasDir here = true)
    (htargets : ∀ xs target, listing.entryAt? xs = some (.link target) → '\x00' ∉ target.toList)
    (hsegments : ∀ s ∈ segments, '/' ∉ s ∧ '\x00' ∉ s) {hops : Nat} {folder : List String}
    {name : String} (h : listing.approach hops here segments = .missing folder name) :
    listing.hasDir folder = true ∧ listing.entryAt? (folder ++ [name]) = none ∧
      isEntryName name = true := by
  have hfile : (listing.approach hops here segments).file? = some (folder ++ [name]) := by
    rw [h]
    rfl
  induction hops using Nat.strongRecOn generalizing here segments with
  | ind hops ih =>
    rcases approach_cases hfile with hend | ⟨left, between, link, target, rest, rfl, hlink, -, hon⟩
    · exact stride_missing_isEntryName hhere hsegments (hend ▸ h)
    · obtain ⟨hfolder, hrest, hentry⟩ := stride_link hhere hlink
      refine ih left (Nat.lt_succ_self left) (hasDir_start target hfolder) (fun s hs => ?_) (hon ▸ h) (hon ▸ hfile)
      rcases List.mem_append.1 hs with hs | hs
      · exact ⟨Path.noSlash_of_mem_body s hs, Path.nul_notMem_of_mem_body (htargets _ _ hentry) s hs⟩
      · exact hsegments s (hrest.subset hs)

end Listing

namespace Tree

/-! ## Writing -/

variable {tree : Tree} {p : Path} {names : List String}

/-- In a sound tree the walk starts at a directory, and no segment of it has a slash or a NUL. -/
theorem IsSound.stop_cases (h : tree.IsSound) (p : Path) :
    (∃ stop : Stop, stop.file? = none ∧ ∀ walk, tree.stop walk p = stop) ∨
      ∃ here segments, tree.root.hasDir here = true ∧ (∀ s ∈ segments, '/' ∉ s ∧ '\x00' ∉ s) ∧
        ∀ walk, tree.stop walk p = walk here segments := by
  rcases tree.stop_cases p with hnone | ⟨hnul, here, segments, hhere, hrest, hall⟩
  · exact Or.inl hnone
  · refine Or.inr ⟨here, segments, ?_, fun s hs => ?_, hall⟩
    · rcases hhere with rfl | rfl
      · rfl
      · exact h.base
    · have hbody := hrest.subset hs
      exact ⟨Path.noSlash_of_mem_body s hbody, Path.nul_notMem_of_mem_body hnul s hbody⟩

/-- Writing replaces a file or makes one in a directory that is there. -/
theorem target_spec (h : tree.IsSound) (htarget : tree.target p = .ok names) :
    (tree.stop (tree.root.approach maxHops) p).file? = some names ∧
      (∀ entry, tree.root.entryAt? names = some entry → ∃ old, entry = .file old) ∧
      ∃ folder name, names = folder ++ [name] ∧ tree.root.hasDir folder = true ∧
        ∀ n ∈ names, isEntryName n = true := by
  unfold target at htarget
  split at htarget
  · rename_i found hstop
    split at htarget
    · rename_i bytes hentry
      cases htarget
      have hnames := (Listing.isEntryName_of_entryAt? tree.wellFormed hentry).1
      refine ⟨by rw [hstop]; rfl, fun entry he => ⟨bytes, by simpa [hentry] using he.symm⟩, ?_⟩
      rcases List.eq_nil_or_concat names with rfl | ⟨folder, name, rfl⟩
      · cases hentry
      · rw [List.concat_eq_append] at hentry hnames ⊢
        obtain ⟨inside, hinside, -⟩ := Listing.exists_dir_of_entryAt?_append (by simp) hentry
        exact ⟨folder, name, rfl, Listing.hasDir_iff.2 ⟨inside, hinside⟩, hnames⟩
    · cases htarget
  · rename_i folder name hstop
    cases htarget
    obtain ⟨hfolder, hnone, hname⟩ : tree.root.hasDir folder = true ∧
        tree.root.entryAt? (folder ++ [name]) = none ∧ isEntryName name = true := by
      rcases h.stop_cases p with ⟨stop, hno, hall⟩ | ⟨here, segments, hhere, hsegments, hall⟩
      · rw [hall] at hstop
        rw [hstop] at hno
        cases hno
      · rw [hall] at hstop
        exact Listing.approach_missing hhere h.targets hsegments hstop
    refine ⟨by rw [hstop]; rfl, fun entry hentry => by simp [hnone] at hentry, folder, name, rfl,
      hfolder, fun n hn => ?_⟩
    obtain ⟨inside, hinside⟩ := Listing.hasDir_iff.1 hfolder
    rcases List.mem_append.1 hn with hn | hn
    · exact (Listing.isEntryName_of_entryAt? tree.wellFormed hinside).1 n hn
    · rwa [List.mem_singleton.1 hn]
  · cases htarget
  · cases htarget
  · cases htarget

/-- What is written to a path is the file at the end of it, and nothing else changes. -/
theorem write_spec {content : String} {after : Tree} (h : tree.IsSound)
    (hwrite : tree.write p content = .ok after) :
    ∃ names, tree.target p = .ok names ∧ tree.Overwrites names content.toUTF8 after ∧
      after.locate p = .found names ∧ after.read p = .ok content.toUTF8 := by
  unfold write at hwrite
  cases htarget : tree.target p with
  | error fault =>
    rw [htarget] at hwrite
    cases hwrite
  | ok names =>
    rw [htarget] at hwrite
    cases hwrite
    obtain ⟨hfile, hplace, folder, name, rfl, hfolder, hnames⟩ := target_spec h htarget
    have hdir := Listing.hasDir_of_place hplace
    have hroot := Listing.overwrites_plantAt content.toUTF8 hfolder hdir hnames
    have hlocate : (tree.plantFile (folder ++ [name]) content.toUTF8).locate p =
        .found (folder ++ [name]) := by
      rcases h.stop_cases p with ⟨stop, hno, hall⟩ | ⟨here, segments, -, -, hall⟩
      · rw [hall, hno] at hfile
        cases hfile
      · rw [hall] at hfile
        have hfollow := hroot.follow_of_approach hplace hfile
        exact (hall _).trans hfollow
    refine ⟨folder ++ [name], rfl, ⟨hroot, rfl, rfl⟩, hlocate, ?_⟩
    have hentry : Tree.entry? (tree.plantFile (folder ++ [name]) content.toUTF8) p =
        some (.file content.toUTF8) := by
      unfold Tree.entry?
      rw [hlocate]
      exact hroot.file
    rw [read, hlocate, hentry]

end Tree

end DocAtlas
