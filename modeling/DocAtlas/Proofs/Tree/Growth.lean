import DocAtlas.Proofs.Layout.Relevance
import DocAtlas.Proofs.Tree.Planting
import DocAtlas.Proofs.Tree.Reading

/-! # A file that is added

A file is added where nothing was, together with the directories on the way to it. All directories and
files stay what they were and are found under every path that led to them, and the walks through the
directories meet the new file besides those they met before.

* `Listing.hasRoom` — whether a file can be added at a list of names
* `Listing.Gains` — the listing before and after: the same but for the new file and its directories
* `Listing.gains_plantAt`, `Tree.gains_plantFile` — what adding a file does
* `Listing.Gains.stride`, `Listing.Gains.isFile`, `Listing.Gains.isDir` — paths lead where they led
* `Listing.Gains.mem_sources`, `Listing.Gains.mem_sources_back` — what walks meet
* `Listing.Gains.source?_eq` — and what they find there
-/

set_option autoImplicit false

namespace DocAtlas

namespace Listing

/-- Whether a file can be added at a list of names: nothing is there, and nothing but directories is on
the way. -/
def hasRoom : List String → Listing → Bool
  | [], _ => false
  | [name], listing => (listing.find? name).isNone
  | name :: next :: rest, listing =>
    match listing.find? name with
    | none => true
    | some (.dir inside) => inside.hasRoom (next :: rest)
    | _ => false

/-- A listing without symbolic links and the same listing with a new file at the names `added`. Besides
the file there may be new directories on the way to it. -/
structure Gains (added : List String) (listing other : Listing) : Prop where
  unlinked : listing.isUnlinked = true
  unlinked_other : other.isUnlinked = true
  dirs : ∀ names, listing.hasDir names = true → other.hasDir names = true
  files : ∀ names, names ≠ added → listing.fileAt? names = other.fileAt? names
  free : listing.fileAt? added = none

/-! ## Adding a file -/

variable {listing : Listing} {name : String}

theorem entryAt?_inside (listing : Listing) (name next : String) (rest : List String) :
    listing.entryAt? (name :: next :: rest) = (listing.inside name).entryAt? (next :: rest) := by
  have hnil : ∀ xs : List String, Listing.nil.entryAt? (next :: xs) = none := by
    intro xs
    exact entryAt?_of_find?_eq_none xs rfl
  rw [entryAt?, inside]
  split
  · rfl
  · rw [hnil rest]

theorem entryAt?_put_of_ne (entry : Entry) {x : String} (xs : List String) (hx : name ≠ x) :
    (listing.put name entry).entryAt? (x :: xs) = listing.entryAt? (x :: xs) :=
  entryAt?_congr xs (by rw [find?_put, if_neg hx])

theorem gains_put_file (bytes : ByteArray) (h : listing.isUnlinked = true)
    (hfree : listing.find? name = none) :
    listing.Gains [name] (listing.put name (.file bytes)) where
  unlinked := h
  unlinked_other := isUnlinked_put h (by rintro target ⟨⟩) (by rintro inside ⟨⟩)
  dirs := by
    intro names hdir
    cases names with
    | nil => rfl
    | cons x xs =>
      by_cases hx : name = x
      · subst hx
        rw [hasDir, entryAt?_of_find?_eq_none xs hfree] at hdir
        cases hdir
      · rwa [hasDir, entryAt?_put_of_ne _ xs hx]
  files := by
    intro names hne
    cases names with
    | nil => rfl
    | cons x xs =>
      by_cases hx : name = x
      · subst hx
        cases xs with
        | nil => exact absurd rfl hne
        | cons next xs =>
          have hput : (listing.put name (.file bytes)).inside name = .nil := by
            rw [inside, find?_put, if_pos rfl]
          have hold : listing.inside name = .nil := by rw [inside, hfree]
          rw [fileAt?, fileAt?, entryAt?_inside, entryAt?_inside, hput, hold]
      · rw [fileAt?, fileAt?, entryAt?_put_of_ne _ xs hx]
  free := by rw [fileAt?, entryAt?_of_find?_eq_none [] hfree]; rfl

/-- A file that is added in a directory is added in the directory above. -/
theorem gains_put_dir {within : Listing} {next : String} {rest : List String}
    (h : listing.isUnlinked = true) (hfile : listing.fileAt? [name] = none)
    (hgains : (listing.inside name).Gains (next :: rest) within) :
    listing.Gains (name :: next :: rest) (listing.put name (.dir within)) where
  unlinked := h
  unlinked_other := by
    refine isUnlinked_put h (by rintro target ⟨⟩) ?_
    rintro _ ⟨⟩
    exact hgains.unlinked_other
  dirs := by
    intro names hdir
    cases names with
    | nil => rfl
    | cons x xs =>
      by_cases hx : name = x
      · subst hx
        rw [hasDir_cons_dir xs (find?_put_self name (.dir within) listing)]
        cases xs with
        | nil => rfl
        | cons y ys =>
          rw [hasDir, entryAt?_inside] at hdir
          exact hgains.dirs _ hdir
      · rwa [hasDir, entryAt?_put_of_ne _ xs hx]
  files := by
    intro names hne
    cases names with
    | nil => rfl
    | cons x xs =>
      by_cases hx : name = x
      · subst hx
        rw [fileAt?_cons_dir xs (find?_put_self name (.dir within) listing)]
        cases xs with
        | nil => exact hfile
        | cons y ys =>
          have hbefore : listing.fileAt? (name :: y :: ys) =
              (listing.inside name).fileAt? (y :: ys) := by
            rw [fileAt?, fileAt?, entryAt?_inside]
          rw [hbefore]
          exact hgains.files _ fun heq => hne (by rw [heq])
      · rw [fileAt?, fileAt?, entryAt?_put_of_ne _ xs hx]
  free := by
    have hbefore := hgains.free
    rwa [fileAt?, ← entryAt?_inside] at hbefore

/-- Adding a file where there is room for it changes nothing else. -/
theorem gains_plantAt (bytes : ByteArray) {names : List String} (h : listing.isUnlinked = true)
    (hnames : ∀ n ∈ names, isEntryName n = true) (hroom : listing.hasRoom names = true) :
    listing.Gains names (listing.plantAt names (.file bytes)) := by
  -- a directory that is not there yet is made, so the file goes into an empty one
  induction names generalizing listing with
  | nil => cases hroom
  | cons name rest ih =>
    have hname := hnames name List.mem_cons_self
    cases rest with
    | nil =>
      rw [hasRoom, Option.isNone_iff_eq_none] at hroom
      rw [plantAt, if_pos hname]
      exact gains_put_file bytes h hroom
    | cons next rest =>
      have hrest := fun n hn => hnames n (List.mem_cons_of_mem name hn)
      rw [plantAt, if_pos hname]
      rw [hasRoom] at hroom
      split at hroom
      · rename_i hnone
        have hinside : listing.inside name = .nil := by rw [inside, hnone]
        have hempty : Listing.nil.hasRoom (next :: rest) = true := by
          cases rest <;> simp [hasRoom, find?]
        refine gains_put_dir h (by rw [fileAt?, entryAt?, hnone]; rfl) ?_
        rw [hinside]
        exact ih rfl hrest hempty
      · rename_i inside hdir
        have hinside : listing.inside name = inside := by rw [Listing.inside, hdir]
        refine gains_put_dir h (by rw [fileAt?, entryAt?, hdir]; rfl) ?_
        rw [hinside]
        exact ih ((isUnlinked_of_find? h hdir).2 inside rfl) hrest hroom
      · cases hroom

end Listing

theorem Tree.gains_plantFile {tree : Tree} {names : List String} (bytes : ByteArray)
    (h : tree.root.isUnlinked = true) (hnames : ∀ n ∈ names, isEntryName n = true)
    (hroom : tree.root.hasRoom names = true) :
    tree.root.Gains names (tree.plantFile names bytes).root :=
  Listing.gains_plantAt bytes h hnames hroom

/-! ## Paths -/

namespace Listing

theorem stride_ne_removed {listing : Listing} {here : List String} {segments : List (List Char)} :
    listing.stride here segments ≠ .removed := by
  induction segments generalizing here with
  | nil => rintro ⟨⟩
  | cons s rest ih =>
    obtain ⟨there, hpasses⟩ | hhalts := listing.passes_or_halts here s
    · rw [hpasses.stride]
      exact ih
    · intro hremoved
      have hlast := hhalts rest
      rw [hremoved] at hlast
      cases hlast

theorem fileAt?_eq_some {listing : Listing} {names : List String} {bytes : ByteArray} :
    listing.fileAt? names = some bytes ↔ listing.entryAt? names = some (.file bytes) := by
  unfold fileAt?
  cases listing.entryAt? names with
  | none => simp
  | some entry => cases entry <;> simp [Entry.bytes?]

namespace Gains

variable {listing other : Listing} {added : List String}

theorem entryAt?_file (h : listing.Gains added other) {names : List String} {bytes : ByteArray}
    (hfile : listing.entryAt? names = some (.file bytes)) :
    names ≠ added ∧ other.entryAt? names = some (.file bytes) := by
  have hne : names ≠ added := by
    rintro rfl
    have hfree := h.free
    rw [fileAt?_eq_some.2 hfile] at hfree
    cases hfree
  refine ⟨hne, ?_⟩
  rw [← fileAt?_eq_some, ← h.files names hne, fileAt?_eq_some]
  exact hfile

/-- A walk along segments that comes to a directory or a file comes to the same names. -/
theorem stride (h : listing.Gains added other) {here names : List String}
    {segments : List (List Char)} (hfound : listing.stride here segments = .found names) :
    other.stride here segments = .found names := by
  induction segments generalizing here with
  | nil => exact hfound
  | cons s rest ih =>
    obtain ⟨there, hpasses⟩ | hhalts := listing.passes_or_halts here s
    · rw [hpasses.stride] at hfound
      rw [(hpasses.of_hasDir h.dirs).stride]
      exact ih hfound
    · have hlast := hhalts rest
      rw [hfound] at hlast
      cases hlast with
      | file hs hshort hentry => exact (Halts.file hs hshort (h.entryAt?_file hentry).2).stride

end Gains

end Listing

/-- The names of the file at a stop, or of the file that can be made there. -/
def Stop.file? : Stop → Option (List String)
  | .found names => some names
  | .missing folder name => some (folder ++ [name])
  | _ => none

namespace Tree

variable {tree : Tree} {p : Path}

/-- A walk that starts in removed directories comes to nothing, or goes on from the nearest directory
that is there. -/
theorem climb_cases (here : List String) (lost : Nat) (segments : List (List Char)) :
    (∃ stop : Stop, stop.file? = none ∧ ∀ walk, climb walk here lost segments = stop) ∨
      ∃ rest, rest <:+ segments ∧
        ∀ walk, climb walk here lost segments = walk (here.take (here.length - lost)) rest := by
  induction segments generalizing here lost with
  | nil =>
    cases lost with
    | zero =>
      refine Or.inr ⟨[], List.suffix_rfl, fun walk => ?_⟩
      rw [climb, Nat.sub_zero, List.take_length]
    | succ lost => exact Or.inl ⟨.removed, rfl, fun walk => by rw [climb]⟩
  | cons s segments ih =>
    cases lost with
    | zero =>
      refine Or.inr ⟨s :: segments, List.suffix_rfl, fun walk => ?_⟩
      rw [climb, Nat.sub_zero, List.take_length]
    | succ lost =>
      have hon : ∀ (there : List String) (left : Nat),
          there.take (there.length - left) = here.take (here.length - (lost + 1)) →
          (∀ walk, climb walk here (lost + 1) (s :: segments) = climb walk there left segments) →
          (∃ stop : Stop, stop.file? = none ∧
            ∀ walk, climb walk here (lost + 1) (s :: segments) = stop) ∨
          ∃ rest, rest <:+ s :: segments ∧ ∀ walk, climb walk here (lost + 1) (s :: segments) =
            walk (here.take (here.length - (lost + 1))) rest := by
        intro there left htake hclimb
        rcases ih there left with ⟨stop, hstop, hall⟩ | ⟨rest, hrest, hall⟩
        · exact Or.inl ⟨stop, hstop, fun walk => (hclimb walk).trans (hall walk)⟩
        · refine Or.inr ⟨rest, hrest.trans (List.suffix_cons s segments), fun walk => ?_⟩
          rw [hclimb walk, hall walk, htake]
      cases hs : Component.ofSegment s with
      | none => exact hon here (lost + 1) rfl fun walk => by simp only [climb, hs]
      | some component =>
        obtain rfl | ⟨name, rfl⟩ := Component.ofSegment_cases hs
        · refine hon here.dropLast lost ?_ fun walk => by simp only [climb, hs]
          rw [List.length_dropLast, List.dropLast_eq_take, List.take_take]
          congr 1
          omega
        · exact Or.inl ⟨.blocked .notFound, rfl, fun walk => by simp only [climb, hs]⟩

/-- Looking a path up comes to nothing, or is a walk along the last of its segments from the root or from
the nearest directory that is there. -/
theorem stop_cases (tree : Tree) (p : Path) :
    (∃ stop : Stop, stop.file? = none ∧ ∀ walk, tree.stop walk p = stop) ∨
      '\x00' ∉ p.text.toList ∧ ∃ here segments,
        (here = [] ∨ here = tree.here.take (tree.here.length - tree.lost)) ∧ segments <:+ p.body ∧
          ∀ walk, tree.stop walk p = walk here segments := by
  by_cases hnul : p.text.toList.contains '\x00' = true
  · exact Or.inl ⟨.blocked .innerNul, rfl, fun walk => by rw [stop, if_pos hnul]⟩
  by_cases htext : p.text = ""
  · exact Or.inl ⟨.blocked .notFound, rfl, fun walk => by rw [stop, if_neg hnul, if_pos htext]⟩
  by_cases hlong : isTooLong p = true
  · refine Or.inl ⟨.blocked .nameTooLong, rfl, fun walk => ?_⟩
    rw [stop, if_neg hnul, if_neg htext, if_pos hlong]
  have hno : '\x00' ∉ p.text.toList := by simpa using hnul
  have hstop : ∀ walk, tree.stop walk p =
      if p.isAbsolute then walk [] p.body else climb walk tree.here tree.lost p.body :=
    stop_eq hno htext (Bool.eq_false_iff.2 hlong)
  by_cases habs : p.isAbsolute = true
  · exact Or.inr ⟨hno, [], p.body, Or.inl rfl, List.suffix_rfl,
      fun walk => by rw [hstop walk, if_pos habs]⟩
  · rcases climb_cases tree.here tree.lost p.body with ⟨stop, hnone, hall⟩ | ⟨rest, hrest, hall⟩
    · exact Or.inl ⟨stop, hnone, fun walk => by rw [hstop walk, if_neg habs, hall walk]⟩
    · exact Or.inr ⟨hno, _, rest, Or.inr rfl, hrest,
        fun walk => by rw [hstop walk, if_neg habs, hall walk]⟩

/-- What is found on a walk is found on every other that finds as much. -/
theorem stop_found {walk other : List String → List (List Char) → Stop} {names : List String}
    (hwalk : ∀ here segments, walk here segments = .found names → other here segments = .found names)
    (h : tree.stop walk p = .found names) : tree.stop other p = .found names := by
  rcases tree.stop_cases p with ⟨stop, hnone, hall⟩ | ⟨-, here, segments, -, -, hall⟩
  · rw [← hall walk, h] at hnone
    cases hnone
  · rw [hall walk] at h
    rw [hall other]
    exact hwalk here segments h

theorem stop_of_absolute (hp : p.isAbsolute = true) (other : Tree)
    (walk : List String → List (List Char) → Stop) : tree.stop walk p = other.stop walk p := by
  rw [stop, stop, if_pos hp, if_pos hp]

theorem locate_of_unlinked (h : tree.root.isUnlinked = true) (p : Path) :
    tree.locate p = tree.stop tree.root.stride p := by
  have hwalk : tree.root.follow true maxHops = tree.root.stride := by
    funext here segments
    exact Listing.follow_eq_stride h true maxHops here segments
  rw [locate, hwalk]

theorem exists_found (hunlinked : tree.root.isUnlinked = true) (hp : p.isAbsolute = true)
    {entry : Entry} (h : tree.entry? p = some entry) :
    ∃ names, tree.locate p = .found names ∧ tree.root.entryAt? names = some entry := by
  have hremoved : tree.locate p ≠ .removed := by
    rw [locate_of_unlinked hunlinked, stop, if_pos hp]
    split
    · rintro ⟨⟩
    · split
      · rintro ⟨⟩
      · split
        · rintro ⟨⟩
        · exact Listing.stride_ne_removed
  unfold entry? at h
  split at h
  · rename_i names hfound
    exact ⟨names, hfound, h⟩
  · rename_i hlost
    exact absurd hlost hremoved
  · cases h

end Tree

namespace Listing.Gains

variable {tree other : Tree} {added names : List String} {p q dir : Path} {config : Config}

theorem locate (h : tree.root.Gains added other.root) (hp : p.isAbsolute = true)
    (hfound : tree.locate p = .found names) : other.locate p = .found names := by
  rw [Tree.locate_of_unlinked h.unlinked, Tree.stop_of_absolute hp other] at hfound
  rw [Tree.locate_of_unlinked h.unlinked_other]
  exact Tree.stop_found (fun _ _ hwalk => h.stride hwalk) hfound

theorem entry?_file (h : tree.root.Gains added other.root) (hp : p.isAbsolute = true)
    {bytes : ByteArray} (hfile : tree.entry? p = some (.file bytes)) :
    other.entry? p = some (.file bytes) := by
  obtain ⟨names, hfound, hentry⟩ := Tree.exists_found h.unlinked hp hfile
  rw [Tree.entry?, h.locate hp hfound]
  exact (h.entryAt?_file hentry).2

theorem isFile (h : tree.root.Gains added other.root) (hp : p.isAbsolute = true)
    (hfile : tree.isFile p = true) : other.isFile p = true := by
  obtain ⟨bytes, hentry⟩ := Tree.entry?_of_isFile hfile
  rw [Tree.isFile, h.entry?_file hp hentry]

theorem isDir (h : tree.root.Gains added other.root) (hp : p.isAbsolute = true)
    (hdir : tree.isDir p = true) : other.isDir p = true := by
  obtain ⟨inside, hinside⟩ := Tree.entry?_of_isDir hdir
  obtain ⟨names, hfound, hentry⟩ := Tree.exists_found h.unlinked hp hinside
  obtain ⟨within, hwithin⟩ := Listing.hasDir_iff.1 (h.dirs _ (Listing.hasDir_iff.2 ⟨inside, hentry⟩))
  rw [Tree.isDir, Tree.entry?, h.locate hp hfound]
  dsimp only
  rw [hwithin]

end Listing.Gains

/-! ## Walks -/

theorem Listing.HasSource.of_fileAt? {config : Config} {base : Path} {listing other : Listing}
    {folders : List String} {name : String} (h : listing.HasSource config base folders name)
    (hfile : listing.fileAt? (folders ++ [name]) = other.fileAt? (folders ++ [name])) :
    other.HasSource config base folders name := by
  obtain ⟨bytes, hbytes⟩ := h.file
  rw [← fileAt?_eq_some, hfile, fileAt?_eq_some] at hbytes
  exact { h with file := ⟨bytes, hbytes⟩ }

/-- The source files of a directory along names lie where names lead. -/
theorem Tree.exists_source {tree : Tree} {config : Config} {dir q : Path} {names : List String}
    (hunlinked : tree.root.isUnlinked = true) (hspells : dir.Spells names)
    (hdir : tree.isDir dir = true) (hq : q ∈ tree.sources config dir) :
    ∃ within folders name bytes, tree.root.entryAt? names = some (.dir within) ∧
      within.HasSource config dir folders name ∧ q = (dir.below folders).child name ∧
      (dir.below folders).Spells (names ++ folders) ∧ q.Spells (names ++ (folders ++ [name])) ∧
      tree.root.entryAt? (names ++ (folders ++ [name])) = some (.file bytes) := by
  obtain ⟨within, hentry⟩ := entry?_of_isDir hdir
  have hwithin := entryAt?_of_spells hunlinked hspells hentry
  obtain ⟨folders, name, hsource, rfl⟩ := (mem_sources_iff hentry).1 hq
  obtain ⟨bytes, hfile⟩ := hsource.file
  have hw := wellFormed_of_present hentry
  have hnames := hsource.isName hw
  refine ⟨within, folders, name, bytes, hwithin, hsource, rfl,
    hspells.below fun n hn => hnames n (by simp [hn]), hsource.spells hw hspells, ?_⟩
  rw [Listing.entryAt?_append _ hwithin, hfile]

namespace Listing.Gains

variable {tree other : Tree} {added names : List String} {q dir : Path} {config : Config}

/-- A walk meets what it met before, and none of this is the new file. -/
theorem mem_sources (h : tree.root.Gains added other.root) (hspells : dir.Spells names)
    (hdir : tree.isDir dir = true) (hq : q ∈ tree.sources config dir) :
    q ∈ other.sources config dir ∧ ¬ q.Spells added := by
  obtain ⟨within, folders, name, bytes, hwithin, hsource, rfl, -, hqspells, hfile⟩ :=
    Tree.exists_source h.unlinked hspells hdir hq
  obtain ⟨hne, -⟩ := h.entryAt?_file hfile
  obtain ⟨after, hentry⟩ := Tree.entry?_of_isDir (h.isDir hspells.isAbsolute hdir)
  have hafter := Tree.entryAt?_of_spells h.unlinked_other hspells hentry
  refine ⟨(Tree.mem_sources_iff hentry).2 ⟨folders, name, ?_, rfl⟩,
    fun hadded => hne (hqspells.unique hadded)⟩
  refine hsource.of_fileAt? ?_
  rw [← fileAt?_append _ hwithin, ← fileAt?_append _ hafter, h.files _ hne]

/-- What a walk meets besides the new file it met before. -/
theorem mem_sources_back (h : tree.root.Gains added other.root) (hspells : dir.Spells names)
    (hdir : other.isDir dir = true) (hq : q ∈ other.sources config dir) (hne : ¬ q.Spells added) :
    tree.isDir dir = true ∧ q ∈ tree.sources config dir := by
  obtain ⟨after, folders, name, bytes, hafter, hsource, rfl, -, hqspells, hfile⟩ :=
    Tree.exists_source h.unlinked_other hspells hdir hq
  have hnames : names ++ (folders ++ [name]) ≠ added := by
    rintro rfl
    exact hne hqspells
  -- the file was there before, and so were the directories on the way to it
  have hbefore : tree.root.entryAt? (names ++ (folders ++ [name])) = some (.file bytes) := by
    rw [← fileAt?_eq_some, h.files _ hnames, fileAt?_eq_some]
    exact hfile
  obtain ⟨within, hwithin, -⟩ := exists_dir_of_entryAt?_append (by simp) hbefore
  have hshort := Tree.isTooLong_of_isDir hdir
  have hentry : tree.entry? dir = some (.dir within) := by
    rw [Tree.entry?_of_dir hspells hwithin, if_neg (by simp [hshort])]
  refine ⟨(Tree.isDir_iff_of_dir hspells hwithin).2 hshort,
    (Tree.mem_sources_iff hentry).2 ⟨folders, name, ?_, rfl⟩⟩
  refine hsource.of_fileAt? ?_
  rw [← fileAt?_append _ hafter, ← fileAt?_append _ hwithin, h.files _ hnames]

theorem source?_eq (h : tree.root.Gains added other.root) (hspells : dir.Spells names)
    (hdir : tree.isDir dir = true) (hq : q ∈ tree.sources config dir) :
    other.source? q = tree.source? q := by
  obtain ⟨-, folders, name, bytes, -, -, rfl, hbelow, -, hfile⟩ :=
    Tree.exists_source h.unlinked hspells hdir hq
  have hafter := (h.entryAt?_file hfile).2
  rw [← List.append_assoc] at hfile hafter
  rw [Tree.source?_child hbelow hfile, Tree.source?_child hbelow hafter]

end Listing.Gains

end DocAtlas
