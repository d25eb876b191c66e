import DocAtlas.Tree.Walk
import DocAtlas.Proofs.Path.Joining
import DocAtlas.Proofs.Tree.Descent

/-! # The source files a walk meets

A walk meets a file exactly if neither its name nor a folder on the way is excluded, its name has the
extension of a source file, and the path of its folder is short enough to be opened. It meets them in
the order of paths, and so no file twice. None of this depends on how the path of the directory starts.

* `Listing.HasSource` — a source file in a listing and the folders on the way to it
* `Entry.steps`, `Listing.steps_cons` — a walk goes through one entry after the other
* `Listing.mem_steps_iff` — the walk meets these and no others
* `Listing.ascends_steps` — each of them comes before those met after it
* `Tree.mem_sources_iff`, `Tree.ascends_sources` — the same of a walk in a tree
-/

set_option autoImplicit false

namespace DocAtlas

/-! ## Names at the end -/

theorem Path.fileName_of_spells {p : Path} {names : List String} {name : String}
    (h : p.Spells (names ++ [name])) : p.fileName = some name := by
  rw [fileName, show p.components = _ from h]
  simp [List.getLast?_cons, Component.name?]

theorem Path.fileName_name {name : String} (h : IsName name) :
    (Path.mk name).fileName = some name := by
  rw [fileName, components_name h]
  rfl

theorem Config.supports_of_fileName {p q : Path} (config : Config) (h : p.fileName = q.fileName) :
    config.supports p = config.supports q := by
  unfold supports Path.extension
  rw [h]

theorem Path.fileName_child {p : Path} {name : String} (h : IsName name) :
    (p.child name).fileName = some name := by
  rw [fileName, components_child_name h, List.getLast?_concat]
  rfl

theorem Config.supports_child {config : Config} {p : Path} {name : String} (h : IsName name) :
    config.supports (p.child name) = config.supports ⟨name⟩ :=
  config.supports_of_fileName (by rw [Path.fileName_name h, Path.fileName_child h])

/-! ## Lengths -/

theorem Path.utf8ByteSize_le_child {p : Path} {name : String} (h : IsName name) :
    p.text.utf8ByteSize ≤ (p.child name).text.utf8ByteSize := by
  unfold child join
  rw [isAbsolute_name h, if_neg (by simp)]
  split
  · rw [String.utf8ByteSize_append]
    omega
  · rw [String.utf8ByteSize_append, String.utf8ByteSize_append]
    omega

theorem Path.utf8ByteSize_le_below {p : Path} {names : List String} (h : ∀ n ∈ names, IsName n) :
    p.text.utf8ByteSize ≤ (p.below names).text.utf8ByteSize := by
  induction names generalizing p with
  | nil => exact Nat.le_refl _
  | cons n names ih =>
    have hchild := utf8ByteSize_le_child (p := p) (h n (by simp))
    have hbelow := ih (p := p.child n) fun m hm => h m (by simp [hm])
    exact Nat.le_trans hchild hbelow

theorem Tree.isTooLong_of_below {p : Path} {names : List String} (h : ∀ n ∈ names, IsName n)
    (hlong : isTooLong (p.below names) = false) : isTooLong p = false := by
  have hle := Path.utf8ByteSize_le_below (p := p) h
  simp only [isTooLong, decide_eq_false_iff_not] at hlong ⊢
  omega

/-! ## One directory -/

/-- The steps at one entry of the directory at `base`. -/
def Entry.steps (config : Config) (base : Path) (name : String) : Entry → List WalkStep
  | .file _ =>
    if !config.excludes name && config.supports (base.child name) then [.source (base.child name)]
    else []
  | .link _ => []
  | .dir inside =>
    if config.excludes name then []
    else if Tree.isTooLong (base.child name) then [.unopened (base.child name)]
    else inside.steps config (base.child name)

namespace Listing

/-- Induction on the entries of a directory and of the directories in it. -/
theorem tree_induction {motive : Listing → Prop} (nil : motive .nil)
    (cons : ∀ n e rest, (∀ inside, e = .dir inside → motive inside) → motive rest →
      motive (cons n e rest)) : ∀ listing, motive listing
  | .nil => nil
  | .file n bytes rest => cons n (.file bytes) rest nofun (tree_induction nil cons rest)
  | .link n target rest => cons n (.link target) rest nofun (tree_induction nil cons rest)
  | .dir n inside rest =>
    have hinside := tree_induction nil cons inside
    cons n (.dir inside) rest (by rintro _ ⟨⟩; exact hinside) (tree_induction nil cons rest)

theorem mem_names_of_find? {listing : Listing} {name : String} {entry : Entry}
    (h : listing.find? name = some entry) : name ∈ listing.names := by
  induction listing using cons_induction with
  | nil => cases h
  | cons n e rest ih =>
    rw [find?_cons] at h
    rw [names_cons]
    split at h
    · rename_i hn
      rw [hn]
      exact List.mem_cons_self
    · exact List.mem_cons_of_mem n (ih h)

theorem find?_of_entryAt? {listing : Listing} {x : String} {xs : List String} {entry : Entry}
    (h : listing.entryAt? (x :: xs) = some entry) : ∃ e, listing.find? x = some e := by
  by_cases hxs : xs = []
  · subst hxs
    exact ⟨entry, h⟩
  · obtain ⟨inside, hfind, -⟩ := find?_of_entryAt?_cons hxs h
    exact ⟨.dir inside, hfind⟩

theorem find?_dir_of_entryAt? {listing inside : Listing} {x : String} {xs : List String}
    (h : listing.entryAt? (x :: xs) = some (.dir inside)) :
    ∃ between, listing.find? x = some (.dir between) ∧ between.entryAt? xs = some (.dir inside) := by
  by_cases hxs : xs = []
  · subst hxs
    exact ⟨inside, h, rfl⟩
  · exact find?_of_entryAt?_cons hxs h

theorem entryAt?_congr {listing other : Listing} {x : String} (xs : List String)
    (h : listing.find? x = other.find? x) : listing.entryAt? (x :: xs) = other.entryAt? (x :: xs) := by
  cases xs with
  | nil => exact h
  | cons next xs => rw [entryAt?, entryAt?, h]

/-- Of a well-formed listing the first entry hides none of the others. -/
theorem find?_behind {n x : String} {e : Entry} {rest : Listing}
    (hw : (cons n e rest).wellFormed = true) (hx : x ∈ rest.names) :
    (cons n e rest).find? x = rest.find? x := by
  obtain ⟨-, -, habove, -⟩ := wellFormed_cons.1 hw
  have hlt : n < x := isAbove_iff.1 habove x hx
  have hne : n ≠ x := by
    rintro rfl
    exact String.lt_irrefl n hlt
  rw [find?_cons, if_neg hne]

/-! ## Sources of a listing -/

/-- A source file called `name` in the directory to which `folders` lead, nothing excluded on the way
and each folder, spelled below `base`, short enough to be opened. -/
structure HasSource (config : Config) (base : Path) (listing : Listing) (folders : List String)
    (name : String) : Prop where
  file : ∃ bytes, listing.entryAt? (folders ++ [name]) = some (.file bytes)
  included : ∀ n ∈ folders ++ [name], config.excludes n = false
  supported : config.supports ⟨name⟩ = true
  opened : folders = [] ∨ Tree.isTooLong (base.below folders) = false

variable {config : Config} {base : Path} {listing : Listing} {folders : List String} {name : String}

theorem HasSource.isName (h : listing.HasSource config base folders name)
    (hw : listing.wellFormed = true) : ∀ n ∈ folders ++ [name], IsName n := by
  obtain ⟨bytes, hfile⟩ := h.file
  intro n hn
  exact isName_of_isEntryName ((isEntryName_of_entryAt? hw hfile).1 n hn)

theorem HasSource.components (h : listing.HasSource config base folders name)
    (hw : listing.wellFormed = true) :
    ((base.below folders).child name).components =
      base.components ++ (folders ++ [name]).map .normal := by
  rw [← Path.below_concat, Path.components_below_names (h.isName hw)]

theorem HasSource.spells {names : List String} (h : listing.HasSource config base folders name)
    (hw : listing.wellFormed = true) (hbase : base.Spells names) :
    ((base.below folders).child name).Spells (names ++ (folders ++ [name])) := by
  have hcomponents := h.components hw
  rw [show base.components = _ from hbase] at hcomponents
  rw [Path.Spells, hcomponents, List.cons_append, ← List.map_append]

/-- A source file behind a folder is one of that folder. -/
theorem hasSource_cons {n : String} {inside : Listing} (hw : listing.wellFormed = true)
    (hfind : listing.find? n = some (.dir inside)) :
    listing.HasSource config base (n :: folders) name ↔
      config.excludes n = false ∧ Tree.isTooLong (base.child n) = false ∧
        inside.HasSource config (base.child n) folders name := by
  have hentry : listing.entryAt? (n :: folders ++ [name]) = inside.entryAt? (folders ++ [name]) :=
    entryAt?_cons_dir _ hfind
  constructor
  · intro h
    have hlong : Tree.isTooLong ((base.child n).below folders) = false := by
      rcases h.opened with hnil | hlong
      · cases hnil
      · exact hlong
    have hnames : ∀ m ∈ folders, IsName m := fun m hm => h.isName hw m (by simp [hm])
    refine ⟨h.included n (by simp), Tree.isTooLong_of_below hnames hlong, ?_⟩
    exact {
      file := by rw [← hentry]; exact h.file
      included := fun m hm => h.included m (by simp_all)
      supported := h.supported
      opened := Or.inr hlong }
  · rintro ⟨hn, hlong, h⟩
    exact {
      file := by rw [hentry]; exact h.file
      included := by
        intro m hm
        rcases List.mem_cons.1 (by simpa using hm : m ∈ n :: (folders ++ [name])) with rfl | hm
        · exact hn
        · exact h.included m hm
      supported := h.supported
      opened := by
        right
        rcases h.opened with rfl | hbelow
        · exact hlong
        · exact hbelow }

/-- A source file behind a directory further down is one of that directory. -/
theorem hasSource_append {names : List String} {inside : Listing} (hw : listing.wellFormed = true)
    (hdir : listing.entryAt? names = some (.dir inside)) :
    listing.HasSource config base (names ++ folders) name ↔
      (∀ n ∈ names, config.excludes n = false) ∧
        (names = [] ∨ Tree.isTooLong (base.below names) = false) ∧
        inside.HasSource config (base.below names) folders name := by
  induction names generalizing listing base with
  | nil =>
    cases hdir
    simp
  | cons n names ih =>
    obtain ⟨between, hfind, hbehind⟩ := find?_dir_of_entryAt? hdir
    have hbetween := (find?_some hw hfind).2
    have hnames : ∀ m ∈ names, IsName m := fun m hm =>
      isName_of_isEntryName ((isEntryName_of_entryAt? hw hdir).1 m (by simp [hm]))
    rw [List.cons_append, hasSource_cons hw hfind, ih hbetween hbehind, Path.below_cons]
    constructor
    · rintro ⟨hn, hshort, hexcl, hlong, hsource⟩
      refine ⟨by simpa [hn] using hexcl, Or.inr ?_, hsource⟩
      rcases hlong with rfl | hlong
      · exact hshort
      · exact hlong
    · rintro ⟨hexcl, hlong, hsource⟩
      have hshort : Tree.isTooLong ((base.child n).below names) = false :=
        hlong.resolve_left (by simp)
      exact ⟨hexcl n (by simp), Tree.isTooLong_of_below hnames hshort,
        fun m hm => hexcl m (by simp [hm]), Or.inr hshort, hsource⟩

/-- The way to a source file starts with a name of the listing. -/
theorem HasSource.head (h : listing.HasSource config base folders name) :
    ∃ x xs, folders ++ [name] = x :: xs ∧ x ∈ listing.names := by
  obtain ⟨bytes, hfile⟩ := h.file
  obtain ⟨x, xs, hx⟩ := List.exists_cons_of_ne_nil (l := folders ++ [name]) (by simp)
  rw [hx] at hfile
  obtain ⟨entry, hfind⟩ := find?_of_entryAt? hfile
  exact ⟨x, xs, hx, mem_names_of_find? hfind⟩

theorem hasSource_behind {n : String} {e : Entry} {rest : Listing}
    (hw : (cons n e rest).wellFormed = true) (h : rest.HasSource config base folders name) :
    (cons n e rest).HasSource config base folders name := by
  obtain ⟨bytes, hfile⟩ := h.file
  obtain ⟨x, xs, hx, hmem⟩ := h.head
  rw [hx] at hfile
  have hlook := find?_behind hw hmem
  exact { h with file := ⟨bytes, by rw [hx, entryAt?_congr xs hlook, hfile]⟩ }

/-- The file a listing starts with is one of its source files, if it is a source file at all. -/
theorem hasSource_first {bytes : ByteArray} {rest : Listing} (hexcl : config.excludes name = false)
    (hsupp : config.supports ⟨name⟩ = true) :
    (cons name (.file bytes) rest).HasSource config base [] name where
  file := ⟨bytes, by rw [List.nil_append, entryAt?, find?_cons, if_pos rfl]⟩
  included := by simpa using hexcl
  supported := hsupp
  opened := Or.inl rfl

theorem steps_cons (n : String) (e : Entry) (rest : Listing) :
    (cons n e rest).steps config base = e.steps config base n ++ rest.steps config base := by
  cases e with
  | file bytes =>
    simp only [cons, steps, Entry.steps]
    split <;> rfl
  | link target => rfl
  | dir inside => rfl

theorem hasSource_of_mem_steps (hw : listing.wellFormed = true) {q : Path}
    (h : .source q ∈ listing.steps config base) :
    ∃ folders name, listing.HasSource config base folders name ∧
      q = (base.below folders).child name := by
  induction listing using tree_induction generalizing base with
  | nil => cases h
  | cons n e rest ihInside ihRest =>
    obtain ⟨hn, he, -, hrest⟩ := wellFormed_cons.1 hw
    rw [steps_cons, List.mem_append] at h
    rcases h with h | h
    · cases e with
      | link target => cases h
      | file bytes =>
        rw [Entry.steps] at h
        split at h
        · rename_i hmet
          simp only [Bool.and_eq_true, Bool.not_eq_true'] at hmet
          rw [Config.supports_child (isName_of_isEntryName hn)] at hmet
          cases List.mem_singleton.1 h
          exact ⟨[], n, hasSource_first hmet.1 hmet.2, rfl⟩
        · cases h
      | dir inside =>
        have hfind : (cons n (.dir inside) rest).find? n = some (.dir inside) := by
          rw [find?_cons, if_pos rfl]
        rw [Entry.steps] at h
        split at h
        · cases h
        · rename_i hexcl
          split at h
          · cases List.mem_singleton.1 h
          · rename_i hlong
            obtain ⟨folders, name, hsource, hq⟩ := ihInside inside rfl he h
            refine ⟨n :: folders, name, ?_, hq⟩
            exact (hasSource_cons hw hfind).2 ⟨by simpa using hexcl, by simpa using hlong, hsource⟩
    · obtain ⟨folders, name, hsource, hq⟩ := ihRest hrest h
      exact ⟨folders, name, hasSource_behind hw hsource, hq⟩

theorem mem_steps_of_find? {e : Entry} {step : WalkStep} (hfind : listing.find? name = some e)
    (h : step ∈ e.steps config base name) : step ∈ listing.steps config base := by
  induction listing using cons_induction with
  | nil => cases hfind
  | cons n first rest ih =>
    rw [find?_cons] at hfind
    rw [steps_cons, List.mem_append]
    split at hfind
    · rename_i hn
      subst hn
      cases hfind
      exact Or.inl h
    · exact Or.inr (ih hfind)

theorem HasSource.mem_steps (hw : listing.wellFormed = true)
    (h : listing.HasSource config base folders name) :
    .source ((base.below folders).child name) ∈ listing.steps config base := by
  induction folders generalizing listing base with
  | nil =>
    obtain ⟨bytes, hfile⟩ := h.file
    have hsupp : config.supports (base.child name) = true := by
      rw [Config.supports_child (h.isName hw name (by simp))]
      exact h.supported
    refine mem_steps_of_find? hfile ?_
    rw [Entry.steps, if_pos (by simp [h.included name (by simp), hsupp])]
    exact List.mem_singleton_self _
  | cons n folders ih =>
    obtain ⟨bytes, hfile⟩ := h.file
    obtain ⟨inside, hfind, -⟩ := find?_of_entryAt?_cons (by simp) hfile
    obtain ⟨hexcl, hlong, hinside⟩ := (hasSource_cons hw hfind).1 h
    refine mem_steps_of_find? hfind ?_
    rw [Entry.steps, if_neg (by simp [hexcl]), if_neg (by simp [hlong])]
    exact ih (find?_some hw hfind).2 hinside

theorem mem_steps_iff (hw : listing.wellFormed = true) {q : Path} :
    .source q ∈ listing.steps config base ↔
      ∃ folders name, listing.HasSource config base folders name ∧
        q = (base.below folders).child name := by
  constructor
  · exact hasSource_of_mem_steps hw
  · rintro ⟨folders, name, h, rfl⟩
    exact h.mem_steps hw

end Listing

/-! ## One after the other -/

theorem Component.key_normal_lt {x y : String} (h : x < y) :
    (Component.normal x).key < (Component.normal y).key := by
  rw [Component.key, Component.key, List.cons_lt_cons_self]
  exact List.map_lt (fun _ _ hlt => Char.lt_def.1 hlt) (show x.toList < y.toList from h)

/-- Two paths come in the order of the names at which they part. -/
theorem Path.lt_of_names {p q : Path} {front : List Component} {xs ys : List String} {x y : String}
    (hp : p.components = front ++ (x :: xs).map .normal)
    (hq : q.components = front ++ (y :: ys).map .normal) (h : x < y) : p.lt q = true := by
  rw [lt, decide_eq_true_eq, key, key, hp, hq, List.map_append, List.map_append, lt_append_iff]
  exact List.cons_lt_cons_iff.2 (Or.inl (Component.key_normal_lt h))

theorem Path.same_eq_false_of_lt {p q : Path} (h : p.lt q = true) : p.same q = false := by
  rw [← Bool.not_eq_true, ← key_eq_iff]
  intro hkey
  rw [lt, decide_eq_true_eq, hkey] at h
  exact lt_irrefl _ h

theorem WalkStep.mem_filterMap_source? {steps : List WalkStep} {p : Path} :
    p ∈ steps.filterMap WalkStep.source? ↔ .source p ∈ steps := by
  rw [List.mem_filterMap]
  constructor
  · rintro ⟨step, hstep, hp⟩
    cases step with
    | source q =>
      cases hp
      exact hstep
    | unopened q => cases hp
  · intro h
    exact ⟨.source p, h, rfl⟩

namespace Listing

variable {config : Config}

/-- The source files at an entry lie below its name. -/
theorem exists_components_of_mem {n : String} {e : Entry} {base p : Path} (hn : IsName n)
    (he : e.wellFormed = true) (hp : .source p ∈ e.steps config base n) :
    ∃ xs, p.components = base.components ++ (n :: xs).map .normal := by
  cases e with
  | link target => cases hp
  | file bytes =>
    rw [Entry.steps] at hp
    split at hp
    · cases List.mem_singleton.1 hp
      exact ⟨[], Path.components_child_name hn⟩
    · cases hp
  | dir inside =>
    rw [Entry.steps] at hp
    split at hp
    · cases hp
    · split at hp
      · cases List.mem_singleton.1 hp
      · obtain ⟨folders, name, hsource, rfl⟩ := hasSource_of_mem_steps he hp
        have hcomponents := hsource.components he
        rw [Path.components_child_name hn, List.append_assoc, List.singleton_append,
          ← List.map_cons] at hcomponents
        exact ⟨folders ++ [name], hcomponents⟩

/-- The source files behind an entry come after the source files at the entry. -/
theorem lt_behind {n : String} {e : Entry} {rest : Listing} {base p q : Path}
    (hw : (cons n e rest).wellFormed = true) (hp : .source p ∈ e.steps config base n)
    (hq : .source q ∈ rest.steps config base) : p.lt q = true := by
  obtain ⟨hn, he, habove, hrest⟩ := wellFormed_cons.1 hw
  obtain ⟨xs, hfirst⟩ := exists_components_of_mem (isName_of_isEntryName hn) he hp
  obtain ⟨folders, name, hsource, rfl⟩ := hasSource_of_mem_steps hrest hq
  have hcomponents := hsource.components hrest
  obtain ⟨y, ys, hy, hmem⟩ := hsource.head
  rw [hy] at hcomponents
  exact Path.lt_of_names hfirst hcomponents (isAbove_iff.1 habove y hmem)

/-- A walk goes through the source files of a directory in the order of paths. -/
theorem ascends_steps {listing : Listing} {base : Path} (hw : listing.wellFormed = true) :
    ((listing.steps config base).filterMap WalkStep.source?).Pairwise
      (fun p q => p.lt q = true) := by
  induction listing using tree_induction generalizing base with
  | nil => exact List.Pairwise.nil
  | cons n e rest ihInside ihRest =>
    obtain ⟨-, he, -, hrest⟩ := wellFormed_cons.1 hw
    rw [steps_cons, List.filterMap_append]
    refine List.pairwise_append.2 ⟨?_, ihRest hrest, fun p hp q hq => ?_⟩
    · cases e with
      | link target => exact List.Pairwise.nil
      | file bytes =>
        rw [Entry.steps]
        split
        · exact List.pairwise_singleton _ _
        · exact List.Pairwise.nil
      | dir inside =>
        rw [Entry.steps]
        split
        · exact List.Pairwise.nil
        · split
          · exact List.Pairwise.nil
          · exact ihInside inside rfl he
    · exact lt_behind hw (WalkStep.mem_filterMap_source?.1 hp) (WalkStep.mem_filterMap_source?.1 hq)

end Listing

/-! ## Walks in a tree -/

namespace Tree

variable {tree : Tree} {config : Config} {start : Path} {inside : Listing}

theorem wellFormed_of_present {p : Path} {entry : Entry} (h : tree.entry? p = some entry) :
    entry.wellFormed = true := by
  unfold entry? at h
  split at h
  · exact (Listing.isEntryName_of_entryAt? tree.wellFormed h).2
  · cases h
    rfl
  · cases h

/-- The folder of a source file can be opened. -/
theorem isTooLong_folder {folders : List String} {name : String}
    (h : tree.entry? start = some (.dir inside)) (hsource : inside.HasSource config start folders name) :
    isTooLong (start.below folders) = false := by
  rcases hsource.opened with rfl | hopened
  · exact isTooLong_of_present h
  · exact hopened

theorem sources_of_dir (h : tree.entry? start = some (.dir inside)) :
    tree.sources config start = (inside.steps config start).filterMap WalkStep.source? := by
  simp only [sources, steps, h]

theorem mem_sources_iff (h : tree.entry? start = some (.dir inside)) {q : Path} :
    q ∈ tree.sources config start ↔
      ∃ folders name, inside.HasSource config start folders name ∧
        q = (start.below folders).child name := by
  rw [sources_of_dir h, WalkStep.mem_filterMap_source?]
  exact Listing.mem_steps_iff (wellFormed_of_present h)

theorem ascends_sources (h : tree.entry? start = some (.dir inside)) :
    (tree.sources config start).Pairwise (fun p q => p.lt q = true) := by
  rw [sources_of_dir h]
  exact Listing.ascends_steps (wellFormed_of_present h)

theorem pairwise_sources (h : tree.entry? start = some (.dir inside)) :
    (tree.sources config start).Pairwise (fun p q => p.same q = false) :=
  (ascends_sources h).imp Path.same_eq_false_of_lt

end Tree

end DocAtlas
