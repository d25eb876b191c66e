import DocAtlas.Tree.Source
import DocAtlas.Tree.Walk
import DocAtlas.Proofs.Path.Parent
import DocAtlas.Proofs.Tree.Sources

/-! # Two trees that agree on some files

Two trees without symbolic links have the same directories and hold the same files wherever a property
of the names asks for it; all other files may be in one of them only. Of every path the two say the same
as long as it leads to a directory or to a file with the property, and a walk meets the same files if
those it may meet have the property.

* `Listing.AgreeOn` — the same directories, and the same files as far as a property goes
* `Listing.AgreeOn.stride` — a walk along segments ends alike in both
* `Listing.AgreeOn.steps_eq` — the steps through both are the same
* `Listing.AgreeOn.isDir_eq`, `Listing.AgreeOn.bytes?_eq` — what a path stands for
* `Tree.entryAt?_of_spells` — the same of one tree: a path along names stands for what lies there
-/

set_option autoImplicit false

namespace DocAtlas

/-! ## Agreement -/

namespace Entry

def isDir : Entry → Bool
  | .dir _ => true
  | _ => false

/-- The bytes of a file. -/
def bytes? : Entry → Option ByteArray
  | .file bytes => some bytes
  | _ => none

end Entry

namespace Listing

/-- Whether names lead to a directory. -/
def hasDir (listing : Listing) (names : List String) : Bool :=
  (listing.entryAt? names).any Entry.isDir

/-- The bytes of the file to which names lead. -/
def fileAt? (listing : Listing) (names : List String) : Option ByteArray :=
  (listing.entryAt? names).bind Entry.bytes?

/-- Whether no entry is a symbolic link. -/
def isUnlinked : Listing → Bool
  | nil => true
  | file _ _ rest => rest.isUnlinked
  | link _ _ _ => false
  | dir _ inside rest => inside.isUnlinked && rest.isUnlinked

/-- Two listings without symbolic links have the same directories, and the same files at the names
that are kept. -/
structure AgreeOn (keeps : List String → Bool) (listing other : Listing) : Prop where
  unlinked : listing.isUnlinked = true
  unlinked_other : other.isUnlinked = true
  dirs : ∀ names, listing.hasDir names = other.hasDir names
  files : ∀ names, keeps names = true → listing.fileAt? names = other.fileAt? names

variable {keeps : List String → Bool} {listing other : Listing} {names : List String}

theorem AgreeOn.symm (h : listing.AgreeOn keeps other) : other.AgreeOn keeps listing where
  unlinked := h.unlinked_other
  unlinked_other := h.unlinked
  dirs := fun names => (h.dirs names).symm
  files := fun names hkeeps => (h.files names hkeeps).symm

theorem hasDir_iff : listing.hasDir names = true ↔ ∃ inside, listing.entryAt? names = some (.dir inside) := by
  unfold hasDir
  cases listing.entryAt? names with
  | none => simp
  | some entry => cases entry <;> simp [Entry.isDir]

theorem AgreeOn.exists_dir (h : listing.AgreeOn keeps other) {inside : Listing}
    (hdir : listing.entryAt? names = some (.dir inside)) :
    ∃ within, other.entryAt? names = some (.dir within) := by
  rw [← hasDir_iff, ← h.dirs, hasDir_iff]
  exact ⟨inside, hdir⟩

theorem isUnlinked_cons {n : String} {e : Entry} {rest : Listing} :
    (cons n e rest).isUnlinked = true ↔
      (∀ target, e ≠ .link target) ∧ (∀ inside, e = .dir inside → inside.isUnlinked = true) ∧
        rest.isUnlinked = true := by
  cases e with
  | file bytes => simp [cons, isUnlinked]
  | link target => simp [cons, isUnlinked]
  | dir inside => simp [cons, isUnlinked]

theorem isUnlinked_of_find? {name : String} {entry : Entry} (h : listing.isUnlinked = true)
    (hfind : listing.find? name = some entry) :
    (∀ target, entry ≠ .link target) ∧ ∀ inside, entry = .dir inside → inside.isUnlinked = true := by
  induction listing using cons_induction with
  | nil => cases hfind
  | cons n e rest ih =>
    obtain ⟨hlink, hinside, hrest⟩ := isUnlinked_cons.1 h
    rw [find?_cons] at hfind
    split at hfind
    · cases hfind
      exact ⟨hlink, hinside⟩
    · exact ih hrest hfind

theorem isUnlinked_of_entryAt? {entry : Entry} (h : listing.isUnlinked = true)
    (hentry : listing.entryAt? names = some entry) :
    (∀ target, entry ≠ .link target) ∧ ∀ inside, entry = .dir inside → inside.isUnlinked = true := by
  induction names generalizing listing with
  | nil =>
    cases hentry
    refine ⟨nofun, ?_⟩
    rintro inside ⟨⟩
    exact h
  | cons name rest ih =>
    by_cases hrest : rest = []
    · subst hrest
      exact isUnlinked_of_find? h hentry
    · obtain ⟨between, hfind, hbelow⟩ := find?_of_entryAt?_cons hrest hentry
      exact ih ((isUnlinked_of_find? h hfind).2 between rfl) hbelow

theorem AgreeOn.inside (h : listing.AgreeOn keeps other) {inside within : Listing}
    (hinside : listing.entryAt? names = some (.dir inside))
    (hwithin : other.entryAt? names = some (.dir within)) :
    inside.AgreeOn (fun more => keeps (names ++ more)) within where
  unlinked := (isUnlinked_of_entryAt? h.unlinked hinside).2 inside rfl
  unlinked_other := (isUnlinked_of_entryAt? h.unlinked_other hwithin).2 within rfl
  dirs := by
    intro more
    have hdirs := h.dirs (names ++ more)
    rwa [hasDir, hasDir, entryAt?_append more hinside, entryAt?_append more hwithin] at hdirs
  files := by
    intro more hkeeps
    have hfiles := h.files (names ++ more) hkeeps
    rwa [fileAt?, fileAt?, entryAt?_append more hinside, entryAt?_append more hwithin] at hfiles

/-! ## Looking up -/

end Listing

/-- What is found where a walk through a listing comes to a stop. -/
def Stop.lookup (listing : Listing) : Stop → Option Entry
  | .found names => listing.entryAt? names
  | .removed => some (.dir .nil)
  | _ => none

theorem Path.stackOf_injective : Function.Injective stackOf := by
  intro names others h
  have hroots := List.reverse_injective h
  exact List.map_injective_iff.2 Component.normal_injective (List.cons.inj hroots).2

namespace Listing

variable {keeps : List String → Bool} {listing other : Listing} {names : List String}

theorem hasDir_dropLast {here : List String} (h : listing.hasDir here = true) :
    listing.hasDir here.dropLast = true := by
  rcases List.eq_nil_or_concat here with rfl | ⟨front, last, rfl⟩
  · exact h
  · obtain ⟨inside, hinside⟩ := hasDir_iff.1 h
    rw [List.concat_eq_append] at hinside ⊢
    obtain ⟨between, hbetween, -⟩ := exists_dir_of_entryAt?_append (by simp) hinside
    rw [List.dropLast_concat]
    exact hasDir_iff.2 ⟨between, hbetween⟩

theorem Passes.hasDir {here there : List String} {s : List Char} (h : listing.Passes here s there)
    (hhere : listing.hasDir here = true) : listing.hasDir there = true := by
  cases h with
  | idle _ => exact hhere
  | parent _ => exact hasDir_dropLast hhere
  | dir _ _ hentry => exact hasDir_iff.2 ⟨_, hentry⟩

/-- A walk goes on past the same segments where all its directories are. -/
theorem Passes.of_hasDir {here there : List String} {s : List Char}
    (h : listing.Passes here s there)
    (hdirs : ∀ names, listing.hasDir names = true → other.hasDir names = true) :
    other.Passes here s there := by
  cases h with
  | idle hs => exact .idle hs
  | parent hs => exact .parent hs
  | dir hs hshort hentry =>
    obtain ⟨within, hwithin⟩ := hasDir_iff.1 (hdirs _ (hasDir_iff.2 ⟨_, hentry⟩))
    exact .dir hs hshort hwithin

/-- The directory behind a segment is the one a path with this segment works out to. -/
theorem Passes.pushNormal {here there : List String} {s : List Char}
    (h : listing.Passes here s there) (rest : List (List Char)) :
    ((s :: rest).filterMap Component.ofSegment).foldl Path.pushNormal (Path.stackOf here) =
      (rest.filterMap Component.ofSegment).foldl Path.pushNormal (Path.stackOf there) := by
  cases h with
  | idle hs => rw [List.filterMap_cons_none hs]
  | parent hs => rw [List.filterMap_cons_some hs, List.foldl_cons, Path.pushNormal_parent]
  | dir hs _ _ =>
    rw [List.filterMap_cons_some hs, List.foldl_cons, Path.pushNormal_name]

theorem stride_ne_link (h : listing.isUnlinked = true) {here : List String}
    {segments : List (List Char)} {folder : List String} {name : String} {target : Path}
    {rest : List (List Char)} : listing.stride here segments ≠ .link folder name target rest := by
  induction segments generalizing here with
  | nil => rintro ⟨⟩
  | cons s more ih =>
    obtain ⟨there, hpasses⟩ | hhalts := listing.passes_or_halts here s
    · rw [hpasses.stride]
      exact ih
    · intro hlink
      have hlast := hhalts more
      rw [hlink] at hlast
      cases hlast with
      | link _ _ hentry => exact (isUnlinked_of_entryAt? h hentry).1 _ rfl

theorem follow_eq_stride (h : listing.isUnlinked = true) (final : Bool) (hops : Nat)
    (here : List String) (segments : List (List Char)) :
    listing.follow final hops here segments = listing.stride here segments := by
  cases hops with
  | zero =>
    rw [follow]
    split
    · rename_i hlink
      exact absurd hlink (stride_ne_link h)
    · rfl
  | succ hops =>
    rw [follow]
    split
    · rename_i hlink
      exact absurd hlink (stride_ne_link h)
    · rfl

/-- Where no directory is called as the next segment, the walk finds something only at its end. -/
theorem stride_of_not_hasDir (h : listing.isUnlinked = true) {here : List String} {s : List Char}
    {rest : List (List Char)} {name : String} (hs : Component.ofSegment s = some (.normal name))
    (hshort : name.utf8ByteSize ≤ maxNameBytes) (hdir : listing.hasDir (here ++ [name]) = false) :
    (listing.stride here (s :: rest)).lookup listing =
      if rest = [] then listing.entryAt? (here ++ [name]) else none := by
  cases hentry : listing.entryAt? (here ++ [name]) with
  | none =>
    by_cases hrest : rest = []
    · subst hrest
      rw [(Halts.missing hs hshort hentry).stride]
      rfl
    · rw [(Halts.notFound hs hshort hentry hrest).stride, if_neg hrest]
      rfl
  | some entry =>
    cases entry with
    | file bytes =>
      by_cases hrest : rest = []
      · subst hrest
        rw [(Halts.file hs hshort hentry).stride]
        exact hentry
      · rw [(Halts.notDirectory hs hshort hentry hrest).stride, if_neg hrest]
        rfl
    | link target => exact absurd rfl ((isUnlinked_of_entryAt? h hentry).1 target)
    | dir inside =>
      rw [hasDir, hentry] at hdir
      cases hdir

/-- The walk along segments in two listings that agree: both find what is at the names the segments
are worked out to, or neither finds anything. -/
theorem AgreeOn.stride (h : listing.AgreeOn keeps other) {here : List String}
    {segments : List (List Char)}
    (hstack : (segments.filterMap Component.ofSegment).foldl Path.pushNormal (Path.stackOf here) =
      Path.stackOf names) :
    ((listing.stride here segments).lookup listing = listing.entryAt? names ∧
        (other.stride here segments).lookup other = other.entryAt? names) ∨
      ((listing.stride here segments).lookup listing = none ∧
        (other.stride here segments).lookup other = none) := by
  induction segments generalizing here with
  | nil =>
    obtain rfl := Path.stackOf_injective hstack
    exact Or.inl ⟨rfl, rfl⟩
  | cons s rest ih =>
    obtain ⟨there, hpasses⟩ | hhalts := listing.passes_or_halts here s
    · have hother : other.Passes here s there :=
        hpasses.of_hasDir fun names hdir => (h.dirs names).symm.trans hdir
      rw [hpasses.pushNormal] at hstack
      rw [hpasses.stride, hother.stride]
      exact ih hstack
    · obtain ⟨name, hs, hlong | ⟨hshort, hnone⟩⟩ := (hhalts rest).exists_name
      · rw [(Halts.tooLong hs hlong).stride, (Halts.tooLong hs hlong).stride]
        exact Or.inr ⟨rfl, rfl⟩
      · have hdir : listing.hasDir (here ++ [name]) = false := by
          rw [Bool.eq_false_iff]
          intro hdir
          obtain ⟨inside, hinside⟩ := hasDir_iff.1 hdir
          exact hnone inside hinside
        rw [stride_of_not_hasDir h.unlinked hs hshort hdir,
          stride_of_not_hasDir h.unlinked_other hs hshort (h.dirs _ ▸ hdir)]
        by_cases hrest : rest = []
        · subst hrest
          rw [List.filterMap_cons_some hs, List.filterMap_nil, List.foldl_cons,
            Path.pushNormal_name] at hstack
          obtain rfl := Path.stackOf_injective hstack
          exact Or.inl ⟨rfl, rfl⟩
        · rw [if_neg hrest, if_neg hrest]
          exact Or.inr ⟨rfl, rfl⟩

/-! ## Steps of a walk -/

end Listing

/-- Whether a walk from a directory may meet a file to which names lead from there. -/
def Config.admits (config : Config) (names : List String) : Bool :=
  (names.all fun name => !config.excludes name) &&
    names.getLast?.any fun name => config.supports ⟨name⟩

namespace Listing

variable {config : Config} {base : Path} {listing other : Listing}

theorem entryAt?_of_find?_eq_none {x : String} (xs : List String) (h : listing.find? x = none) :
    listing.entryAt? (x :: xs) = none := by
  cases hentry : listing.entryAt? (x :: xs) with
  | none => rfl
  | some entry =>
    obtain ⟨e, he⟩ := find?_of_entryAt? hentry
    rw [h] at he
    cases he

theorem find?_eq_none_of_isAbove {x : String} (h : listing.isAbove x = true) :
    listing.find? x = none := by
  cases hfind : listing.find? x with
  | none => rfl
  | some entry => exact absurd (isAbove_iff.1 h x (mem_names_of_find? hfind)) (String.lt_irrefl x)

/-- Behind other heads the first entry of a listing plays no part. -/
theorem entryAt?_behind {n x : String} {e : Entry} {rest : Listing} (xs : List String) (h : n ≠ x) :
    (cons n e rest).entryAt? (x :: xs) = rest.entryAt? (x :: xs) :=
  entryAt?_congr xs (by rw [find?_cons, if_neg h])

/-- Agreement is about what is found at names. -/
theorem AgreeOn.of_entryAt? {keeps : List String → Bool} {rest others : Listing}
    (h : listing.AgreeOn keeps other) (hrest : rest.isUnlinked = true)
    (hothers : others.isUnlinked = true)
    (hlook : ∀ x xs, (rest.entryAt? (x :: xs) = listing.entryAt? (x :: xs) ∧
        others.entryAt? (x :: xs) = other.entryAt? (x :: xs)) ∨
      (rest.entryAt? (x :: xs) = none ∧ others.entryAt? (x :: xs) = none)) :
    rest.AgreeOn keeps others where
  unlinked := hrest
  unlinked_other := hothers
  dirs := by
    intro names
    cases names with
    | nil => rfl
    | cons x xs =>
      have hdirs := h.dirs (x :: xs)
      unfold hasDir at hdirs ⊢
      rcases hlook x xs with ⟨hfirst, hsecond⟩ | ⟨hfirst, hsecond⟩
      · rw [hfirst, hsecond, hdirs]
      · rw [hfirst, hsecond]
  files := by
    intro names hkeeps
    cases names with
    | nil => rfl
    | cons x xs =>
      have hfiles := h.files (x :: xs) hkeeps
      unfold fileAt? at hfiles ⊢
      rcases hlook x xs with ⟨hfirst, hsecond⟩ | ⟨hfirst, hsecond⟩
      · rw [hfirst, hsecond, hfiles]
      · rw [hfirst, hsecond]

variable {n : String} {d e : Entry} {rest others : Listing}

/-- Listings that agree and start with the same name agree behind it. -/
theorem AgreeOn.behind {keeps : List String → Bool}
    (h : (cons n d rest).AgreeOn keeps (cons n e others))
    (hw : (cons n d rest).wellFormed = true) (hother : (cons n e others).wellFormed = true) :
    rest.AgreeOn keeps others := by
  obtain ⟨-, -, habove, -⟩ := wellFormed_cons.1 hw
  obtain ⟨-, -, hbelow, -⟩ := wellFormed_cons.1 hother
  refine h.of_entryAt? (isUnlinked_cons.1 h.unlinked).2.2 (isUnlinked_cons.1 h.unlinked_other).2.2
    fun x xs => ?_
  by_cases hx : n = x
  · subst hx
    exact Or.inr ⟨entryAt?_of_find?_eq_none xs (find?_eq_none_of_isAbove habove),
      entryAt?_of_find?_eq_none xs (find?_eq_none_of_isAbove hbelow)⟩
  · exact Or.inl ⟨(entryAt?_behind xs hx).symm, (entryAt?_behind xs hx).symm⟩

/-- An entry that the other listing lacks is a file that no walk meets. -/
theorem AgreeOn.skip (h : (cons n d rest).AgreeOn config.admits other)
    (hw : (cons n d rest).wellFormed = true) (hnone : other.find? n = none) :
    d.steps config base n = [] ∧ rest.AgreeOn config.admits other := by
  obtain ⟨hname, -, habove, -⟩ := wellFormed_cons.1 hw
  have hfirst : (cons n d rest).entryAt? [n] = some d := by
    rw [entryAt?, find?_cons, if_pos rfl]
  constructor
  · cases d with
    | link target => rfl
    | dir inside =>
      obtain ⟨within, hwithin⟩ := h.exists_dir hfirst
      rw [entryAt?_of_find?_eq_none [] hnone] at hwithin
      cases hwithin
    | file bytes =>
      have hskipped : config.admits [n] ≠ true := by
        intro hadmits
        have hfiles := h.files [n] hadmits
        rw [fileAt?, fileAt?, hfirst, entryAt?_of_find?_eq_none [] hnone] at hfiles
        cases hfiles
      have hsupports : config.supports (base.child n) = config.supports ⟨n⟩ :=
        Config.supports_child (isName_of_isEntryName hname)
      rw [Entry.steps, hsupports, if_neg]
      simpa [Config.admits] using hskipped
  · refine h.of_entryAt? (isUnlinked_cons.1 h.unlinked).2.2 h.unlinked_other fun x xs => ?_
    by_cases hx : n = x
    · subst hx
      exact Or.inr ⟨entryAt?_of_find?_eq_none xs (find?_eq_none_of_isAbove habove),
        entryAt?_of_find?_eq_none xs hnone⟩
    · exact Or.inl ⟨(entryAt?_behind xs hx).symm, rfl⟩

/-- The steps at entries that both listings start with, given those of their directories. -/
theorem AgreeOn.steps_head (h : (cons n d rest).AgreeOn config.admits (cons n e others))
    (hinside : ∀ inside within, d = .dir inside → e = .dir within →
      config.excludes n = false → inside.AgreeOn config.admits within →
      inside.steps config (base.child n) = within.steps config (base.child n)) :
    d.steps config base n = e.steps config base n := by
  have hfirst : (cons n d rest).entryAt? [n] = some d := by
    rw [entryAt?, find?_cons, if_pos rfl]
  have hsecond : (cons n e others).entryAt? [n] = some e := by
    rw [entryAt?, find?_cons, if_pos rfl]
  have hdirs := h.dirs [n]
  rw [hasDir, hasDir, hfirst, hsecond] at hdirs
  cases d with
  | link target => exact absurd rfl ((isUnlinked_cons.1 h.unlinked).1 target)
  | file bytes =>
    cases e with
    | link target => exact absurd rfl ((isUnlinked_cons.1 h.unlinked_other).1 target)
    | file bytes => rfl
    | dir within => cases hdirs
  | dir inside =>
    cases e with
    | link target => exact absurd rfl ((isUnlinked_cons.1 h.unlinked_other).1 target)
    | file bytes => cases hdirs
    | dir within =>
      rw [Entry.steps, Entry.steps]
      cases hexcl : config.excludes n with
      | true => rfl
      | false =>
        have hbelow := h.inside hfirst hsecond
        have hadmits : inside.AgreeOn config.admits within := by
          refine { hbelow with files := fun names hnames => hbelow.files names ?_ }
          cases names with
          | nil => cases hnames
          | cons x xs =>
            unfold Config.admits at hnames ⊢
            simpa [hexcl] using hnames
        rw [hinside inside within rfl rfl hexcl hadmits]

theorem sizeOf_rest_lt (n : String) (e : Entry) (rest : Listing) :
    sizeOf rest < sizeOf (cons n e rest) := by
  cases e with
  | file bytes => simp only [cons, file.sizeOf_spec]; omega
  | link target => simp only [cons, link.sizeOf_spec]; omega
  | dir inside => simp only [cons, dir.sizeOf_spec]; omega

theorem sizeOf_inside_lt (n : String) (inside rest : Listing) :
    sizeOf inside < sizeOf (cons n (.dir inside) rest) := by
  simp only [cons, dir.sizeOf_spec]
  omega

/-- The steps of a walk through two listings that agree on the files a walk may meet. -/
theorem AgreeOn.steps_eq (h : listing.AgreeOn config.admits other)
    (hw : listing.wellFormed = true) (hother : other.wellFormed = true) :
    listing.steps config base = other.steps config base := by
  -- both listings ascend, so the lesser of the two first names is missing in the other listing
  induction hsize : sizeOf listing + sizeOf other using Nat.strongRecOn
    generalizing listing other base with
  | ind size ih =>
    rcases listing.eq_nil_or_cons with rfl | ⟨n, d, rest, rfl⟩
    · rcases other.eq_nil_or_cons with rfl | ⟨m, e, others, rfl⟩
      · rfl
      · have hlt := sizeOf_rest_lt m e others
        obtain ⟨-, -, -, hothers⟩ := wellFormed_cons.1 hother
        obtain ⟨hnil, hbehind⟩ := h.symm.skip hother rfl
        rw [steps_cons, hnil, List.nil_append]
        exact ih _ (by omega) hbehind.symm hw hothers rfl
    · have hlt := sizeOf_rest_lt n d rest
      obtain ⟨-, hd, habove, hrest⟩ := wellFormed_cons.1 hw
      rcases other.eq_nil_or_cons with rfl | ⟨m, e, others, rfl⟩
      · obtain ⟨hnil, hbehind⟩ := h.skip hw rfl
        rw [steps_cons, hnil, List.nil_append]
        exact ih _ (by omega) hbehind hrest hother rfl
      · have hltOther := sizeOf_rest_lt m e others
        obtain ⟨-, he, hbelow, hothers⟩ := wellFormed_cons.1 hother
        have horder : n < m ∨ n = m ∨ m < n := by
          by_cases hnm : n < m
          · exact Or.inl hnm
          · by_cases heq : n = m
            · exact Or.inr (Or.inl heq)
            · exact Or.inr (Or.inr (TextSet.lt_of_not_lt_of_ne hnm heq))
        rcases horder with hnm | rfl | hmn
        · obtain ⟨hnil, hbehind⟩ := h.skip hw
            (find?_eq_none_of_isAbove (isAbove_cons.2 ⟨hnm, isAbove_of_lt hnm hbelow⟩))
          rw [steps_cons, hnil, List.nil_append]
          exact ih _ (by omega) hbehind hrest hother rfl
        · have hbehind := h.behind hw hother
          rw [steps_cons, steps_cons, ih _ (by omega) hbehind hrest hothers rfl]
          rw [h.steps_head]
          rintro inside within rfl rfl - hinside
          have hfirst := sizeOf_inside_lt n inside rest
          have hsecond := sizeOf_inside_lt n within others
          exact ih _ (by omega) hinside hd he rfl
        · obtain ⟨hnil, hbehind⟩ := h.symm.skip hother
            (find?_eq_none_of_isAbove (isAbove_cons.2 ⟨hmn, isAbove_of_lt hmn habove⟩))
          rw [steps_cons m, hnil, List.nil_append]
          exact ih _ (by omega) hbehind.symm hw hothers rfl

end Listing

/-! ## What a path stands for -/

namespace Tree

variable {tree other : Tree} {keeps : List String → Bool} {p : Path} {names : List String}

theorem entry?_eq (tree : Tree) (p : Path) : tree.entry? p = (tree.locate p).lookup tree.root := by
  unfold entry? Stop.lookup
  cases tree.locate p <;> rfl

theorem isDir_eq (tree : Tree) (p : Path) : tree.isDir p = (tree.entry? p).any Entry.isDir := by
  unfold isDir
  cases tree.entry? p with
  | none => rfl
  | some entry => cases entry <;> rfl

theorem isFile_eq (tree : Tree) (p : Path) :
    tree.isFile p = ((tree.entry? p).bind Entry.bytes?).isSome := by
  unfold isFile
  cases tree.entry? p with
  | none => rfl
  | some entry => cases entry <;> rfl

theorem source?_eq (tree : Tree) (p : Path) :
    tree.source? p = ((tree.entry? p).bind Entry.bytes?).bind String.fromUTF8? := by
  unfold source? readText read
  split
  · rename_i fault hblocked
    rw [entry?_eq, hblocked]
    rfl
  · rename_i bytes hfile _
    rw [hfile]
    simp only [bind, Except.bind, Option.bind, Entry.bytes?]
    cases String.fromUTF8? bytes <;> rfl
  · rename_i entry hnotFile hentry _
    rw [hentry]
    cases entry with
    | file bytes => exact (hnotFile bytes rfl).elim
    | link target => rfl
    | dir inside => rfl
  · rename_i hnone _
    rw [hnone]
    rfl

end Tree

namespace Listing.AgreeOn

variable {tree other : Tree} {keeps : List String → Bool} {p : Path} {names : List String}

/-- In trees that agree an absolute path stands for what is found at the names it is worked out to, or
for nothing in both. -/
theorem entry?_eq (h : tree.root.AgreeOn keeps other.root) (hp : p.isAbsolute = true)
    (hstack : p.components.foldl Path.pushNormal [] = Path.stackOf names) :
    (tree.entry? p = tree.root.entryAt? names ∧ other.entry? p = other.root.entryAt? names) ∨
      (tree.entry? p = none ∧ other.entry? p = none) := by
  rw [Path.components_of_absolute hp, List.foldl_cons, ← Path.filterMap_body] at hstack
  have hstride := h.stride (show (p.body.filterMap Component.ofSegment).foldl Path.pushNormal
    (Path.stackOf []) = Path.stackOf names from hstack)
  rw [Tree.entry?_eq, Tree.entry?_eq]
  unfold Tree.locate Tree.stop
  rw [hp]
  split
  · exact Or.inr ⟨rfl, rfl⟩
  · split
    · exact Or.inr ⟨rfl, rfl⟩
    · split
      · exact Or.inr ⟨rfl, rfl⟩
      · rw [if_pos rfl, if_pos rfl, follow_eq_stride h.unlinked, follow_eq_stride h.unlinked_other]
        exact hstride

theorem isDir_eq (h : tree.root.AgreeOn keeps other.root) (hp : p.isAbsolute = true) :
    tree.isDir p = other.isDir p := by
  obtain ⟨names, hstack, -⟩ := Path.exists_stack hp
  rw [Tree.isDir_eq, Tree.isDir_eq]
  rcases h.entry?_eq hp hstack with ⟨hfirst, hsecond⟩ | ⟨hfirst, hsecond⟩
  · rw [hfirst, hsecond]
    exact h.dirs names
  · rw [hfirst, hsecond]

/-- A path that leads to a directory leads to the directory at the names it is worked out to. -/
theorem exists_dir_of_isDir (h : tree.root.AgreeOn keeps other.root) (hp : p.isAbsolute = true)
    (hstack : p.components.foldl Path.pushNormal [] = Path.stackOf names)
    (hdir : tree.isDir p = true) :
    ∃ inside within, tree.entry? p = some (.dir inside) ∧ other.entry? p = some (.dir within) ∧
      tree.root.entryAt? names = some (.dir inside) ∧
      other.root.entryAt? names = some (.dir within) := by
  obtain ⟨inside, hinside⟩ := Tree.entry?_of_isDir hdir
  rcases h.entry?_eq hp hstack with ⟨hfirst, hsecond⟩ | ⟨hfirst, -⟩
  · rw [hinside] at hfirst
    obtain ⟨within, hwithin⟩ := h.exists_dir hfirst.symm
    exact ⟨inside, within, hinside, hsecond.trans hwithin, hfirst.symm, hwithin⟩
  · rw [hinside] at hfirst
    cases hfirst

/-- A path that is worked out to a file on which the trees agree stands for the same file in both. -/
theorem bytes?_eq (h : tree.root.AgreeOn keeps other.root) (hp : p.isAbsolute = true)
    (hstack : p.components.foldl Path.pushNormal [] = Path.stackOf names)
    (hfile : tree.root.fileAt? names = other.root.fileAt? names) :
    (tree.entry? p).bind Entry.bytes? = (other.entry? p).bind Entry.bytes? := by
  rcases h.entry?_eq hp hstack with ⟨hfirst, hsecond⟩ | ⟨hfirst, hsecond⟩
  · rw [hfirst, hsecond]
    exact hfile
  · rw [hfirst, hsecond]

end Listing.AgreeOn

/-! ## One tree without symbolic links -/

theorem Listing.AgreeOn.refl {listing : Listing} (h : listing.isUnlinked = true)
    (keeps : List String → Bool) : listing.AgreeOn keeps listing :=
  ⟨h, h, fun _ => rfl, fun _ _ => rfl⟩

/-- Without symbolic links a path along names stands for what lies where the names lead. -/
theorem Tree.entryAt?_of_spells {tree : Tree} {p : Path} {names : List String} {entry : Entry}
    (hunlinked : tree.root.isUnlinked = true) (hp : p.Spells names) (h : tree.entry? p = some entry) :
    tree.root.entryAt? names = some entry := by
  rcases (Listing.AgreeOn.refl hunlinked fun _ => true).entry?_eq hp.isAbsolute hp.stack with
    ⟨hfound, -⟩ | ⟨hnone, -⟩
  · rw [← hfound, h]
  · rw [h] at hnone
    cases hnone

end DocAtlas
