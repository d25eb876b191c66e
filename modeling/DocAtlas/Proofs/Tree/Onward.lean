import DocAtlas.Proofs.Path.Joining
import DocAtlas.Proofs.Tree.Agreement
import DocAtlas.Proofs.Tree.Reading

/-! # Going on from a directory that is found

A path may lead to a directory through symbolic links and `..`, or start where the working directory
is. However it leads there, the path along more names leads on along the entries of that directory, as
long as it is not too long.

* `Listing.stride_cases` — how a walk that is gone on with depends on its beginning
* `Listing.follow_onward`, `Tree.climb_onward` — a walk that comes to a directory goes on from there
* `Tree.entry?_below` — what a path along more names stands for
-/

set_option autoImplicit false

namespace DocAtlas

/-! ## The path of an entry -/

theorem Path.text_child_ne {p : Path} {name : String} (hp : p.text ≠ "") (h : IsName name) :
    (p.child name).text ≠ "" := by
  intro hnil
  have htext := text_join_relative (p := p) (isAbsolute_name h)
  rw [← child, hnil] at htext
  split at htext
  · exact toList_ne_of_ne (t := "") hp (List.append_eq_nil_iff.1 htext.symm).1
  · simp at htext

theorem Path.nul_notMem_child {p : Path} {name : String} (hp : '\x00' ∉ p.text.toList)
    (h : isEntryName name = true) : '\x00' ∉ (p.child name).text.toList := by
  have hname := nul_notMem_of_isEntryName h
  rw [child, text_join_relative (isAbsolute_name (isName_of_isEntryName h))]
  split
  · simp [hp, hname]
  · simp [hp, hname]

/-! ## Walks that are gone on with -/

/-- A stop at a directory or at a symbolic link, from which a longer walk would go on. -/
def Stop.leadsOn (root : Listing) : Stop → Bool
  | .found names => root.hasDir names
  | .link .. => true
  | _ => false

namespace Listing

variable {root : Listing} {here names : List String} {front last more : List (List Char)}

theorem stride_of_idle (h : ∀ s ∈ last, Component.ofSegment s = none) :
    root.stride here last = .found here := by
  induction last with
  | nil => rfl
  | cons s last ih =>
    simp only [stride, h s List.mem_cons_self]
    exact ih fun t ht => h t (List.mem_cons_of_mem s ht)

/-- The beginning of a walk comes to a directory or to a symbolic link, whatever follows, or nothing
that follows leads anywhere. -/
theorem stride_cases (root : Listing) (here : List String) (front : List (List Char)) :
    (∃ names, ∀ more, root.stride here (front ++ more) = root.stride names more) ∨
    (∃ folder name target rest, ∀ more,
      root.stride here (front ++ more) = .link folder name target (rest ++ more)) ∨
    ∀ more, (root.stride here (front ++ more)).leadsOn root = false := by
  induction front generalizing here with
  | nil => exact Or.inl ⟨here, fun _ => rfl⟩
  | cons s front ih =>
    obtain ⟨there, hpasses⟩ | hhalts := root.passes_or_halts here s
    · simp only [List.cons_append, hpasses.stride]
      exact ih there
    by_cases hlink : ∃ name target, Component.ofSegment s = some (.normal name) ∧
        name.utf8ByteSize ≤ maxNameBytes ∧ root.entryAt? (here ++ [name]) = some (.link target)
    · obtain ⟨name, target, hs, hshort, hentry⟩ := hlink
      exact Or.inr (Or.inl ⟨here, name, ⟨target⟩, front, fun more =>
        (Halts.link hs hshort hentry).stride⟩)
    · refine Or.inr (Or.inr fun more => ?_)
      have hlast := hhalts (front ++ more)
      rw [List.cons_append]
      generalize root.stride here (s :: (front ++ more)) = stop at hlast ⊢
      generalize front ++ more = rest at hlast
      cases hlast with
      | link hs hshort hentry => exact absurd ⟨_, _, hs, hshort, hentry⟩ hlink
      | file _ _ hentry =>
        rw [Stop.leadsOn, hasDir, hentry]
        rfl
      | tooLong => rfl
      | missing => rfl
      | notFound => rfl
      | notDirectory => rfl

theorem follow_ne_found {segments : List (List Char)} {final : Bool} {hops : Nat}
    (h : (root.stride here segments).leadsOn root = false) (hdir : root.hasDir names = true) :
    root.follow final hops here segments ≠ .found names := by
  intro hfound
  cases hstop : root.stride here segments with
  | link folder name target rest => simp [hstop, Stop.leadsOn] at h
  | found others =>
    rw [follow_of_found hstop] at hfound
    cases hfound
    rw [hstop, Stop.leadsOn, hdir] at h
    cases h
  | missing folder name => cases hops <;> simp [follow, hstop] at hfound
  | removed => cases hops <;> simp [follow, hstop] at hfound
  | blocked fault => cases hops <;> simp [follow, hstop] at hfound

/-- A walk that comes to a directory, with nothing but idle segments at its end, goes on from there. -/
theorem follow_onward {target : List String} {hops : Nat}
    (hidle : ∀ s ∈ last, Component.ofSegment s = none)
    (h : root.follow true hops here (front ++ last) = .found names) (hdir : root.hasDir names = true)
    (hmore : root.stride names more = .found target) :
    root.follow true hops here (front ++ more) = .found target := by
  -- the induction is on the links that are left to follow: each puts its target before the rest
  induction hops using Nat.strongRecOn generalizing here front with
  | ind hops ih =>
    rcases root.stride_cases here front with
      ⟨names', hfront⟩ | ⟨folder, name, path, rest, hfront⟩ | hfront
    · rw [follow_of_found ((hfront last).trans (stride_of_idle hidle))] at h
      cases h
      exact follow_of_found ((hfront more).trans hmore)
    · cases hops with
      | zero => simp [follow, hfront] at h
      | succ hops =>
        rw [follow, hfront] at h ⊢
        simp only [Bool.true_eq_false, and_false, if_false, ← List.append_assoc] at h ⊢
        split at h
        · cases h
        · rename_i htext
          rw [if_neg htext]
          exact ih hops (Nat.lt_succ_self hops) h
    · exact absurd h (follow_ne_found (hfront last) hdir)

end Listing

namespace Tree

variable {tree : Tree} {p : Path} {inside within : Listing}

theorem climb_of_idle {walk : List String → List (List Char) → Stop} {here : List String} {lost : Nat}
    {last : List (List Char)} (hidle : ∀ s ∈ last, Component.ofSegment s = none) :
    climb walk here (lost + 1) last = .removed := by
  induction last with
  | nil => rw [climb]
  | cons s last ih =>
    simp only [climb, hidle s List.mem_cons_self]
    exact ih fun t ht => hidle t (List.mem_cons_of_mem s ht)

/-- A walk from removed directories goes on as it does from those that are there. -/
theorem climb_onward {walk : List String → List (List Char) → Stop} {here names : List String}
    {lost : Nat} {front last more : List (List Char)} {stop : Stop}
    (hidle : ∀ s ∈ last, Component.ofSegment s = none)
    (hwalk : ∀ here front, walk here (front ++ last) = .found names → walk here (front ++ more) = stop)
    (h : climb walk here lost (front ++ last) = .found names) :
    climb walk here lost (front ++ more) = stop := by
  induction front generalizing here lost with
  | nil =>
    cases lost with
    | zero =>
      rw [climb] at h ⊢
      exact hwalk here [] h
    | succ lost =>
      rw [List.nil_append, climb_of_idle hidle] at h
      cases h
  | cons s front ih =>
    cases lost with
    | zero =>
      rw [climb] at h ⊢
      exact hwalk here (s :: front) h
    | succ lost =>
      rw [List.cons_append, climb] at h ⊢
      split at h
      · cases h
      · exact ih h
      · exact ih h

/-- The directory a path leads to leads on to its directories. -/
theorem locate_child_of_dir {names : List String} {name : String} (hlocate : tree.locate p = .found names)
    (hdir : tree.root.entryAt? names = some (.dir inside)) (hfind : inside.find? name = some (.dir within))
    (hshort : isTooLong (p.child name) = false) :
    tree.locate (p.child name) = .found (names ++ [name]) := by
  have hentry : tree.root.entryAt? (names ++ [name]) = some (.dir within) := by
    rw [Listing.entryAt?_append _ hdir, Listing.entryAt?, hfind]
  have hvalid : isEntryName name = true :=
    (Listing.isEntryName_of_entryAt? tree.wellFormed hentry).1 name (by simp)
  have hname := isName_of_isEntryName hvalid
  have hstep : tree.root.stride names [name.toList] = .found (names ++ [name]) :=
    (Listing.Passes.dir (Component.ofSegment_name hname) (utf8ByteSize_le_of_isEntryName hvalid)
      hentry).stride []
  have hwalk : ∀ here front last, (∀ s ∈ last, Component.ofSegment s = none) →
      tree.root.follow true maxHops here (front ++ last) = .found names →
        tree.root.follow true maxHops here (front ++ [name.toList]) = .found (names ++ [name]) :=
    fun here front last hidle h =>
      Listing.follow_onward hidle h (Listing.hasDir_iff.2 ⟨inside, hdir⟩) hstep
  obtain ⟨hnul, htext, hshortBase⟩ := of_stop_found hlocate
  obtain ⟨front, last, hbody, hidle, hchild, -⟩ :=
    Path.exists_body_join htext (Path.isAbsolute_name hname)
  rw [Path.segments_name hname, ← Path.child] at hchild
  have habsolute : (p.child name).isAbsolute = p.isAbsolute :=
    Path.isAbsolute_join_eq htext (Path.isAbsolute_name hname)
  rw [locate, stop_eq hnul htext hshortBase, hbody] at hlocate
  rw [locate, stop_eq (Path.nul_notMem_child hnul hvalid) (Path.text_child_ne htext hname) hshort,
    habsolute, hchild]
  split at hlocate
  · rename_i habs
    rw [if_pos habs]
    exact hwalk [] front last hidle hlocate
  · rename_i habs
    rw [if_neg habs]
    exact climb_onward hidle (fun here front => hwalk here front last hidle) hlocate

theorem entry?_child_of_dir {name : String} (h : tree.entry? p = some (.dir inside))
    (hfind : inside.find? name = some (.dir within)) (hshort : isTooLong (p.child name) = false) :
    tree.entry? (p.child name) = some (.dir within) := by
  unfold entry? at h
  split at h
  · rename_i names hlocate
    rw [Tree.entry?, locate_child_of_dir hlocate h hfind hshort]
    dsimp only
    rw [Listing.entryAt?_append _ h, Listing.entryAt?, hfind]
  · -- a removed directory has no entries
    cases h
    cases hfind
  · cases h

/-- A path that leads to a directory leads on along the directories in it, as long as it is short
enough. -/
theorem entry?_below {names : List String} (h : tree.entry? p = some (.dir inside))
    (hdir : inside.entryAt? names = some (.dir within)) (hshort : isTooLong (p.below names) = false) :
    tree.entry? (p.below names) = some (.dir within) := by
  induction names generalizing p inside with
  | nil =>
    cases hdir
    exact h
  | cons n names ih =>
    obtain ⟨between, hfind, hbehind⟩ := Listing.find?_dir_of_entryAt? hdir
    have hw := wellFormed_of_present h
    have hnames : ∀ m ∈ names, IsName m := fun m hm =>
      isName_of_isEntryName ((Listing.isEntryName_of_entryAt? hw hdir).1 m (by simp [hm]))
    have hchild := entry?_child_of_dir h hfind (isTooLong_of_below hnames hshort)
    exact ih hchild hbehind hshort

end Tree

end DocAtlas
