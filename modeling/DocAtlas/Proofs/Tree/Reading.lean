import DocAtlas.Tree.Source
import DocAtlas.Proofs.Layout.Address
import DocAtlas.Proofs.Tree.Descent

/-! # Reading files

A file whose directory is reached along names is read there, however the directory is spelled, unless
the path is too long.

* `Listing.stride_append` — the walk goes on from the directory it has come to
* `Tree.locate_child`, `Tree.entry?_child` — a file in a directory along names is found
* `Tree.source?_child` — its text
-/

set_option autoImplicit false

namespace DocAtlas

namespace Listing

/-- A walk that has come to a directory goes on from there. -/
theorem stride_append {root inside : Listing} {here names : List String}
    {segments : List (List Char)} (more : List (List Char))
    (h : root.stride here segments = .found names)
    (hdir : root.entryAt? names = some (.dir inside)) :
    root.stride here (segments ++ more) = root.stride names more := by
  induction segments generalizing here with
  | nil =>
    cases h
    rfl
  | cons s rest ih =>
    obtain ⟨there, hpasses⟩ | hhalts := root.passes_or_halts here s
    · rw [hpasses.stride] at h
      rw [List.cons_append, hpasses.stride]
      exact ih h
    · -- what is found at a segment that stops the walk is a file
      have hlast := hhalts rest
      rw [h] at hlast
      cases hlast with
      | file _ _ hentry =>
        rw [hentry] at hdir
        cases hdir

end Listing

namespace Tree

variable {tree : Tree} {base : Path} {names : List String} {name : String}

theorem stride_child {inside : Listing} (hbase : base.Spells names) (hname : IsName name)
    (h : tree.root.entryAt? names = some (.dir inside)) :
    tree.root.stride [] (base.child name).body = tree.root.stride names [name.toList] := by
  obtain ⟨front, hbody, hfront⟩ := Path.body_child hbase.isAbsolute hname
  have hstart := stride_of_dir (hfront.trans hbase.filterMap_segments) h
  rw [hbody, Listing.stride_append _ hstart h]

/-- A file in a directory along names is found if its path is not too long. -/
theorem locate_child {bytes : ByteArray} (hbase : base.Spells names)
    (h : tree.root.entryAt? (names ++ [name]) = some (.file bytes)) :
    tree.locate (base.child name) =
      if isTooLong (base.child name) then .blocked .nameTooLong else .found (names ++ [name]) := by
  obtain ⟨hentries, -⟩ := Listing.isEntryName_of_entryAt? tree.wellFormed h
  have hentry : isEntryName name = true := hentries name (by simp)
  have hname := isName_of_isEntryName hentry
  obtain ⟨inside, hdir, -⟩ := Listing.exists_dir_of_entryAt?_append (by simp) h
  have hspells := hbase.child hname
  have hstride : tree.root.stride [] (base.child name).body = .found (names ++ [name]) := by
    rw [stride_child hbase hname hdir]
    exact (Listing.Halts.file (Component.ofSegment_name hname)
      (utf8ByteSize_le_of_isEntryName hentry) h).stride
  rw [locate_eq hspells (nul_notMem_of_spells hspells hentries), Listing.follow_of_found hstride]

theorem entry?_child {bytes : ByteArray} (hbase : base.Spells names)
    (h : tree.root.entryAt? (names ++ [name]) = some (.file bytes)) :
    tree.entry? (base.child name) =
      if isTooLong (base.child name) then none else some (.file bytes) := by
  unfold entry?
  rw [locate_child hbase h]
  cases isTooLong (base.child name) with
  | true => rfl
  | false => exact h

theorem source?_child {bytes : ByteArray} (hbase : base.Spells names)
    (h : tree.root.entryAt? (names ++ [name]) = some (.file bytes)) :
    tree.source? (base.child name) =
      if isTooLong (base.child name) then none else String.fromUTF8? bytes := by
  have hlocate := locate_child hbase h
  have hentry := entry?_child hbase h
  unfold source? readText read
  rw [hlocate, hentry]
  cases isTooLong (base.child name) with
  | true => rfl
  | false =>
    simp only [Bool.false_eq_true, if_false]
    cases htext : String.fromUTF8? bytes with
    | none => simp [bind, Except.bind, htext, Except.toOption]
    | some text => simp [bind, Except.bind, htext, Except.toOption]

end Tree

end DocAtlas
