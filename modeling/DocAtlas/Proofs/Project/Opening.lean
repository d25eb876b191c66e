import DocAtlas.Proofs.Site.Grounded
import DocAtlas.Proofs.Tree.Agreement
import DocAtlas.Proofs.Tree.Reading

/-! # Opening a documentation in two trees

A documentation is opened by its root and the configuration file in it, so two trees that agree on
that file open it alike.

* `Tree.read_child` — what is read at a name of a directory
* `Project.resolveRoot_of_dir` — a directory along names is its own resolved path
* `Project.openDocs_of_agree` — the layout and the configuration are the same
-/

set_option autoImplicit false

namespace DocAtlas

namespace Tree

variable {tree : Tree} {base : Path} {names : List String} {name : String} {inside : Listing}

theorem read_child (h : tree.root.isUnlinked = true) (hbase : base.Spells names)
    (hdir : tree.root.entryAt? names = some (.dir inside)) (hname : isEntryName name = true) :
    tree.read (base.child name) =
      if isTooLong (base.child name) then .error .nameTooLong
      else if tree.root.hasDir (names ++ [name]) then .error .isDirectory
      else (tree.root.fileAt? (names ++ [name])).elim (.error .notFound) .ok := by
  have hspells := hbase.child (isName_of_isEntryName hname)
  have hentries : ∀ n ∈ names ++ [name], isEntryName n = true := by
    intro n hn
    rcases List.mem_append.1 hn with hn | hn
    · exact (Listing.isEntryName_of_entryAt? tree.wellFormed hdir).1 n hn
    · rw [List.mem_singleton.1 hn]
      exact hname
  have hlocate : tree.locate (base.child name) = _ :=
    locate_eq hspells (nul_notMem_of_spells hspells hentries)
  have hshort : ¬ maxNameBytes < name.utf8ByteSize :=
    Nat.not_lt.2 (utf8ByteSize_le_of_isEntryName hname)
  rw [Listing.follow_eq_stride h, stride_child hbase (isName_of_isEntryName hname) hdir] at hlocate
  simp only [Listing.stride, Component.ofSegment_name (isName_of_isEntryName hname), if_neg hshort,
    if_true] at hlocate
  unfold read entry? Listing.hasDir Listing.fileAt?
  rw [hlocate]
  cases isTooLong (base.child name) with
  | true => rfl
  | false =>
    cases hentry : tree.root.entryAt? (names ++ [name]) with
    | none => simp
    | some entry =>
      cases entry with
      | file bytes => simp [hentry, Entry.isDir, Entry.bytes?]
      | link target => exact absurd rfl ((Listing.isUnlinked_of_entryAt? h hentry).1 target)
      | dir within => simp [hentry, Entry.isDir]

end Tree

namespace Project

variable {tree other : Tree} {keeps : List String → Bool} {root : Path} {names : List String}
  {inside : Listing}

theorem isEntryName_fileName : isEntryName Config.fileName = true := by decide

theorem loadConfig_of_agree (h : tree.root.AgreeOn keeps other.root) (hroot : root.Spells names)
    (hdir : tree.root.entryAt? names = some (.dir inside))
    (hkeeps : keeps (names ++ [Config.fileName]) = true) :
    loadConfig other root = loadConfig tree root := by
  obtain ⟨within, hwithin⟩ := h.exists_dir hdir
  have hread : other.read (root.child Config.fileName) = tree.read (root.child Config.fileName) := by
    rw [Tree.read_child h.unlinked hroot hdir isEntryName_fileName,
      Tree.read_child h.unlinked_other hroot hwithin isEntryName_fileName, h.dirs, h.files _ hkeeps]
  unfold loadConfig Tree.readText
  rw [hread]

theorem resolveRoot_of_dir (hroot : root.Spells names)
    (hdir : tree.root.entryAt? names = some (.dir inside)) :
    resolveRoot tree root =
      if Tree.isTooLong root then .error (.docsDirNotFound root) else .ok (Tree.pathOf names) := by
  have hentry := Tree.entry?_of_dir hroot hdir
  have hlocate := Tree.locate_of_dir hroot hdir
  unfold resolveRoot Tree.isDir Tree.canonical Tree.resolve
  rw [hentry, hlocate, if_pos hroot.isAbsolute]
  cases Tree.isTooLong root with
  | true => rfl
  | false => rfl

/-- Two trees that agree on the configuration file in a directory along names are opened alike at that
directory. -/
theorem openDocs_of_agree (h : tree.root.AgreeOn keeps other.root) (hroot : root.Spells names)
    (hdir : tree.root.entryAt? names = some (.dir inside))
    (hkeeps : keeps (names ++ [Config.fileName]) = true) :
    openDocs other (some root) = openDocs tree (some root) := by
  obtain ⟨within, hwithin⟩ := h.exists_dir hdir
  have hresolve : resolveRoot other root = resolveRoot tree root :=
    (resolveRoot_of_dir hroot hwithin).trans (resolveRoot_of_dir hroot hdir).symm
  unfold openDocs Logged.andThen
  simp only [loadConfig_of_agree h hroot hdir hkeeps, hresolve, ← h.isDir_eq hroot.isAbsolute]

end Project

end DocAtlas
