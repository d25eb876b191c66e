import DocAtlas.Path.Normal
import DocAtlas.Tree.Fault
import DocAtlas.Tree.Order

/-! # File trees

A file tree is a root directory and a working directory. Looking a path up goes through the tree
segment by segment and follows symbolic links as it meets them. A working directory that was removed
stays the place where relative paths start, and none but `.` and `..` leads anywhere from there.

Every name is Unicode, and nothing is closed to whoever looks: a tree keeps no permissions.

* `Tree` — a well-formed listing for `/` and the working directory
* `Tree.workDir` — the path of the working directory
* `Tree.resolve` — the names that lead from the root to what a path stands for
* `Tree.isFile`, `Tree.isDir`, `Tree.isLink` — what a path stands for
* `Tree.read`, `Tree.listing?`, `Tree.canonical` — what is found there
* `Tree.write`, `Tree.plant`, `Tree.remove` — changes
-/

set_option autoImplicit false

namespace DocAtlas

/-- A root directory and the directory that relative paths start from. -/
structure Tree where
  root : Listing
  wellFormed : root.wellFormed = true := by decide
  /-- The names that lead to the working directory. -/
  here : List String := []
  /-- How many of the directories so named, from the last one on, have been removed. -/
  lost : Nat := 0

/-- Where a walk along segments comes to a stop. -/
inductive Stop where
  /-- At the end, at the file or directory to which `names` lead. -/
  | found (names : List String)
  /-- At the end, where `folder` has no entry called `name`. -/
  | missing (folder : List String) (name : String)
  /-- At a symbolic link in `folder`, with `rest` still to go. -/
  | link (folder : List String) (name : String) (target : Path) (rest : List (List Char))
  /-- At the end, at an empty directory that no name leads to any more. -/
  | removed
  /-- Where there is no way on. -/
  | blocked (fault : TreeFault)

namespace Listing

/-- The walk along `segments` from the directory to which `here` leads, up to the end or the first
symbolic link. -/
def stride (root : Listing) (here : List String) : List (List Char) → Stop
  | [] => .found here
  | segment :: rest =>
    match Component.ofSegment segment with
    | some (.normal name) =>
      if maxNameBytes < name.utf8ByteSize then .blocked .nameTooLong
      else match root.entryAt? (here ++ [name]) with
        | none => if rest = [] then .missing here name else .blocked .notFound
        | some (.file _) => if rest = [] then .found (here ++ [name]) else .blocked .notDirectory
        | some (.link target) => .link here name ⟨target⟩ rest
        | some (.dir _) => root.stride (here ++ [name]) rest
    | some .parent => root.stride here.dropLast rest
    | _ => root.stride here rest

/-- The walk along `segments` that follows symbolic links, at most `hops` of them. A link at the very
end is followed if `final` holds. -/
def follow (root : Listing) (final : Bool) : (hops : Nat) → List String → List (List Char) → Stop
  | 0, here, segments =>
    match root.stride here segments with
    | .link folder name target rest =>
      if rest = [] ∧ final = false then .link folder name target rest else .blocked .tooManyLinks
    | stop => stop
  | hops + 1, here, segments =>
    match root.stride here segments with
    | .link folder name target rest =>
      if rest = [] ∧ final = false then .link folder name target rest
      else if target.text = "" then .blocked .notFound
      else root.follow final hops (if target.isAbsolute then [] else folder) (target.body ++ rest)
    | stop => stop

/-- The walk along `segments` to a file that is to be written, which need not be there. No file has a
slash behind its name, whether the name stands in the path or in a link that is followed. -/
def approach (root : Listing) (hops : Nat) (here : List String) (segments : List (List Char)) :
    Stop :=
  if segments.getLast? = some [] then
    match root.follow true hops here (Text.dropEndWhile (· == []) segments).dropLast with
    | .found names =>
      match root.entryAt? names with
      | some (.file _) => .blocked .notDirectory
      | _ => .blocked .isDirectory
    | .blocked fault => .blocked fault
    | _ => .blocked .notFound
  else
    match root.stride here segments, hops with
    | .link folder _ target rest, hops + 1 =>
      if target.text = "" then .blocked .notFound
      else root.approach hops (if target.isAbsolute then [] else folder) (target.body ++ rest)
    | .link .., 0 => .blocked .tooManyLinks
    | stop, _ => stop

end Listing

namespace Tree

/-! ## Looking up -/

/-- The number of symbolic links that are followed on the way to one place. -/
def maxHops : Nat := 40

/-- The number of bytes a path may have. -/
def maxPathBytes : Nat := 4095

/-- Whether a path has more bytes than it may. -/
def isTooLong (p : Path) : Bool := decide (maxPathBytes < p.text.utf8ByteSize)

/-- The walk along segments from a directory of which the last `lost` names lead to removed
directories, `walk` being how the segments are gone along elsewhere. -/
def climb (walk : List String → List (List Char) → Stop) :
    (here : List String) → (lost : Nat) → List (List Char) → Stop
  | here, 0, segments => walk here segments
  | _, _ + 1, [] => .removed
  | here, lost + 1, segment :: rest =>
    match Component.ofSegment segment with
    | some (.normal _) => .blocked .notFound
    | some .parent => climb walk here.dropLast lost rest
    | _ => climb walk here (lost + 1) rest

/-- The stop of the walk along a path, `walk` being how the segments are gone along. -/
def stop (tree : Tree) (walk : List String → List (List Char) → Stop) (p : Path) : Stop :=
  if p.text.toList.contains '\x00' then .blocked .innerNul
  else if p.text = "" then .blocked .notFound
  else if isTooLong p then .blocked .nameTooLong
  else if p.isAbsolute then walk [] p.body
  else climb walk tree.here tree.lost p.body

/-- Where the walk along a path ends when every symbolic link is followed. -/
def locate (tree : Tree) (p : Path) : Stop := tree.stop (tree.root.follow true maxHops) p

/-- The names that lead from the root to the file or directory a path stands for. -/
def resolve (tree : Tree) (p : Path) : Except TreeFault (List String) :=
  match tree.locate p with
  | .found names => .ok names
  | .blocked fault => .error fault
  | _ => .error .notFound

/-- The file or directory a path stands for. -/
def entry? (tree : Tree) (p : Path) : Option Entry :=
  match tree.locate p with
  | .found names => tree.root.entryAt? names
  | .removed => some (.dir .nil)
  | _ => none

def isFile (tree : Tree) (p : Path) : Bool :=
  match tree.entry? p with
  | some (.file _) => true
  | _ => false

def isDir (tree : Tree) (p : Path) : Bool :=
  match tree.entry? p with
  | some (.dir _) => true
  | _ => false

/-- The directory a path stands for. -/
def listing? (tree : Tree) (p : Path) : Option Listing :=
  match tree.entry? p with
  | some (.dir inside) => some inside
  | _ => none

/-- The path without symbolic links, `.` and `..` that leads to the given names. -/
def pathOf (names : List String) : Path := names.foldl Path.child ⟨"/"⟩

/-- The path of the working directory. There is none once the directory was removed. -/
def workDir (tree : Tree) : Except TreeFault Path :=
  if tree.lost = 0 then .ok (pathOf tree.here) else .error .notFound

/-- The path without symbolic links, `.` and `..` to what a path stands for. For a relative path it
starts with that of the working directory. -/
def canonical (tree : Tree) (p : Path) : Except TreeFault Path :=
  if p.isAbsolute then (tree.resolve p).map pathOf
  else tree.workDir.bind fun _ => (tree.resolve p).map pathOf

/-- The bytes of the file a path stands for. -/
def read (tree : Tree) (p : Path) : Except TreeFault ByteArray :=
  match tree.locate p, tree.entry? p with
  | .blocked fault, _ => .error fault
  | _, some (.file bytes) => .ok bytes
  | _, some _ => .error .isDirectory
  | _, none => .error .notFound

/-- Whether the path leads to a symbolic link that is not followed. -/
def isLink (tree : Tree) (p : Path) : Bool :=
  match tree.stop (tree.root.follow false maxHops) p with
  | .link .. => true
  | _ => false

/-! ## Changes -/

/-- The tree with an entry at the end of a list of names, directories made on the way. -/
def plant (tree : Tree) (names : List String) (entry : Entry) (h : entry.wellFormed = true) :
    Tree :=
  { tree with
    root := tree.root.plantAt names entry
    wellFormed := Listing.wellFormed_plantAt h tree.wellFormed }

/-- The tree with a file at the end of a list of names. -/
def plantFile (tree : Tree) (names : List String) (bytes : ByteArray) : Tree :=
  tree.plant names (.file bytes) rfl

/-- The tree with a symbolic link at the end of a list of names. -/
def plantLink (tree : Tree) (names : List String) (target : String) : Tree :=
  tree.plant names (.link target) rfl

/-- The tree with a directory at the end of a list of names, which is left as it is if it is there
already. -/
def plantDir (tree : Tree) (names : List String) : Tree :=
  match tree.root.entryAt? names with
  | some (.dir _) => tree
  | _ => tree.plant names (.dir .nil) rfl

/-- How many directories on the way to the working directory are removed once the entry at the end of
a list of names is. -/
def lostAfter (tree : Tree) (names : List String) : Nat :=
  if names != [] && names.isPrefixOf (tree.here.take (tree.here.length - tree.lost)) then
    tree.here.length + 1 - names.length
  else tree.lost

/-- The tree without the entry at the end of a list of names. -/
def remove (tree : Tree) (names : List String) : Tree :=
  { root := tree.root.eraseAt names
    wellFormed := Listing.wellFormed_eraseAt tree.wellFormed
    here := tree.here
    lost := tree.lostAfter names }

/-- The names that lead to the file which writing to a path replaces or creates. -/
def target (tree : Tree) (p : Path) : Except TreeFault (List String) :=
  match tree.stop (tree.root.approach maxHops) p with
  | .found names =>
    match tree.root.entryAt? names with
    | some (.file _) => .ok names
    | _ => .error .isDirectory
  | .missing folder name => .ok (folder ++ [name])
  | .removed => .error .isDirectory
  | .blocked fault => .error fault
  | .link .. => .error .notFound

/-- The tree after a text was written to a path: in place of the file there, or as a new file in a
directory that is there. -/
def write (tree : Tree) (p : Path) (content : String) : Except TreeFault Tree :=
  (tree.target p).map fun names => tree.plantFile names content.toUTF8

end Tree

end DocAtlas
