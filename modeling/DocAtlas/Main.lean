import DocAtlas.Command.Probes
import DocAtlas.Program

/-! # The program on a real file system

The file system is taken down as a tree: the directories on the way to the working directory, to the
documentation root and to every path that is named in a document, each with its entries, and the
whole content of the documentation root and of the directories declared under it. What may not be read
is taken for empty. The program then runs on the tree.

* `Snapshot` — taking down parts of the file system
* `main` — the program
-/

set_option autoImplicit false

namespace DocAtlas.Snapshot

/-- The working directory, the root if it was removed. -/
def workDir := show IO _ from try IO.currentDir catch _ => pure "/"

/-- A path from the root on. -/
def absolute (path : String) : IO String := return ((← workDir).join path).toString

/-- The names that lead to what a path stands for without symbolic links, if there is something. -/
def realNames (path : String) : IO (Option (List String)) := do
  try
    let real ← IO.FS.realPath path
    return if ← real.pathExists then some (Path.mk real.toString).names else none
  catch _ => return none

/-- Whether the names lead to a directory. -/
def isDirectory (names : List String) : IO Bool := do
  ((← workDir).join (Tree.pathOf names).text).isDir

/-- The tree with a file, and with its bytes if `deep` holds. -/
def takeFile (tree : Tree) (deep : Bool) (names : List String) : IO Tree := do
  if deep then
    let bytes ← try IO.FS.readBinFile (Tree.pathOf names).text catch _ => pure .empty
    return tree.plantFile names bytes
  else
    return if (tree.root.entryAt? names).isNone then tree.plantFile names .empty else tree

/-- The tree with the entries of the directory at `names`, and with all that lies below it if `deep`
holds. The directories to which links lead come with it. -/
partial def takeDir (tree : Tree) (deep : Bool) (names : List String) :
    IO (Tree × List (List String)) := do
  let mut tree := tree.plantDir names
  let mut linked : List (List String) := []
  let entries ← try ((← workDir).join (Tree.pathOf names).text).readDir catch _ => pure #[]
  for entry in entries do
    let place := names ++ [entry.fileName]
    match (← entry.path.symlinkMetadata).type with
    | .dir =>
      if deep then
        let (inner, found) ← takeDir tree deep place
        tree := inner
        linked := linked ++ found
      else
        tree := tree.plantDir place
    | .symlink =>
      match ← realNames entry.path.toString with
      | none => tree := tree.plantLink place ""
      | some target =>
        tree := tree.plantLink place (Tree.pathOf target).text
        if ← isDirectory target then
          tree := tree.plantDir target
          linked := linked ++ [target]
        else
          tree ← takeFile tree deep target
    | _ => tree ← takeFile tree deep place
  return (tree, linked)

/-- The tree with the entries of every directory on the way to a path. -/
def takeWay (tree : Tree) (path : String) : IO Tree := do
  let segments := (← absolute path).splitOn "/"
  let mut tree := tree
  for n in List.range segments.length do
    if let some names ← realNames ("/".intercalate (segments.take (n + 1)) ++ "/") then
      tree := (← takeDir tree false names).1
  return tree

/-- The tree with all that lies below some directories and below those to which links in them lead,
and all these directories. -/
partial def takeAll (tree : Tree) (taken : List (List String)) :
    List (List String) → IO (Tree × List (List String))
  | [] => return (tree, taken)
  | names :: rest => do
    if taken.contains names || !(← isDirectory names) then takeAll tree taken rest
    else
      let tree ← takeWay tree (Tree.pathOf names).text
      let (tree, linked) ← takeDir tree true names
      takeAll tree (names :: taken) (rest ++ linked)

/-- The part of the file system that a command looks at. -/
def take (command : Command) : IO Tree := do
  let here ← workDir
  let lost ← try pure (if (← IO.currentDir).toString.isEmpty then 1 else 0) catch _ => pure 1
  let mut tree : Tree := { root := .nil, here := (Path.mk here.toString).names, lost := lost }
  let mut taken : List (List String) := []
  tree ← takeWay tree here.toString
  let chosen := match command.docs with
    | some docs => some docs
    | none => tree.workDir.toOption.bind fun start => (Project.locate tree start).result.toOption
  if let some docs := chosen then
    tree ← takeWay tree docs.text
    let root ← realNames (← absolute docs.text)
    (tree, taken) ← takeAll tree taken root.toList
    let declared ← (command.declaredDirs tree).filterMapM fun dir => realNames dir.text
    (tree, taken) ← takeAll tree taken declared
  for dir in ((command.namedPaths tree).filterMap Path.parent).eraseDups do
    let known := match tree.resolve dir with
      | .ok names => taken.any fun root => root.isPrefixOf names
      | .error _ => false
    if !known then
      tree ← takeWay tree dir.text
  if let some output := command.output then
    tree ← takeWay tree output.text
  return tree

end DocAtlas.Snapshot

open DocAtlas in
/-- The program: the arguments decide what is done, and the exit code tells how it went. -/
def main (args : List String) : IO UInt32 := do
  let tree ← match Request.parse args with
    | .run _ command => Snapshot.take command
    | _ => pure { root := .nil }
  let reply := Program.run tree args (← IO.getEnv "DOCFORGE_LOG")
  if let some (path, report) := reply.run?.bind (·.written) then
    IO.FS.writeFile path.text report
  IO.eprint reply.stderr
  IO.print reply.stdout
  return UInt32.ofNat reply.code
