import DocAtlas.Config.Basic
import DocAtlas.Log.Event
import DocAtlas.Tree.Basic

/-! # Source files of a directory

* `WalkStep` — what a walk through a directory meets
* `Listing.steps`, `Tree.steps` — the steps of a walk, what is excluded left out
* `Tree.sources` — the source files a walk from a path meets
* `Tree.walkEvents`, `WalkStep.events` — what happens on the way
-/

set_option autoImplicit false

namespace DocAtlas

/-- What a walk meets. -/
inductive WalkStep where
  /-- A source file. -/
  | source (p : Path)
  /-- A directory that cannot be opened because its path is too long. -/
  | unopened (p : Path)
  deriving DecidableEq, Repr

/-- The source file that is met. -/
def WalkStep.source? : WalkStep → Option Path
  | .source p => some p
  | .unopened _ => none

/-- The steps of a walk below the directory at `base`, each directory's where its name stands.
Symbolic links are passed over, and so is every excluded name with all that lies below it. -/
def Listing.steps (config : Config) (base : Path) : Listing → List WalkStep
  | .nil => []
  | .file name _ rest =>
    if !config.excludes name && config.supports (base.child name) then
      .source (base.child name) :: rest.steps config base
    else rest.steps config base
  | .link _ _ rest => rest.steps config base
  | .dir name inside rest =>
    (if config.excludes name then []
      else if Tree.isTooLong (base.child name) then [.unopened (base.child name)]
      else inside.steps config (base.child name))
      ++ rest.steps config base

namespace Tree

/-- The steps of a walk from `start`. The start is not excluded by its name; a start that is a file
is met itself unless it is a symbolic link. -/
def steps (tree : Tree) (config : Config) (start : Path) : List WalkStep :=
  match tree.entry? start with
  | some (.dir inside) => inside.steps config start
  | some (.file _) => if !tree.isLink start && config.supports start then [.source start] else []
  | _ => []

/-- The source files a walk from `start` meets. -/
def sources (tree : Tree) (config : Config) (start : Path) : List Path :=
  (tree.steps config start).filterMap WalkStep.source?

/-- What is logged of a path that cannot be opened. -/
def unreadableEvent (p : Path) (fault : TreeFault) : Event :=
  .warn .discovery
    s!"skipping unreadable entry: IO error for operation on {p.text}: {fault.message}"

/-- What a walk from `start` logs before its first step: a start that cannot be found. -/
def walkEvents (tree : Tree) (start : Path) : List Event :=
  match tree.resolve start with
  | .ok _ => []
  | .error fault => [unreadableEvent start fault]

end Tree

/-- What happens at a step of a walk, `met` being what happens at a source file. -/
def WalkStep.events (met : Path → List Event) : WalkStep → List Event
  | .source p => met p
  | .unopened p => [Tree.unreadableEvent p .nameTooLong]

end DocAtlas
