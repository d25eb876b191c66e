import DocAtlas.Command.Basic

/-! # What a command looks at

A command looks at its documentation root, at the directories declared under it and at the paths that
references and toctree entries name. Both may lie elsewhere.

* `Command.docs`, `Command.output` — the paths a command was given
* `Command.declaredDirs` — the directories declared in its documentation
* `Site.namedPaths` — the paths that references and toctree entries name
* `Command.namedPaths` — those in the documentation of a command
-/

set_option autoImplicit false

namespace DocAtlas

/-- The paths that references and toctree entries name. -/
def Site.namedPaths (site : Site) : List Path :=
  (site.checks site.corpus).map (·.candidate) ++
    site.allSources.flatMap fun p =>
      match site.content p with
      | none => []
      | some content =>
        (Toctree.entries (Markup.ofPath p) content).map (site.candidate (site.baseOf p))

namespace Command

/-- The documentation root a command was given. -/
def docs : Command → Option Path
  | check docs => docs
  | discover docs _ _ => docs
  | contents docs _ _ _ => docs
  | watch docs => docs

/-- The file a command is to write. -/
def output : Command → Option Path
  | discover _ output _ => output
  | contents _ output _ _ => output
  | _ => none

/-- The directories declared in the documentation of a command. -/
def declaredDirs (tree : Tree) (command : Command) : List Path :=
  match (Project.openDocs tree command.docs).result with
  | .ok (layout, _) => layout.declaredDirs.map (·.dir)
  | .error _ => []

/-- The paths that references and toctree entries name in the documentation of a command. -/
def namedPaths (tree : Tree) (command : Command) : List Path :=
  match (Project.openDocs tree command.docs).result with
  | .ok (layout, config) => (Site.ofTree tree layout config).namedPaths
  | .error _ => []

end Command

end DocAtlas
