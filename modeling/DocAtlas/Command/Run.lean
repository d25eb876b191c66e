import DocAtlas.Command.Check
import DocAtlas.Command.Write

/-! # Running commands

* `Command.run` — the run of a command in a file tree
-/

set_option autoImplicit false

namespace DocAtlas

/-- The run of a command, with a serializer for its report. -/
def Command.run (tree : Tree) (command : Command) (serializer : Serializer := {}) : Run :=
  match command with
  | .check docs => .check tree docs
  | .discover docs output format => .discover tree docs output format serializer
  | .contents docs output format respectToctrees =>
    .contents tree docs output format respectToctrees serializer
  | .watch docs => .watch tree docs

end DocAtlas
