import DocAtlas.Path.Basic

/-! # Normalised paths

* `Path.normalize` — the path with its `.` and `..` components worked out
-/

set_option autoImplicit false

namespace DocAtlas

/-- The spelling of a component. -/
def Component.toPath : Component → Path
  | .root => ⟨"/"⟩
  | .current => ⟨"."⟩
  | .parent => ⟨".."⟩
  | .normal name => ⟨name⟩

namespace Path

/-- One more component on a stack whose top comes first: `.` adds nothing, and `..` takes back a
name, stays at the root and is kept where there is nothing to take back. -/
def pushNormal (stack : List Component) (c : Component) : List Component :=
  match c, stack with
  | .current, _ => stack
  | .parent, .normal _ :: rest => rest
  | .parent, .root :: _ => stack
  | c, _ => c :: stack

/-- The components with every `.` and `..` worked out. -/
def normalComponents (components : List Component) : List Component :=
  (components.foldl pushNormal []).reverse

def ofComponents (components : List Component) : Path :=
  components.foldl (fun p c => p.join c.toPath) ⟨""⟩

/-- The path with its `.` and `..` components worked out, as far as that needs no file system. -/
def normalize (p : Path) : Path := ofComponents (normalComponents p.components)

end Path

end DocAtlas
