import DocAtlas.Text.Blank

/-! # Paths as they are spelled

A path is a text cut at `/` into segments. Its components leave out what the spelling alone decides:
repeated slashes, a slash at the end and `.` segments.

* `Path`, `Path.segments`, `Path.components` — the spelled text and what it names
* `Path.join`, `Path.parent`, `Path.stripBase` — paths made from paths
* `Path.fileName`, `Path.startsWith`, `Path.same` — questions about the components
-/

set_option autoImplicit false

namespace DocAtlas

/-- A path with the spelling it was given. -/
structure Path where
  text : String
  deriving DecidableEq, Repr, Inhabited

/-- One step of a path. -/
inductive Component where
  /-- The `/` an absolute path starts with. -/
  | root
  /-- The `.` a relative path starts with. -/
  | current
  /-- A `..`. -/
  | parent
  /-- The name of a file or directory. -/
  | normal (name : String)
  deriving DecidableEq, Repr

/-- What a segment names: nothing if it is empty or a `.`. -/
def Component.ofSegment : List Char → Option Component
  | [] => none
  | ['.'] => none
  | ['.', '.'] => some .parent
  | name => some (.normal (String.ofList name))

/-- The name of a normal component. -/
def Component.name? : Component → Option String
  | .normal name => some name
  | _ => none

namespace Path

/-! ## Segments and components -/

/-- The pieces of the text between its slashes. -/
def segments (p : Path) : List (List Char) := p.text.toList.splitOn '/'

def isAbsolute (p : Path) : Bool := p.text.toList.head? == some '/'

/-- The segments behind the slash an absolute path starts with. -/
def body (p : Path) : List (List Char) := if p.isAbsolute then p.segments.tail else p.segments

/-- The component the spelling starts with, if it is `/` or `.`. -/
def lead (p : Path) : List Component :=
  if p.isAbsolute then [.root]
  else if p.segments.head? = some ['.'] then [.current]
  else []

def components (p : Path) : List Component := p.lead ++ p.body.filterMap Component.ofSegment

/-- The names among the components. -/
def names (p : Path) : List String := p.components.filterMap Component.name?

/-- Whether two paths have the same components. -/
def same (p q : Path) : Bool := p.components == q.components

/-- Whether the components of `base` are the first components of the path. -/
def startsWith (p base : Path) : Bool := base.components.isPrefixOf p.components

/-- The last component, if it is a name. -/
def fileName (p : Path) : Option String := p.components.getLast?.bind Component.name?

/-! ## Spelling -/

/-- The path with the given segments, behind a slash if it is absolute. -/
def spell (absolute : Bool) (segments : List (List Char)) : Path :=
  ⟨String.ofList ((if absolute then ['/'] else []) ++ ['/'].intercalate segments)⟩

/-- A segment that names no component. -/
def isIdle (segment : List Char) : Bool := segment == [] || segment == ['.']

/-- The segments without the idle ones at their end. The `.` a relative path starts with is kept. -/
def trimIdle (lead : List Component) (segments : List (List Char)) : List (List Char) :=
  if lead = [.current] then segments.take 1 ++ Text.dropEndWhile isIdle (segments.drop 1)
  else Text.dropEndWhile isIdle segments

/-! ## Paths made from paths -/

/-- `q` as seen from `p`: an absolute `q` stands for itself, any other is spelled behind `p` and one
slash, which is left out where `p` is empty or ends in one. -/
def join (p q : Path) : Path :=
  if q.isAbsolute then q
  else if p.text = "" || p.text.toList.getLast? = some '/' then ⟨p.text ++ q.text⟩
  else ⟨p.text ++ "/" ++ q.text⟩

/-- The entry called `name` in the directory `p`. -/
def child (p : Path) (name : String) : Path := p.join ⟨name⟩

/-- The path without its last component, none for `/` and for the empty path. -/
def parent (p : Path) : Option Path :=
  match p.components.getLast? with
  | none => none
  | some .root => none
  | some .current => some ⟨""⟩
  | some _ => some (spell p.isAbsolute (trimIdle p.lead (trimIdle p.lead p.body).dropLast))

/-- The path, its parent, the parent of that and so on, `n + 1` paths at most. -/
def ancestorsUpTo : Nat → Path → List Path
  | 0, p => [p]
  | n + 1, p => p :: (match p.parent with
    | none => []
    | some q => ancestorsUpTo n q)

/-- The path, its parent, the parent of that and so on. -/
def ancestors (p : Path) : List Path := ancestorsUpTo p.components.length p

/-- The segments behind the first `n` that name a component. -/
def dropNamed : Nat → List (List Char) → List (List Char)
  | 0, segments => segments
  | _ + 1, [] => []
  | n + 1, s :: rest => if isIdle s then dropNamed (n + 1) rest else dropNamed n rest

/-- What of the path lies behind `base`, as it is spelled between the first and the last segment
that names a component. None if the path does not start with `base`. -/
def stripBase (p base : Path) : Option Path :=
  if p.startsWith base then
    if base.components = [] then
      some (spell p.isAbsolute (trimIdle p.lead p.body))
    else
      let behind := dropNamed (base.components.length - p.lead.length) p.body
      some (spell false (Text.dropEndWhile isIdle (behind.dropWhile isIdle)))
  else
    none

end Path

end DocAtlas
