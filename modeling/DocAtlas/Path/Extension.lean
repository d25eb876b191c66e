import DocAtlas.Path.Basic
import DocAtlas.Text.Search

/-! # File extensions

* `splitExtension` — a file name cut at its last dot
* `Path.fileStem`, `Path.extension` — the two parts of the name a path ends in
* `Path.withExtension` — the path with another extension
-/

set_option autoImplicit false

namespace DocAtlas

/-- A file name cut at its last dot into stem and extension. A name without a dot, and one whose
only dot comes first, has no extension. -/
def splitExtension (name : List Char) : List Char × Option (List Char) :=
  match Text.splitAtLast '.' name with
  | none => (name, none)
  | some ([], _) => (name, none)
  | some (stem, extension) => (stem, some extension)

namespace Path

def fileStem (p : Path) : Option String :=
  p.fileName.map fun name => String.ofList (splitExtension name.toList).1

def extension (p : Path) : Option String :=
  p.fileName.bind fun name => (splitExtension name.toList).2.map String.ofList

/-- A dot and the extension, nothing if the extension is empty. -/
def dotted (extension : List Char) : List Char :=
  if extension = [] then [] else '.' :: extension

/-- The path with `extension` in place of its own. A path that does not end in a name has none to
replace. The old extension is taken away first: of a path that ends in `..md` this leaves `..`,
which is no name any more and stays as it is. -/
def withExtension (p : Path) (extension : String) : Path :=
  match p.body.reverse.dropWhile isIdle with
  | [] => p
  | ['.', '.'] :: _ => p
  | last :: before =>
    let stem := (splitExtension last).1
    if stem = ['.'] ∧ p.body.getLast? = some last then
      spell p.isAbsolute (before.reverse ++ [['.', '.']])
    else
      spell p.isAbsolute (before.reverse ++ [stem ++ dotted extension.toList])

end Path

end DocAtlas
