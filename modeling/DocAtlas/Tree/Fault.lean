/-! # Failures of the file system

* `TreeFault` — why a path cannot be read or written
* `TreeFault.message` — the words for it
-/

set_option autoImplicit false

namespace DocAtlas

/-- Why a path cannot be read or written. -/
inductive TreeFault where
  /-- A name on the way stands for nothing. -/
  | notFound
  /-- A name on the way stands for something that is no directory. -/
  | notDirectory
  /-- A file was wanted and a directory found. -/
  | isDirectory
  /-- A name has more than 255 bytes, or a path more than 4095. -/
  | nameTooLong
  /-- More symbolic links on the way than may be followed. -/
  | tooManyLinks
  /-- The path holds a NUL, which no name can. -/
  | innerNul
  /-- The bytes of a file are no text. -/
  | notText
  deriving DecidableEq, Repr

def TreeFault.message : TreeFault → String
  | notFound => "No such file or directory (os error 2)"
  | notDirectory => "Not a directory (os error 20)"
  | isDirectory => "Is a directory (os error 21)"
  | nameTooLong => "File name too long (os error 36)"
  | tooManyLinks => "Too many levels of symbolic links (os error 40)"
  | innerNul => "file name contained an unexpected NUL byte"
  | notText => "stream did not contain valid UTF-8"

end DocAtlas
