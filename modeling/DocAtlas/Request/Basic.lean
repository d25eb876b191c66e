import DocAtlas.Command.Basic

/-! # Requests

* `Request` — what a command line asks for
* `Request.Kind`, `Request.Options` — the command that is named, and what is said about it
* `Request.Options.command` — the command both make
-/

set_option autoImplicit false

namespace DocAtlas

/-- What a command line asks for. -/
inductive Request where
  /-- A command, with the number of times more log output was asked for. -/
  | run (verbosity : Nat) (command : Command)
  | version
  | help
  /-- The arguments make no request. -/
  | rejected
  deriving DecidableEq, Repr

namespace Request

/-- The commands by name. -/
inductive Kind where
  | check
  | discover
  | contents
  | watch
  deriving DecidableEq, Repr

def Kind.ofName? : String → Option Kind
  | "check" => some .check
  | "discover" => some .discover
  | "toc" => some .contents
  | "watch" => some .watch
  | _ => none

/-- Whether a command writes a report, in a format and possibly to a file. -/
def Kind.writesReport : Kind → Bool
  | .discover => true
  | .contents => true
  | _ => false

/-- The options that take a value. -/
inductive Valued where
  | format
  | output
  deriving DecidableEq, Repr

/-- What the arguments behind the name of a command have said so far. -/
structure Options where
  docs : Option String := none
  format : Option String := none
  output : Option String := none
  respectToctrees : Bool := false
  verbosity : Nat := 0
  deriving DecidableEq, Repr

namespace Options

/-- The options with one more value, none if it was given before or is an empty path. -/
def set (options : Options) (option : Valued) (value : String) : Option Options :=
  match option with
  | .format => if options.format.isSome then none else some { options with format := some value }
  | .output =>
    if options.output.isSome || value = "" then none else some { options with output := some value }

/-- The options with the documentation root, none if it was given before or is empty. -/
def setDocs (options : Options) (value : String) : Option Options :=
  if options.docs.isSome || value = "" then none else some { options with docs := some value }

def command (options : Options) : Kind → Command
  | .check => .check (options.docs.map Path.mk)
  | .watch => .watch (options.docs.map Path.mk)
  | .discover =>
    .discover (options.docs.map Path.mk) (options.output.map Path.mk)
      (options.format.getD "text")
  | .contents =>
    .contents (options.docs.map Path.mk) (options.output.map Path.mk)
      (options.format.getD "text") options.respectToctrees

end Options

end Request

end DocAtlas
