import DocAtlas.Command.Run
import DocAtlas.Log.Filter
import DocAtlas.Output.Format
import DocAtlas.Request.Parse

/-! # The program

* `Reply` — what the program leaves behind
* `Program.run` — what the program does with its arguments in a file tree

Some of what the program meets is not described:

* names that are no Unicode. A tree has none, and no title, address or order is told of a document with
  such a name. That a report with such a path is refused is told by a `Serializer`
* permissions. Whatever is there can be read, opened and written, within the limits on the length of names
  and paths and on the number of links that are followed
* changes of the file system while a command runs
* a watched documentation behind its first check
* the words for a configuration that cannot be understood and for arguments that make no request
-/

set_option autoImplicit false

namespace DocAtlas

/-- What the program leaves behind. -/
structure Reply where
  request : Request
  code : Nat
  stdout : String
  stderr : String
  /-- The run of the command, if one was asked for. -/
  run? : Option Run := none
  tree : Tree

namespace Program

def versionText : String := "docforge 0.1.0\n"

def helpText : String :=
  unlines
    ["Discover Sphinx documentation sources and reconcile them into a table of contents", "",
     "Usage: docforge [OPTIONS] <COMMAND>", "", "Commands:",
     "  check     Report orphans not reached by any toctree, and broken toctree entries",
     "  discover  Discover documentation files and dump the corpus",
     "  toc       Reconcile discovered and orphaned files into a table of contents",
     "  watch     Run check, then re-run it whenever documentation sources change",
     "  help      Print this message or the help of the given subcommand(s)", "", "Options:",
     "  -v, --verbose...  More log output: -v for info, -vv for debug",
     "  -h, --help        Print help", "  -V, --version     Print version"]

def usageText : String := "error: the arguments make no request\n\nFor more information, try '--help'.\n"

/-- The filter for a verbosity. -/
def filterFor (verbosity : Nat) : String :=
  match verbosity with
  | 0 => "warn"
  | 1 => "info"
  | _ => "debug"

/-- What the program does with its arguments in a file tree. A filter in `logSpec` takes the place of
the verbosity. -/
def run (tree : Tree) (args : List String) (logSpec : Option String)
    (serializer : Serializer := {}) : Reply :=
  let request := Request.parse args
  match request with
  | .version => { request, code := 0, stdout := versionText, stderr := "", tree }
  | .help => { request, code := 0, stdout := helpText, stderr := "", tree }
  | .rejected => { request, code := 2, stdout := "", stderr := usageText, tree }
  | .run verbosity command =>
    let (filter, warnings) := LogFilter.parse (logSpec.getD (filterFor verbosity))
    let run := command.run tree serializer
    { request := request
      code := run.code
      stdout := run.stdout
      stderr := unlines warnings
        ++ String.join ((run.log.filter filter.admits).map LogEntry.printed)
        ++ unlines run.errorLines
      run? := some run
      tree := run.tree }

end Program

end DocAtlas
