import DocAtlas.Config.Basic
import DocAtlas.Text.Lines
import DocAtlas.Tree.Fault

/-! # Failures of a run

* `Fault` — why a run ends without a result
* `Fault.message` — the failure in one line
* `Fault.diagnosis` — the failure and what can be done about it
* `Fault.errorLines` — the diagnosis as it is written to the error output

Why a configuration cannot be understood is not worked out: one reason stands for all.
-/

set_option autoImplicit false

namespace DocAtlas

/-- Why a run ends without a result. -/
inductive Fault where
  /-- The documentation root is no directory. -/
  | docsDirNotFound (path : Path)
  /-- A file cannot be read or written. -/
  | io (reason : String)
  | json (reason : String)
  /-- The configuration cannot be understood. -/
  | config (reason : String)
  | unknownFormat (name : String)
  | watch (reason : String)
  | yaml (reason : String)
  deriving DecidableEq, Repr

namespace Fault

/-- The failure of the file system as the failure of a run. -/
def ofTree (fault : TreeFault) : Fault := .io fault.message

/-- The failure to understand a configuration. -/
def invalidConfig : Fault := .config "invalid configuration"

def message : Fault → String
  | docsDirNotFound path => s!"documentation directory not found: {path.text}"
  | io reason => s!"io: {reason}"
  | json reason => s!"json: {reason}"
  | config reason => s!"toml deserialize: {reason}"
  | unknownFormat name => s!"unknown output format: `{name}`"
  | watch reason => s!"watch failed: {reason}"
  | yaml reason => s!"yaml: {reason}"

/-- A heading, an empty line and a paragraph. -/
def titled (heading paragraph : String) : String := s!"# {heading}\n\n{paragraph}\n"

/-- A way out under a heading of its own. -/
def fix (paragraph : String) : String := s!"\n## Fix\n\n{paragraph}\n"

/-- The failure and what can be done about it, under headings. -/
def diagnosis : Fault → String
  | docsDirNotFound path =>
    titled "Error: Documentation Directory Not Found"
      s!"`{path.text}` does not exist or is not a directory."
    ++ fix "Pass the documentation root explicitly:\n\n    docforge discover path/to/docs"
  | io reason => titled "Error: I/O" reason
  | json reason => titled "Error: JSON Serialization" reason
  | config reason =>
    titled "Error: Invalid Config" s!"`{Config.fileName}` could not be parsed:\n\n{reason}"
    ++ fix "Correct the file, or delete it to use the defaults."
  | unknownFormat name =>
    titled "Error: Unknown Output Format" s!"`{name}` is not a supported format."
    ++ fix "Use one of `json`, `yaml` or `text`:\n\n    docforge discover --format json"
  | watch reason => titled "Error: Watch Failed" reason
  | yaml reason =>
    titled "Error: YAML Serialization" reason
    ++ fix "Use `--format json` to get the same report as JSON."

/-- A line of a diagnosis on a terminal: headings are bold. -/
def emphasized (line : String) : String :=
  if line.toList.head? = some '#' then s!"\x1b[1m{line}\x1b[0m" else line

/-- The diagnosis as lines of the error output. -/
def errorLines (fault : Fault) : List String :=
  (Text.lines fault.diagnosis.toList).map fun line => emphasized (String.ofList line)

end Fault

end DocAtlas
