import DocAtlas.Text.Terminal

/-! # Log entries

* `Level`, `Area`, `LogEntry` — how grave a message is, what it is about, and the message
* `LogEntry.line` — the entry as a line
* `LogEntry.printed` — the line as it is written to the error output
-/

set_option autoImplicit false

namespace DocAtlas

/-- How grave a message is. -/
inductive Level where
  | error
  | warn
  | info
  | debug
  | trace
  deriving DecidableEq, Repr

namespace Level

/-- The number of levels up to this one. -/
def rank : Level → Nat
  | error => 1
  | warn => 2
  | info => 3
  | debug => 4
  | trace => 5

def label : Level → String
  | error => "ERROR"
  | warn => "WARN"
  | info => "INFO"
  | debug => "DEBUG"
  | trace => "TRACE"

end Level

/-- What a message is about. -/
inductive Area where
  | classify
  | commands
  | config
  | discovery
  | extract
  | paths
  | toc
  | toctree
  deriving DecidableEq, Repr

/-- The name of an area in filters and in log lines. -/
def Area.target : Area → String
  | .classify => "docforge::classify"
  | .commands => "docforge::commands"
  | .config => "docforge::config"
  | .discovery => "docforge::discovery"
  | .extract => "docforge::extract"
  | .paths => "docforge::paths"
  | .toc => "docforge::toc"
  | .toctree => "docforge::toctree"

/-- One message. -/
structure LogEntry where
  level : Level
  area : Area
  message : String
  deriving DecidableEq, Repr

/-- A message with four spaces before each of its further lines. -/
def indentFurtherLines (message : String) : String :=
  String.ofList (message.toList.flatMap fun c => if c = '\n' then "\n    ".toList else [c])

/-- The entry as a line. -/
def LogEntry.line (entry : LogEntry) : String :=
  let label := entry.level.label ++ String.ofList (List.replicate (5 - entry.level.label.length) ' ')
  s!"[{label} {entry.area.target}] {indentFurtherLines entry.message}"

/-- The line as it is written to the error output: without terminal controls. A sequence that is not
finished takes the end of the line with it. -/
def LogEntry.printed (entry : LogEntry) : String := Text.withoutControls (entry.line ++ "\n")

end DocAtlas
