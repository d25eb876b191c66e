import DocAtlas.Log.Entry
import DocAtlas.Path.Basic

/-! # Events of a run

What a run does besides computing its result, in order. A message is logged, a document is read, an
output address is formed. Reading may itself log a message, and no address can be formed with a
suffix that is no extension: what comes of the events is settled by the session they belong to.

* `Event` — one event
* `Event.debug`, `Event.info`, `Event.warn` — messages
-/

set_option autoImplicit false

namespace DocAtlas

/-- What a run does besides computing its result. -/
inductive Event where
  /-- A message is logged. -/
  | log (entry : LogEntry)
  /-- The content of a document is asked for. -/
  | read (path : Path)
  /-- An output address is formed for a path. -/
  | address (path : Path)
  deriving DecidableEq, Repr

namespace Event

def debug (area : Area) (message : String) : Event := .log ⟨.debug, area, message⟩

def info (area : Area) (message : String) : Event := .log ⟨.info, area, message⟩

def warn (area : Area) (message : String) : Event := .log ⟨.warn, area, message⟩

end Event

end DocAtlas
