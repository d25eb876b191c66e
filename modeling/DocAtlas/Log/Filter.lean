import DocAtlas.Log.Entry
import DocAtlas.Regex.Match
import DocAtlas.Regex.Parse
import DocAtlas.Text.Blank

/-! # Log filters

A filter is written as directives between commas, possibly followed by a slash and a regular
expression that has to match some part of a message. A directive is a level, the start of a target,
or both with an equals sign between them.

* `LogFilter` — directives and the expression
* `LogFilter.admits` — whether an entry passes
* `LogFilter.parse` — the filter that is written, and what is said of its faults
-/

set_option autoImplicit false

namespace DocAtlas

/-- One directive: the targets that start with `target`, all of them if there is none, pass up to
the level of the given rank. -/
structure LogDirective where
  target : Option String
  rank : Nat
  deriving DecidableEq, Repr

/-- What entries have to meet. -/
structure LogFilter where
  directives : List LogDirective
  /-- What some part of the message has to match. -/
  pattern : Option Regex := none
  deriving DecidableEq, Repr

namespace LogFilter

/-- The rank of the level with a name, in whatever case; `off` ranks below all levels. -/
def rankOfName? (name : String) : Option Nat :=
  match String.ofList (name.toList.map Char.toLower) with
  | "off" => some 0
  | "error" => some Level.error.rank
  | "warn" => some Level.warn.rank
  | "info" => some Level.info.rank
  | "debug" => some Level.debug.rank
  | "trace" => some Level.trace.rank
  | _ => none

/-- Whether a directive speaks of a target. -/
def LogDirective.concerns (directive : LogDirective) (target : String) : Bool :=
  match directive.target with
  | none => true
  | some start => start.toList.isPrefixOf target.toList

/-- The number of bytes in the target of a directive. -/
def LogDirective.reach (directive : LogDirective) : Nat :=
  (directive.target.map String.utf8ByteSize).getD 0

/-- The directive with the longest target that speaks of `target`; of several the last. -/
def decisive? (directives : List LogDirective) (target : String) : Option LogDirective :=
  directives.foldl (fun best d =>
    if LogDirective.concerns d target then
      match best with
      | none => some d
      | some b => if LogDirective.reach b ≤ LogDirective.reach d then some d else best
    else best) none

/-- Whether an entry passes. Without directives, errors pass. -/
def admits (filter : LogFilter) (entry : LogEntry) : Bool :=
  let rank := if filter.directives = [] then Level.error.rank
    else ((decisive? filter.directives entry.area.target).map (·.rank)).getD 0
  entry.level.rank ≤ rank && filter.pattern.all (·.occursIn entry.message)

/-! ## Reading -/

/-- The directives with one more, in place of one for the same target. -/
def insert (directives : List LogDirective) (d : LogDirective) : List LogDirective :=
  if directives.any (·.target == d.target) then
    directives.map fun e => if e.target = d.target then d else e
  else directives ++ [d]

def trimText (s : List Char) : String := String.ofList (Text.trim s)

/-- The directive a text writes, else what is wrong with it. -/
def directive (s : List Char) : Except String LogDirective :=
  match s.splitOn '=' with
  | [single] =>
    match rankOfName? (String.ofList single) with
    | some rank => .ok ⟨none, rank⟩
    | none => .ok ⟨some (String.ofList single), Level.trace.rank⟩
  | [target, level] =>
    let level := trimText level
    if level = "" then .ok ⟨some (String.ofList target), Level.trace.rank⟩
    else match rankOfName? level with
      | some rank => .ok ⟨some (String.ofList target), rank⟩
      | none => .error s!"invalid logging spec '{level}'"
  | _ => .error s!"invalid logging spec '{String.ofList s}'"

/-- The warning for a fault in a filter. -/
def warning (fault : String) : String := s!"warning: {fault}, ignoring it"

/-- The directives that texts write, and the warnings for those that write none. -/
def parseDirectives (texts : List (List Char)) : List LogDirective × List String :=
  texts.foldl (fun (directives, warnings) s =>
    match directive s with
    | .ok d => (insert directives d, warnings)
    | .error fault => (directives, warnings ++ [warning fault])) ([], [])

/-- The directives that a text writes between commas, and the warnings for what cannot be read. -/
def parseList (s : List Char) : List LogDirective × List String :=
  parseDirectives (((s.splitOn ',').map Text.trim).filter (· != []))

/-- The filter a text writes, and the warnings for what cannot be read. -/
def parse (spec : String) : LogFilter × List String :=
  match spec.toList.splitOn '/' with
  | [s] =>
    let (directives, warnings) := parseList s
    (⟨directives, none⟩, warnings)
  | [s, pattern] =>
    let (directives, warnings) := parseList s
    let pattern := String.ofList pattern
    match Regex.parse pattern with
    | .ok r => (⟨directives, some r⟩, warnings)
    | .error refusal =>
      let report := s!"invalid regex filter - {refusal.report pattern}"
      (⟨directives, none⟩, warnings ++ [warning report])
  | _ => (⟨[], none⟩, [warning s!"invalid logging spec '{spec}' (too many '/'s)"])

end LogFilter

end DocAtlas
