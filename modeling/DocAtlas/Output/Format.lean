import DocAtlas.Fault
import DocAtlas.Output.Value

/-! # Formats of reports

* `ReportFormat` — the formats a report can be asked for in
* `ReportFormat.ofName` — the format with a name
* `Serializer` — the values that cannot be written in a format
* `unlines`, `paddedPriority` — parts of the plain text
-/

set_option autoImplicit false

namespace DocAtlas

/-- The format of a report. -/
inductive ReportFormat where
  | json
  | text
  | yaml
  deriving DecidableEq, Repr

namespace ReportFormat

/-- The format with a name, in whatever case. -/
def ofName? (name : String) : Option ReportFormat :=
  match String.ofList (name.toList.map Char.toLower) with
  | "json" => some .json
  | "text" => some .text
  | "txt" => some .text
  | "yaml" => some .yaml
  | "yml" => some .yaml
  | _ => none

/-- The format with a name, or the failure for an unknown one. -/
def ofName (name : String) : Except Fault ReportFormat :=
  match ofName? name with
  | some format => .ok format
  | none => .error (.unknownFormat name)

def name : ReportFormat → String
  | json => "json"
  | text => "text"
  | yaml => "yaml"

end ReportFormat

/-! ## Serializers -/

/-- The values that are not written, each with the reason why it is refused, such as a path in it that is
no Unicode. A value that is not refused is written as `Json.document` and `Yaml.document` say. The
program's own serializer refuses nothing, since every text here is Unicode. -/
structure Serializer where
  /-- Why a value is not written as JSON. -/
  jsonRefusal? : Value → Option String := fun _ => none
  /-- Why a value is not written as YAML. -/
  yamlRefusal? : Value → Option String := fun _ => none

namespace Serializer

/-- The failure to write a value in a format. Plain text has no serializer. -/
def refusal? (serializer : Serializer) (format : ReportFormat) (value : Value) : Option Fault :=
  match format with
  | .json => (serializer.jsonRefusal? value).map .json
  | .text => none
  | .yaml => (serializer.yamlRefusal? value).map .yaml

/-- The text for a value, unless the value is refused. -/
def accept (serializer : Serializer) (format : ReportFormat) (value : Value) (text : String) :
    Except Fault String :=
  match serializer.refusal? format value with
  | some fault => .error fault
  | none => .ok text

end Serializer

/-! ## Plain text -/

/-- Lines, each with its end. -/
def unlines (lines : List String) : String := String.join (lines.map (· ++ "\n"))

/-- A priority, three characters wide. -/
def paddedPriority (n : Nat) : String :=
  let digits := toString n
  String.ofList (List.replicate (3 - digits.length) ' ') ++ digits

end DocAtlas
