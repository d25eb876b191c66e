import DocAtlas.Contents.Basic
import DocAtlas.Layout
import DocAtlas.Output.Format
import DocAtlas.Output.Json
import DocAtlas.Output.Yaml.Render

/-! # Reports on a table of contents

* `ContentsReport.toValue` — the value that JSON and YAML write
* `ContentsReport.textLines` — the lines of the plain text
* `ContentsReport.render` — the text of the report in a format
* `ContentsReport.serialize` — that text, unless the report is refused
-/

set_option autoImplicit false

namespace DocAtlas

def Issue.toValue : Issue → Value
  | .missingTarget source target =>
    .object [("type", .text "missing_target"), ("source", .text source.text), ("target", .text target)]
  | .unresolvedReference source target =>
    .object
      [("type", .text "unresolved_reference"), ("source", .text source.text), ("target", .text target)]

def Item.toValue (item : Item) : Value :=
  .object
    [("category", .text item.category.label), ("priority", .number item.priority),
     ("title", .text item.title), ("url", .text item.url)]

def Section.toValue (s : Section) : Value :=
  .object [("items", .list (s.items.map Item.toValue)), ("title", .text s.title)]

def Contents.toValue (contents : Contents) : Value :=
  .object (contents.sections.map fun s => (s.key, s.toValue))

namespace ContentsReport

def toValue (report : ContentsReport) : Value :=
  .object
    [("issues", .list (report.issues.map Issue.toValue)),
     ("orphans", .texts (report.orphans.map (·.text))),
     ("sections", report.contents.toValue)]

def itemLine (item : Item) : String :=
  s!"  [{paddedPriority item.priority}] {item.title} -> {item.url} ({item.category.label})"

def sectionLines (s : Section) : List String :=
  if s.items = [] then [] else s!"{s.title} [{s.key}]" :: s.items.map itemLine ++ [""]

def orphanLines (layout : Layout) (orphans : List Path) : List String :=
  if orphans = [] then []
  else s!"Orphans placed: {orphans.length}"
    :: orphans.map (fun p => s!"  {(layout.relative p).text}") ++ [""]

def issueLines (issues : List Issue) : List String :=
  if issues = [] then []
  else s!"Structural issues: {issues.length}" :: issues.map fun issue => s!"  {issue.describe}"

/-- The sections that have items, then the orphans and the issues. -/
def textLines (layout : Layout) (report : ContentsReport) : List String :=
  report.contents.sections.flatMap sectionLines ++ orphanLines layout report.orphans
    ++ issueLines report.issues

def render (layout : Layout) (format : ReportFormat) (report : ContentsReport) : String :=
  match format with
  | .json => Json.document report.toValue
  | .text => unlines (report.textLines layout)
  | .yaml => Yaml.document report.toValue

def serialize (serializer : Serializer) (layout : Layout) (format : ReportFormat)
    (report : ContentsReport) : Except Fault String :=
  serializer.accept format report.toValue (report.render layout format)

end ContentsReport

end DocAtlas
