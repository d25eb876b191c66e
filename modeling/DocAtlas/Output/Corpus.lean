import DocAtlas.Corpus.Basic
import DocAtlas.Corpus.Links
import DocAtlas.Layout
import DocAtlas.Output.Format
import DocAtlas.Output.Json
import DocAtlas.Output.Yaml.Render

/-! # Reports on a corpus

* `CorpusReport` — a corpus, its fingerprint and its links
* `CorpusReport.toValue` — the value that JSON and YAML write
* `CorpusReport.textLines` — the lines of the plain text
* `CorpusReport.render` — the text of the report in a format
* `CorpusReport.serialize` — that text, unless the report is refused
-/

set_option autoImplicit false

namespace DocAtlas

def Record.toValue (record : Record) : Value :=
  .object
    [("category", .text record.category.label), ("is_index", .flag record.isIndex),
     ("path", .text record.path.text), ("priority", .number record.priority),
     ("references", .texts record.references.toList), ("section", .text record.folder),
     ("title", .text record.title), ("url", .text record.url)]

def Corpus.toValue (corpus : Corpus) : Value :=
  .object (corpus.groups.map fun (category, records) =>
    (category.label, .list (records.map Record.toValue)))

/-- A word with a capital first letter. -/
def capitalizedWord (word : String) : String :=
  match word.toList with
  | [] => ""
  | c :: rest => String.ofList (Text.upperChar c ++ rest)

/-- What is reported of a corpus. -/
structure CorpusReport where
  corpus : Corpus
  fingerprint : String
  links : Links
  issues : List Issue

namespace CorpusReport

def toValue (report : CorpusReport) : Value :=
  .object
    [("documents", report.corpus.toValue), ("fingerprint", .text report.fingerprint),
     ("links", .object (report.links.map fun l => (l.source.text, .texts l.urls.toList)))]

def recordLine (layout : Layout) (record : Record) : String :=
  s!"[{paddedPriority record.priority}] {record.title} ({(layout.relative record.path).text})"

/-- The records under a heading for each category, then what became of the references. -/
def textLines (layout : Layout) (report : CorpusReport) : List String :=
  report.corpus.groups.flatMap (fun (category, records) =>
    s!"=== {capitalizedWord category.label} ({records.length}) ==="
      :: records.map (recordLine layout) ++ [""])
  ++ [s!"references: {report.links.total} resolved, {report.issues.length} unresolved",
      s!"fingerprint: {report.fingerprint}"]

def render (layout : Layout) (format : ReportFormat) (report : CorpusReport) : String :=
  match format with
  | .json => Json.document report.toValue
  | .text => unlines (report.textLines layout)
  | .yaml => Yaml.document report.toValue

def serialize (serializer : Serializer) (layout : Layout) (format : ReportFormat)
    (report : CorpusReport) : Except Fault String :=
  serializer.accept format report.toValue (report.render layout format)

end CorpusReport

end DocAtlas
