import DocAtlas.Corpus.Basic
import DocAtlas.Corpus.Links
import DocAtlas.Site.Basic

/-! # Resolving references

* `Verdict` — what a reference leads to
* `Site.checks` — the verdict on each reference of a corpus
* `Site.linkReport` — the links and issues that follow
* `Site.linkEvents` — what happens on the way
-/

set_option autoImplicit false

namespace DocAtlas

/-- What a reference leads to. -/
inductive Verdict where
  /-- A document. -/
  | link (url : String)
  /-- A file that is no document. -/
  | asset
  | nothing
  deriving DecidableEq, Repr

/-- The verdict on one reference. -/
structure ReferenceCheck where
  /-- The document with the reference, below the root. -/
  source : Path
  reference : String
  candidate : Path
  verdict : Verdict
  deriving DecidableEq, Repr

namespace ReferenceCheck

def issue? (check : ReferenceCheck) : Option Issue :=
  match check.verdict with
  | .nothing => some (.unresolvedReference check.source check.reference)
  | _ => none

def addLink (links : Links) (check : ReferenceCheck) : Links :=
  match check.verdict with
  | .link url => links.add check.source url
  | _ => links

def events (check : ReferenceCheck) : List Event :=
  .address check.candidate :: match check.verdict with
    | .link _ => []
    | .asset =>
      [.debug .discovery
        s!"{check.source.text}: `{check.reference}` is not a documentation source"]
    | .nothing =>
      [.warn .discovery
        s!"{check.source.text}: reference `{check.reference}` matches no document"]

end ReferenceCheck

namespace Site

/-- Whether there is a file at a path, as it stands or with any extension. -/
def existsWithAnyExtension (site : Site) (p : Path) : Bool :=
  site.tree.isFile p ||
    match p.parent, p.fileName with
    | some dir, some name =>
      match site.tree.listing? dir with
      | some inside =>
        inside.names.any fun n =>
          site.tree.isFile (dir.child n) && (dir.child n).fileStem == some name
      | none => false
    | _, _ => false

/-- The output addresses of every document. -/
def documentUrls (site : Site) : TextSet := TextSet.ofList (site.allSources.map site.url)

/-- The verdict on the reference of a record, given the addresses of every document. -/
def check (site : Site) (documents : TextSet) (record : Record) (reference : String) :
    ReferenceCheck :=
  let candidate := site.candidate (site.baseOf record.path) reference
  let url := site.layout.referenceUrl candidate site.config.outputSuffix
  ⟨site.layout.relative record.path, reference, candidate,
    if documents.contains url then .link url
    else if site.existsWithAnyExtension candidate then .asset
    else .nothing⟩

/-- The verdict on each reference of a corpus. -/
def checks (site : Site) (corpus : Corpus) : List ReferenceCheck :=
  let documents := site.documentUrls
  corpus.records.flatMap fun record => record.references.toList.map (site.check documents record)

/-- The links of a corpus and the references that lead nowhere. -/
def linkReport (site : Site) (corpus : Corpus) : LinkReport :=
  let checks := site.checks corpus
  ⟨checks.foldl ReferenceCheck.addLink [], checks.filterMap ReferenceCheck.issue?⟩

/-- What happens when references are resolved. -/
def linkEvents (site : Site) (corpus : Corpus) : List Event :=
  let report := site.linkReport corpus
  site.walkEvents (fun p => [.address p])
    ++ (site.checks corpus).flatMap ReferenceCheck.events
    ++ [.info .discovery <|
      s!"resolved links from {report.links.length} documents, " ++
        s!"{report.issues.length} unresolved references"]

end Site

end DocAtlas
