import DocAtlas.Fault
import DocAtlas.Site.Contents
import DocAtlas.Site.Discovery
import DocAtlas.Site.References

/-! # Sessions

A session looks at one documentation again and again while the file tree may change. It remembers
each document it has read until the next discovery, which forgets all.

* `Session` — layout, configuration and what was read
* `Session.renewed` — the session without what it remembers
* `Outcome` — what an operation ends in, logs and remembers
* `Session.settle` — what comes of the events of an operation
* `Session.discover`, `Session.resolve`, `Session.loadToctrees`, `Session.findOrphans`,
  `Session.place`, `Session.buildContents`, `Session.generateContents` — the operations
-/

set_option autoImplicit false

namespace DocAtlas

/-- The documents read so far. -/
abbrev Memory := List (Path × Option String)

/-- What is remembered of a path: nothing, a failure to read it, or its content. -/
def Memory.find? (memory : Memory) (p : Path) : Option (Option String) :=
  (List.find? (fun entry => p.same entry.1) memory).map (·.2)

/-- A documentation under observation. -/
structure Session where
  layout : Layout
  config : Config
  memory : Memory := []

/-- What an operation ends in. -/
inductive Ending (α : Type) where
  | done (value : α)
  | failed (fault : Fault)
  /-- An output address was to be formed with a suffix that is no extension. -/
  | aborted

/-- What an operation ends in, what it logs and the session behind it. -/
structure Outcome (α : Type) where
  ending : Ending α
  log : List LogEntry
  session : Session

namespace Session

variable {α β : Type}

/-- The session as it was before anything was read. -/
def renewed (session : Session) : Session := { session with memory := [] }

/-- The content of a document: as it is remembered, else as it is in the tree. -/
def content (session : Session) (tree : Tree) (p : Path) : Option String :=
  (session.memory.find? p).getD (tree.source? p)

/-- The documentation as the session sees it in a tree. -/
def site (session : Session) (tree : Tree) : Site :=
  ⟨tree, session.layout, session.config, session.content tree⟩

/-- Whether output addresses can be formed: a suffix with a slash is no extension. -/
def canAddress (config : Config) : Bool := !config.outputSuffix.toList.contains '/'

/-- What is said when a document is read, and what is remembered then. -/
def remember (tree : Tree) (memory : Memory) (p : Path) : List LogEntry × Memory :=
  match memory.find? p with
  | some _ => ([], memory)
  | none =>
    ((tree.sourceWarning? p).toList.map fun message => ⟨.warn, .extract, message⟩,
      memory ++ [(p, tree.source? p)])

/-- The log and the memory behind a list of events, and whether all of them took place: with a suffix
that is no extension they end at the first address. -/
def settleFrom (tree : Tree) (addressing : Bool) (memory : Memory) :
    List Event → List LogEntry × Memory × Bool
  | [] => ([], memory, true)
  | .log entry :: rest =>
    let (log, behind) := settleFrom tree addressing memory rest
    (entry :: log, behind)
  | .read p :: rest =>
    let (said, memory) := remember tree memory p
    let (log, behind) := settleFrom tree addressing memory rest
    (said ++ log, behind)
  | .address _ :: rest =>
    if addressing then settleFrom tree addressing memory rest else ([], memory, false)

/-- The outcome of an operation that has a value if all of its events take place. -/
def settle (session : Session) (tree : Tree) (events : List Event) (value : α) : Outcome α :=
  let (log, memory, complete) :=
    settleFrom tree (canAddress session.config) session.memory events
  ⟨if complete then .done value else .aborted, log, { session with memory := memory }⟩

end Session

/-- The outcome of one operation after another. -/
def Outcome.andThen {α β : Type} (first : Outcome α) (next : α → Session → Outcome β) : Outcome β :=
  match first.ending with
  | .done value =>
    let second := next value first.session
    { second with log := first.log ++ second.log }
  | .failed fault => ⟨.failed fault, first.log, first.session⟩
  | .aborted => ⟨.aborted, first.log, first.session⟩

namespace Session

/-! ## Operations -/

/-- The content of a document. -/
def readContent (session : Session) (tree : Tree) (p : Path) : Outcome (Option String) :=
  session.settle tree [.read p] (session.content tree p)

/-- The corpus as it is now. What was read before is forgotten. -/
def discover (session : Session) (tree : Tree) : Outcome Corpus :=
  if tree.isDir session.layout.root then
    let fresh := session.renewed
    fresh.settle tree (fresh.site tree).corpusEvents (fresh.site tree).corpus
  else
    ⟨.failed (.docsDirNotFound session.layout.root), [], session⟩

/-- The links of a corpus and the references that lead nowhere. -/
def resolve (session : Session) (tree : Tree) (corpus : Corpus) : Outcome LinkReport :=
  let site := session.site tree
  session.settle tree (site.linkEvents corpus) (site.linkReport corpus)

/-- The report on every toctree. -/
def loadToctrees (session : Session) (tree : Tree) : Outcome ToctreeReport :=
  let site := session.site tree
  session.settle tree site.toctreeEvents site.toctreeReport

/-- The documents outside every declared directory that are not tracked. -/
def findOrphans (session : Session) (tree : Tree) (tracked : TextSet) : Outcome (List Path) :=
  let site := session.site tree
  session.settle tree (site.orphanEvents tracked) (site.orphans tracked)

/-- The section and the item of an orphan. -/
def place (session : Session) (tree : Tree) (p : Path) : Outcome Placement :=
  let site := session.site tree
  session.settle tree (site.placeEvents p) (site.place p)

/-- The table of contents of a corpus. -/
def buildContents (session : Session) (tree : Tree) (corpus : Corpus) (toctrees : ToctreeReport) :
    Outcome ContentsReport :=
  let site := session.site tree
  session.settle tree (site.contentsEvents corpus toctrees) (site.contents corpus toctrees)

/-- The table of contents of the documentation as it is now, with every issue. Documents that
toctrees reach are placed as orphans unless `respectToctrees` holds. -/
def generateContents (session : Session) (tree : Tree) (respectToctrees : Bool) :
    Outcome ContentsReport :=
  (session.discover tree).andThen fun corpus session =>
  (session.resolve tree corpus).andThen fun links session =>
  (session.loadToctrees tree).andThen fun toctrees session =>
  let considered := if respectToctrees then toctrees else toctrees.issuesOnly
  (session.buildContents tree corpus considered).andThen fun report session =>
  ⟨.done { report with issues := report.issues ++ links.issues }, [], session⟩

end Session

end DocAtlas
