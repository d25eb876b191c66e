import DocAtlas.Corpus.Basic
import DocAtlas.Site.Orphans
import DocAtlas.Site.Toctrees

/-! # The table of contents of a site

* `Site.contents` — the table of a corpus and of the orphans beside it
* `Site.contentsEvents` — what happens on the way
-/

set_option autoImplicit false

namespace DocAtlas

/-- The item of a record. -/
def Record.item (record : Record) : Item :=
  ⟨record.category, record.priority, record.title, record.url⟩

namespace Site

/-- The addresses that are reached by toctrees or belong to the corpus. -/
def knownUrls (corpus : Corpus) (toctrees : ToctreeReport) : TextSet :=
  (corpus.records.map (·.url)).foldl TextSet.insert toctrees.tracked

/-- The table with an item for a record. -/
def pushRecord (site : Site) (contents : Contents) (record : Record) : Contents :=
  contents.push (site.config.sectionFor record.folder) record.item

/-- The table with an item for an orphan. -/
def pushOrphan (site : Site) (contents : Contents) (p : Path) : Contents :=
  contents.push (site.place p).key (site.place p).item

/-- The table of contents of a corpus and of the orphans that toctrees do not reach. -/
def contents (site : Site) (corpus : Corpus) (toctrees : ToctreeReport) : ContentsReport :=
  let orphans := site.orphans (knownUrls corpus toctrees)
  let placed := orphans.foldl site.pushOrphan (corpus.records.foldl site.pushRecord Contents.base)
  ⟨toctrees.issues, orphans, placed.sort⟩

/-- What happens when the table is made. -/
def contentsEvents (site : Site) (corpus : Corpus) (toctrees : ToctreeReport) : List Event :=
  let report := site.contents corpus toctrees
  site.orphanEvents (knownUrls corpus toctrees) ++ report.orphans.flatMap site.placeEvents
    ++ [.info .toc s!"placed {report.contents.total} items, {report.orphans.length} of them orphans"]

end Site

end DocAtlas
