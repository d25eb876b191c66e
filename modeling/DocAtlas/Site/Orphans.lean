import DocAtlas.Classify
import DocAtlas.Contents.Basic
import DocAtlas.Corpus.Record
import DocAtlas.Site.Basic

/-! # Orphans

* `Site.orphans` — the documents outside every declared directory that are not tracked
* `Site.place` — the section and the item of an orphan
* `Site.orphanEvents`, `Site.placeEvents` — what happens on the way
-/

set_option autoImplicit false

namespace DocAtlas

/-- Where a document goes in a table of contents. -/
structure Placement where
  item : Item
  /-- The key of the section. -/
  key : String
  deriving DecidableEq, Repr

namespace Site

/-- The source files outside every declared directory. -/
def strays (site : Site) : List Path := site.allSources.filter (!site.layout.contains ·)

/-- The source files outside every declared directory whose address is not tracked. -/
def orphans (site : Site) (tracked : TextSet) : List Path :=
  site.strays.filter fun p => !tracked.contains (site.url p)

/-- What happens when orphans are looked for. -/
def orphanEvents (site : Site) (tracked : TextSet) : List Event :=
  site.walkEvents (fun p => if site.layout.contains p then [] else [.address p])
    ++ [.info .discovery s!"found {(site.orphans tracked).length} orphaned documentation files"]

/-- The key of the section an orphan belongs to. -/
def orphanSection (site : Site) (p : Path) : String :=
  let stem := String.ofList (Text.lowercase (p.fileStem.getD "").toList)
  Classify.sectionOf stem (site.content p)

/-- The section and the item of an orphan. -/
def place (site : Site) (p : Path) : Placement where
  item := ⟨.orphan, Category.orphanPriority, Record.titleOf p (site.content p), site.url p⟩
  key := site.orphanSection p

/-- What happens when an orphan is placed. -/
def placeEvents (site : Site) (p : Path) : List Event :=
  [.address p, .read p,
    .debug .classify s!"placing orphan {(site.layout.relative p).text} in {site.orphanSection p}"]

end Site

end DocAtlas
