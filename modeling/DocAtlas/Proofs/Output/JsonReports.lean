import Mathlib.Data.List.Nodup
import DocAtlas.Output.Contents
import DocAtlas.Output.Corpus
import DocAtlas.Proofs.Output.JsonReading

/-! # Reports in JSON

A report is found again in its document: every part under its key, every list in its order, every text
character for character. No object of the document repeats a key.

* `ContentsReport.ofData?` — the table of contents a document tells of
* `CorpusReading`, `CorpusReading.ofData?` — the corpus, fingerprint and links a document tells of
* `Json.reports_read_back` — both tell of the report that was written
-/

set_option autoImplicit false

namespace DocAtlas

/-! ## Parts of a document -/

namespace Json.Data

/-- The value of a key, read by `read?`. -/
def at? {α : Type} (data : Data) (key : String) (read? : Data → Option α) : Option α :=
  (data.field? key).bind read?

/-- The items of a list, each read by `read?`. -/
def each? {α : Type} (read? : Data → Option α) (data : Data) : Option (List α) :=
  data.list?.bind fun items => items.mapM read?

/-- A list of texts in ascending order. -/
def textSet? (data : Data) : Option TextSet := do
  let texts ← data.each? text?
  if h : texts.Pairwise (· < ·) then some ⟨texts, h⟩ else none

end Json.Data

open Json (Data)

def Category.ofLabel? (label : String) : Option Category :=
  Category.all.find? fun c => c.label == label

def Category.ofData? (data : Data) : Option Category := data.text?.bind Category.ofLabel?

def Path.ofData? (data : Data) : Option Path := data.text?.map Path.mk

def Issue.ofData? (data : Data) : Option Issue := do
  let kind ← data.at? "type" Data.text?
  let source ← data.at? "source" Path.ofData?
  let target ← data.at? "target" Data.text?
  if kind = "missing_target" then some (.missingTarget source target)
  else if kind = "unresolved_reference" then some (.unresolvedReference source target)
  else none

def Item.ofData? (data : Data) : Option Item := do
  let category ← data.at? "category" Category.ofData?
  let priority ← data.at? "priority" Data.natural?
  let title ← data.at? "title" Data.text?
  let url ← data.at? "url" Data.text?
  return { category, priority, title, url }

/-- The section under a key. -/
def Section.ofField? (field : String × Data) : Option Section := do
  let title ← field.2.at? "title" Data.text?
  let items ← field.2.at? "items" (Data.each? Item.ofData?)
  return { key := field.1, title, items }

def Contents.ofData? (data : Data) : Option Contents := do
  let sections ← data.fields?.bind fun fields => fields.mapM Section.ofField?
  return ⟨sections⟩

/-- The table of contents a document tells of. -/
def ContentsReport.ofData? (data : Data) : Option ContentsReport := do
  let issues ← data.at? "issues" (Data.each? Issue.ofData?)
  let orphans ← data.at? "orphans" (Data.each? Path.ofData?)
  let contents ← data.at? "sections" Contents.ofData?
  return { issues, orphans, contents }

def Record.ofData? (data : Data) : Option Record := do
  let category ← data.at? "category" Category.ofData?
  let isIndex ← data.at? "is_index" Data.flag?
  let path ← data.at? "path" Path.ofData?
  let priority ← data.at? "priority" Data.natural?
  let references ← data.at? "references" Data.textSet?
  let folder ← data.at? "section" Data.text?
  let title ← data.at? "title" Data.text?
  let url ← data.at? "url" Data.text?
  return { category, isIndex, path, priority, references, folder, title, url }

/-- The records of the category that is the key. -/
def Record.ofGroup? (field : String × Data) : Option (Category × List Record) := do
  let category ← Category.ofLabel? field.1
  let records ← field.2.each? Record.ofData?
  return (category, records)

def DocumentLinks.ofField? (field : String × Data) : Option DocumentLinks :=
  field.2.textSet?.map fun urls => ⟨⟨field.1⟩, urls⟩

/-- What a document tells of a corpus: its records by category, its fingerprint and its links. -/
structure CorpusReading where
  groups : List (Category × List Record)
  fingerprint : String
  links : Links

def CorpusReading.ofData? (data : Data) : Option CorpusReading := do
  let groups ← data.at? "documents" fun data =>
    data.fields?.bind fun fields => fields.mapM Record.ofGroup?
  let fingerprint ← data.at? "fingerprint" Data.text?
  let links ← data.at? "links" fun data =>
    data.fields?.bind fun fields => fields.mapM DocumentLinks.ofField?
  return { groups, fingerprint, links }

/-! ## What is written is read -/

theorem mapM_map_of_eq_some {α β : Type} {write : α → β} {read? : β → Option α}
    (h : ∀ x, read? (write x) = some x) (xs : List α) : (xs.map write).mapM read? = some xs := by
  induction xs with
  | nil => rfl
  | cons x xs ih =>
    rw [List.map_cons, List.mapM_cons, h x, ih]
    rfl

theorem each?_list {α : Type} (write : α → Value) {read? : Data → Option α}
    (h : ∀ x, read? (write x).toData = some x) (xs : List α) :
    (Value.list (xs.map write)).toData.each? read? = some xs := by
  have hmap : (xs.map write).map Value.toData = xs.map fun x => (write x).toData := by
    rw [List.map_map]
    rfl
  rw [Value.toData, Value.itemsData_eq, hmap]
  exact mapM_map_of_eq_some h xs

theorem fields?_object {α : Type} (write : α → String × Value) {read? : String × Data → Option α}
    (h : ∀ x, read? ((write x).1, (write x).2.toData) = some x) (xs : List α) :
    ((Value.object (xs.map write)).toData.fields?.bind fun fields => fields.mapM read?) = some xs := by
  have hmap : (xs.map write).map (fun field => (field.1, field.2.toData)) =
      xs.map fun x => ((write x).1, (write x).2.toData) := by
    rw [List.map_map]
    rfl
  rw [Value.toData, Value.fieldsData_eq, hmap]
  exact mapM_map_of_eq_some h xs

/-- A key that is not the first is looked for behind the first. -/
theorem at?_cons {α : Type} {read? : Data → Option α} {key other : String} {v : Value}
    {rest : List (String × Value)} :
    (Value.object ((other, v) :: rest)).toData.at? key read? =
      if other = key then read? v.toData else (Value.object rest).toData.at? key read? := by
  simp only [Data.at?, Data.field?, Data.fields?, Value.toData, Value.fieldsData]
  by_cases h : other = key
  · simp [h]
  · simp [h, beq_eq_false_iff_ne.2 h]

theorem text?_toData (s : String) : (Value.text s).toData.text? = some s := rfl

theorem natural?_toData (n : Nat) : (Value.number n).toData.natural? = some n := rfl

theorem flag?_toData (b : Bool) : (Value.flag b).toData.flag? = some b := rfl

theorem Path.ofData?_text (p : Path) : Path.ofData? (Value.text p.text).toData = some p := rfl

theorem Category.ofLabel?_label (c : Category) : Category.ofLabel? c.label = some c := by
  cases c <;> rfl

theorem Category.ofData?_label (c : Category) :
    Category.ofData? (Value.text c.label).toData = some c := Category.ofLabel?_label c

theorem textSet?_texts (set : TextSet) : (Value.texts set.toList).toData.textSet? = some set := by
  have htexts : (Value.texts set.toList).toData.each? Data.text? = some set.toList :=
    each?_list .text text?_toData set.toList
  rw [Data.textSet?, htexts]
  exact dif_pos set.ascending

theorem Issue.ofData?_toValue (issue : Issue) : Issue.ofData? issue.toValue.toData = some issue := by
  cases issue <;>
    simp [Issue.ofData?, Issue.toValue, at?_cons, text?_toData, Path.ofData?_text]

theorem Item.ofData?_toValue (item : Item) : Item.ofData? item.toValue.toData = some item := by
  simp [Item.ofData?, Item.toValue, at?_cons, text?_toData, natural?_toData, Category.ofData?_label]

theorem Section.ofField?_toValue (s : Section) :
    Section.ofField? (s.key, s.toValue.toData) = some s := by
  simp [Section.ofField?, Section.toValue, at?_cons, text?_toData, each?_list Item.toValue Item.ofData?_toValue]

theorem Contents.ofData?_toValue (contents : Contents) :
    Contents.ofData? contents.toValue.toData = some contents := by
  have hsections := fields?_object (fun s => (s.key, s.toValue)) Section.ofField?_toValue contents.sections
  simp [Contents.ofData?, Contents.toValue, hsections]

theorem ContentsReport.ofData?_toValue (report : ContentsReport) :
    ContentsReport.ofData? report.toValue.toData = some report := by
  have hissues := each?_list Issue.toValue Issue.ofData?_toValue report.issues
  have horphans := each?_list (fun p => .text p.text) Path.ofData?_text report.orphans
  have hcontents := Contents.ofData?_toValue report.contents
  simp [ContentsReport.ofData?, ContentsReport.toValue, Value.texts, at?_cons, Function.comp_def,
    hissues, horphans, hcontents]

theorem Record.ofData?_toValue (r : Record) : Record.ofData? r.toValue.toData = some r := by
  simp [Record.ofData?, Record.toValue, at?_cons, text?_toData, natural?_toData, flag?_toData,
    Category.ofData?_label, Path.ofData?_text, textSet?_texts]

theorem Record.ofGroup?_toValue (group : Category × List Record) :
    Record.ofGroup? (group.1.label, (Value.list (group.2.map Record.toValue)).toData) = some group := by
  simp [Record.ofGroup?, Category.ofLabel?_label, each?_list Record.toValue Record.ofData?_toValue]

theorem DocumentLinks.ofField?_texts (l : DocumentLinks) :
    DocumentLinks.ofField? (l.source.text, (Value.texts l.urls.toList).toData) = some l := by
  simp [DocumentLinks.ofField?, textSet?_texts]

theorem CorpusReading.ofData?_toValue (report : CorpusReport) :
    CorpusReading.ofData? report.toValue.toData =
      some ⟨report.corpus.groups, report.fingerprint, report.links⟩ := by
  have hgroups := fields?_object (fun g => (g.1.label, .list (g.2.map Record.toValue)))
    Record.ofGroup?_toValue report.corpus.groups
  have hlinks := fields?_object (fun l => (l.source.text, .texts l.urls.toList))
    DocumentLinks.ofField?_texts report.links
  simp [CorpusReading.ofData?, CorpusReport.toValue, Corpus.toValue, at?_cons, text?_toData, hgroups,
    hlinks]

/-! ## Keys -/

theorem keyed_list {α : Type} (write : α → Value) (h : ∀ x, (write x).toData.Keyed) (xs : List α) :
    (Value.list (xs.map write)).toData.Keyed := by
  rw [Value.toData, Value.itemsData_eq]
  refine .list fun d hd => ?_
  rw [List.map_map] at hd
  obtain ⟨x, -, rfl⟩ := List.mem_map.1 hd
  exact h x

theorem keyed_object {fields : List (String × Value)} (hkeys : (fields.map (·.1)).Nodup)
    (h : ∀ field ∈ fields, field.2.toData.Keyed) : (Value.object fields).toData.Keyed := by
  rw [Value.toData, Value.fieldsData_eq]
  refine .object ?_ fun d hd => ?_
  · rwa [List.map_map]
  · obtain ⟨field, hfield, rfl⟩ := List.mem_map.1 hd
    exact h field hfield

theorem keyed_texts (texts : List String) : (Value.texts texts).toData.Keyed :=
  keyed_list .text (fun s => .text s) texts

theorem Issue.keyed (issue : Issue) : issue.toValue.toData.Keyed := by
  cases issue with
  | missingTarget source target =>
    refine keyed_object (by simp) ?_
    simp only [List.forall_mem_cons]
    exact ⟨.text _, .text _, .text _, by simp⟩
  | unresolvedReference source target =>
    refine keyed_object (by simp) ?_
    simp only [List.forall_mem_cons]
    exact ⟨.text _, .text _, .text _, by simp⟩

theorem Item.keyed (item : Item) : item.toValue.toData.Keyed := by
  refine keyed_object (by simp) ?_
  simp only [List.forall_mem_cons]
  exact ⟨.text _, .number _, .text _, .text _, by simp⟩

theorem Section.keyed (s : Section) : s.toValue.toData.Keyed := by
  refine keyed_object (by simp) ?_
  simp only [List.forall_mem_cons]
  exact ⟨keyed_list Item.toValue Item.keyed s.items, .text _, by simp⟩

theorem Record.keyed (r : Record) : r.toValue.toData.Keyed := by
  refine keyed_object (by simp) ?_
  simp only [List.forall_mem_cons]
  exact ⟨.text _, .flag _, .text _, .number _, keyed_texts _, .text _, .text _, .text _, by simp⟩

theorem ContentsReport.keyed {report : ContentsReport}
    (h : (report.contents.sections.map (·.key)).Nodup) : report.toValue.toData.Keyed := by
  have hsections : report.contents.toValue.toData.Keyed := by
    refine keyed_object ?_ fun field hfield => ?_
    · rwa [List.map_map]
    · obtain ⟨s, -, rfl⟩ := List.mem_map.1 hfield
      exact s.keyed
  refine keyed_object (by simp) ?_
  simp only [List.forall_mem_cons]
  exact ⟨keyed_list Issue.toValue Issue.keyed _, keyed_texts _, hsections, by simp⟩

theorem Corpus.keyed (corpus : Corpus) : corpus.toValue.toData.Keyed := by
  have hlabels : Function.Injective Category.label := by
    intro c d h
    have hsome := congrArg Category.ofLabel? h
    rw [Category.ofLabel?_label, Category.ofLabel?_label] at hsome
    exact Option.some.inj hsome
  have hcategories : corpus.categories.Nodup := by
    have hall : Category.all.Nodup := by decide
    exact hall.filter _
  refine keyed_object ?_ fun field hfield => ?_
  · rw [Corpus.groups, List.map_map, List.map_map]
    exact List.Nodup.map hlabels hcategories
  · obtain ⟨group, -, rfl⟩ := List.mem_map.1 hfield
    exact keyed_list Record.toValue Record.keyed group.2

theorem CorpusReport.keyed {report : CorpusReport}
    (h : report.links.Pairwise fun l m => l.source.same m.source = false) :
    report.toValue.toData.Keyed := by
  have hlinks : (Value.object (report.links.map fun l =>
      (l.source.text, .texts l.urls.toList))).toData.Keyed := by
    refine keyed_object ?_ fun field hfield => ?_
    · rw [List.map_map, List.Nodup, List.pairwise_map]
      refine h.imp fun {l m} hsame htext => ?_
      have hpath : l.source = m.source := congrArg Path.mk htext
      rw [hpath, Path.same, beq_self_eq_true] at hsame
      cases hsame
    · obtain ⟨l, -, rfl⟩ := List.mem_map.1 hfield
      exact keyed_texts l.urls.toList
  refine keyed_object (by simp) ?_
  simp only [List.forall_mem_cons]
  exact ⟨report.corpus.keyed, .text _, hlinks, by simp⟩

/-! ## Reports -/

/-- A report in JSON is a document that repeats no key and tells of the report: of a table of contents
whole, of a corpus the records by category, the fingerprint and the links. Sections have keys of their
own, and so have the documents that links start from. -/
theorem Json.reports_read_back (layout : Layout) :
    (∀ report : ContentsReport, (report.contents.sections.map (·.key)).Nodup →
      ∃ data, Json.read (report.render layout .json) = some data ∧ data.Keyed ∧
        ContentsReport.ofData? data = some report) ∧
    (∀ report : CorpusReport, (report.links.Pairwise fun l m => l.source.same m.source = false) →
      ∃ data, Json.read (report.render layout .json) = some data ∧ data.Keyed ∧
        CorpusReading.ofData? data =
          some ⟨report.corpus.groups, report.fingerprint, report.links⟩) := by
  constructor
  · intro report hkeys
    exact ⟨report.toValue.toData, Json.read_document _, ContentsReport.keyed hkeys,
      ContentsReport.ofData?_toValue report⟩
  · intro report hlinks
    exact ⟨report.toValue.toData, Json.read_document _, CorpusReport.keyed hlinks,
      CorpusReading.ofData?_toValue report⟩

/-- A table with a heading that needs escapes, and a section without items. -/
def escapedContents : ContentsReport where
  issues := [.missingTarget ⟨"/docs/index.rst"⟩ "a\\b"]
  orphans := [⟨"/docs/\"x\".md"⟩]
  contents := ⟨[⟨"null", "A \"B\"\n\x01😀", [⟨.orphan, 90, "", "x.html"⟩]⟩, ⟨"", "", []⟩]⟩

/-- A corpus of one record, and links from two documents. -/
def escapedCorpus : CorpusReport where
  corpus := ⟨[⟨.auto, false, ⟨"/docs/a.md"⟩, 70, .ofList ["b", "a"], "", "\t", "a.html"⟩]⟩
  fingerprint := "0"
  links := [⟨⟨"/docs/a.md"⟩, .ofList ["a.html"]⟩, ⟨⟨"/docs/b.md"⟩, .empty⟩]
  issues := []

theorem reports_read_back_escaped :
    (∃ data, Json.read (escapedContents.render (Layout.ofRoot ⟨"/docs"⟩ {}) .json) = some data ∧
      ContentsReport.ofData? data = some escapedContents) ∧
    ∃ data, Json.read (escapedCorpus.render (Layout.ofRoot ⟨"/docs"⟩ {}) .json) = some data ∧
      (CorpusReading.ofData? data).map (·.links) = some escapedCorpus.links := by
  obtain ⟨hcontents, hcorpus⟩ := Json.reports_read_back (Layout.ofRoot ⟨"/docs"⟩ {})
  constructor
  · obtain ⟨data, hread, -, hdata⟩ := hcontents escapedContents (by decide)
    exact ⟨data, hread, hdata⟩
  · obtain ⟨data, hread, -, hdata⟩ := hcorpus escapedCorpus (by decide)
    exact ⟨data, hread, by rw [hdata]; rfl⟩

end DocAtlas
