import DocAtlas.Site.Contents
import DocAtlas.Proofs.Ordering.Stable
import Mathlib.Data.List.Nodup
import Mathlib.Data.List.Perm.Basic

/-! # What a table of contents holds

A table is made by pushing items under keys. No two of its sections have one key, and each section
holds the items pushed under its key, in the order they were pushed until the table is sorted.

* `Contents.keys`, `Contents.items`, `Contents.itemsOf` — the keys, all items, the items for a key
* `Contents.pushAll` — the table with many items pushed
* `Contents.itemsOf_pushAll`, `Contents.items_pushAll` — what it holds then
* `Site.items_of_mem_sections` — what a section of a report holds
-/

set_option autoImplicit false

namespace DocAtlas

namespace Contents

/-- The keys of the sections. -/
def keys (contents : Contents) : List String := contents.sections.map (·.key)

/-- The items of all sections. -/
def items (contents : Contents) : List Item := contents.sections.flatMap (·.items)

/-- The items under a key. -/
def itemsOf (contents : Contents) (key : String) : List Item :=
  (contents.sections.filter (·.key = key)).flatMap (·.items)

/-- The table with items pushed under keys, one after the other. -/
def pushAll (contents : Contents) (entries : List (String × Item)) : Contents :=
  entries.foldl (fun c entry => c.push entry.1 entry.2) contents

/-! ## One item -/

/-- The sections with an item at the end of those with a key. -/
def addTo (key : String) (item : Item) (sections : List Section) : List Section :=
  sections.map fun s => if s.key = key then { s with items := s.items ++ [item] } else s

theorem sections_push (contents : Contents) (key : String) (item : Item) :
    (contents.push key item).sections = addTo key item (contents.touch key).sections := rfl

theorem isSome_get? {contents : Contents} {key : String} :
    (contents.get? key).isSome = true ↔ key ∈ contents.keys := by
  simp only [get?, List.find?_isSome, keys, List.mem_map, beq_iff_eq]

theorem sections_touch (contents : Contents) (key : String) :
    (contents.touch key).sections =
      contents.sections ++ if key ∈ contents.keys then [] else [⟨key, Title.ofStem key, []⟩] := by
  unfold touch
  by_cases h : key ∈ contents.keys
  · rw [if_pos (isSome_get?.2 h), if_pos h, List.append_nil]
  · rw [if_neg (fun hsome => h (isSome_get?.1 hsome)), if_neg h]

theorem mem_keys_touch (contents : Contents) (key : String) : key ∈ (contents.touch key).keys := by
  rw [keys, sections_touch]
  by_cases h : key ∈ contents.keys
  · rw [if_pos h, List.append_nil]
    exact h
  · rw [if_neg h, List.map_append]
    simp

theorem nodup_keys_touch {contents : Contents} (h : contents.keys.Nodup) (key : String) :
    (contents.touch key).keys.Nodup := by
  rw [keys, sections_touch]
  by_cases hkey : key ∈ contents.keys
  · rw [if_pos hkey, List.append_nil]
    exact h
  · rw [if_neg hkey, List.map_append]
    refine List.Nodup.append h (by simp) ?_
    simpa [keys] using hkey

theorem keys_subset_touch (contents : Contents) (key : String) :
    contents.keys ⊆ (contents.touch key).keys := by
  rw [keys, keys, sections_touch, List.map_append]
  exact List.subset_append_left _ _

theorem itemsOf_touch (contents : Contents) (key other : String) :
    (contents.touch key).itemsOf other = contents.itemsOf other := by
  unfold itemsOf
  rw [sections_touch, List.filter_append, List.flatMap_append]
  have hnew : ((if key ∈ contents.keys then [] else [⟨key, Title.ofStem key, []⟩] :
      List Section).filter (·.key = other)).flatMap (·.items) = [] := by
    split
    · rfl
    · by_cases hkey : key = other
      · simp [hkey]
      · simp [hkey]
  rw [hnew, List.append_nil]

theorem items_touch (contents : Contents) (key : String) :
    (contents.touch key).items = contents.items := by
  unfold items
  rw [sections_touch, List.flatMap_append]
  split
  · simp
  · simp

theorem map_key_addTo (key : String) (item : Item) (sections : List Section) :
    (addTo key item sections).map (·.key) = sections.map (·.key) := by
  unfold addTo
  rw [List.map_map]
  apply List.map_congr_left
  intro s _
  simp only [Function.comp_apply]
  split <;> rfl

theorem addTo_of_notMem {key : String} {sections : List Section} (item : Item)
    (h : key ∉ sections.map (·.key)) : addTo key item sections = sections := by
  unfold addTo
  conv => rhs; rw [← List.map_id sections]
  apply List.map_congr_left
  intro s hs
  rw [if_neg]
  · rfl
  · rintro rfl
    exact h (List.mem_map_of_mem hs)

theorem filter_eq_nil_of_notMem {key : String} {sections : List Section}
    (h : key ∉ sections.map (·.key)) : sections.filter (·.key = key) = [] := by
  rw [List.filter_eq_nil_iff]
  intro s hs hkey
  rw [decide_eq_true_eq] at hkey
  subst hkey
  exact h (List.mem_map_of_mem hs)

/-- Of sections with different keys one gets the item. -/
theorem addTo_eq {key : String} {sections : List Section} (item : Item)
    (hnodup : (sections.map (·.key)).Nodup) (h : key ∈ sections.map (·.key)) :
    ∃ before s after, sections = before ++ s :: after ∧ s.key = key ∧
      key ∉ before.map (·.key) ∧ key ∉ after.map (·.key) ∧
      addTo key item sections = before ++ { s with items := s.items ++ [item] } :: after := by
  obtain ⟨s, hs, rfl⟩ := List.mem_map.1 h
  obtain ⟨before, after, rfl⟩ := List.append_of_mem hs
  rw [List.map_append, List.map_cons, List.nodup_middle, List.nodup_cons, List.mem_append,
    not_or] at hnodup
  obtain ⟨⟨hbefore, hafter⟩, -⟩ := hnodup
  refine ⟨before, s, after, rfl, rfl, hbefore, hafter, ?_⟩
  have hsplit : addTo s.key item (before ++ s :: after) =
      addTo s.key item before ++ { s with items := s.items ++ [item] } :: addTo s.key item after := by
    simp [addTo]
  rw [hsplit, addTo_of_notMem item hbefore, addTo_of_notMem item hafter]

theorem filter_addTo_of_ne {key other : String} (sections : List Section) (item : Item)
    (h : key ≠ other) : (addTo key item sections).filter (·.key = other) =
      sections.filter (·.key = other) := by
  induction sections with
  | nil => rfl
  | cons s rest ih =>
    have haddTo : addTo key item (s :: rest) =
        (if s.key = key then { s with items := s.items ++ [item] } else s) :: addTo key item rest :=
      rfl
    rw [haddTo]
    by_cases hkey : s.key = key
    · subst hkey
      rw [if_pos rfl, List.filter_cons_of_neg (by simpa using h),
        List.filter_cons_of_neg (by simpa using h), ih]
    · rw [if_neg hkey, List.filter_cons, List.filter_cons, ih]

theorem keys_push (contents : Contents) (key : String) (item : Item) :
    (contents.push key item).keys = (contents.touch key).keys := by
  rw [keys, sections_push, map_key_addTo, keys]

theorem nodup_keys_push {contents : Contents} (h : contents.keys.Nodup) (key : String) (item : Item) :
    (contents.push key item).keys.Nodup := by
  rw [keys_push]
  exact nodup_keys_touch h key

theorem itemsOf_push {contents : Contents} (h : contents.keys.Nodup) (key other : String)
    (item : Item) :
    (contents.push key item).itemsOf other =
      contents.itemsOf other ++ if key = other then [item] else [] := by
  rw [← itemsOf_touch contents key]
  unfold itemsOf
  rw [sections_push]
  by_cases hkey : key = other
  · subst hkey
    obtain ⟨before, s, after, hsections, rfl, hbefore, hafter, haddTo⟩ :=
      addTo_eq item (nodup_keys_touch h key) (mem_keys_touch contents key)
    rw [haddTo, hsections, if_pos rfl]
    simp [filter_eq_nil_of_notMem hbefore, filter_eq_nil_of_notMem hafter]
  · rw [filter_addTo_of_ne _ item hkey, if_neg hkey, List.append_nil]

theorem items_push {contents : Contents} (h : contents.keys.Nodup) (key : String) (item : Item) :
    (contents.push key item).items.Perm (contents.items ++ [item]) := by
  rw [← items_touch contents key]
  unfold items
  rw [sections_push]
  obtain ⟨before, s, after, hsections, -, -, -, haddTo⟩ :=
    addTo_eq item (nodup_keys_touch h key) (mem_keys_touch contents key)
  rw [haddTo, hsections]
  simp only [List.flatMap_append, List.flatMap_cons, List.append_assoc]
  refine (List.Perm.append_left _ ?_).append_left _
  exact List.perm_append_comm

/-! ## Many items -/

theorem nodup_keys_pushAll {contents : Contents} (h : contents.keys.Nodup)
    (entries : List (String × Item)) : (contents.pushAll entries).keys.Nodup := by
  induction entries generalizing contents with
  | nil => exact h
  | cons entry rest ih => exact ih (nodup_keys_push h entry.1 entry.2)

theorem keys_subset_pushAll (contents : Contents) (entries : List (String × Item)) :
    contents.keys ⊆ (contents.pushAll entries).keys := by
  induction entries generalizing contents with
  | nil => exact List.Subset.refl _
  | cons entry rest ih =>
    have hpush : contents.keys ⊆ (contents.push entry.1 entry.2).keys := by
      rw [keys_push]
      exact keys_subset_touch contents entry.1
    exact List.Subset.trans hpush (ih _)

theorem mem_keys_pushAll {contents : Contents} {entries : List (String × Item)}
    {entry : String × Item} (h : entry ∈ entries) : entry.1 ∈ (contents.pushAll entries).keys := by
  induction entries generalizing contents with
  | nil => simp at h
  | cons first rest ih =>
    rcases List.mem_cons.1 h with rfl | h
    · refine keys_subset_pushAll (contents.push entry.1 entry.2) rest ?_
      rw [keys_push]
      exact mem_keys_touch contents entry.1
    · exact ih h

theorem itemsOf_pushAll {contents : Contents} (h : contents.keys.Nodup)
    (entries : List (String × Item)) (key : String) :
    (contents.pushAll entries).itemsOf key =
      contents.itemsOf key ++ (entries.filter (·.1 = key)).map (·.2) := by
  induction entries generalizing contents with
  | nil => simp [pushAll]
  | cons entry rest ih =>
    have hrest := ih (nodup_keys_push h entry.1 entry.2)
    rw [itemsOf_push h] at hrest
    rw [show contents.pushAll (entry :: rest) = (contents.push entry.1 entry.2).pushAll rest from rfl,
      hrest, List.filter_cons]
    by_cases hkey : entry.1 = key
    · simp [hkey]
    · simp [hkey]

theorem items_pushAll {contents : Contents} (h : contents.keys.Nodup)
    (entries : List (String × Item)) :
    (contents.pushAll entries).items.Perm (contents.items ++ entries.map (·.2)) := by
  induction entries generalizing contents with
  | nil => simp [pushAll]
  | cons entry rest ih =>
    have hrest := (ih (nodup_keys_push h entry.1 entry.2)).trans
      ((items_push h entry.1 entry.2).append_right (rest.map (·.2)))
    rwa [List.append_assoc, List.singleton_append] at hrest

/-! ## Sorting -/

theorem priority_total (i j : Item) :
    decide (i.priority ≤ j.priority) = true ∨ decide (j.priority ≤ i.priority) = true := by
  simpa using Nat.le_total i.priority j.priority

theorem priority_trans (i j k : Item) (hij : decide (i.priority ≤ j.priority) = true)
    (hjk : decide (j.priority ≤ k.priority) = true) : decide (i.priority ≤ k.priority) = true := by
  rw [decide_eq_true_eq] at hij hjk ⊢
  exact Nat.le_trans hij hjk

theorem mem_sortItems {i : Item} {items : List Item} : i ∈ sortItems items ↔ i ∈ items := mem_sortBy

theorem pairwise_sortItems (items : List Item) :
    (sortItems items).Pairwise fun i j => i.priority ≤ j.priority :=
  (pairwise_sortBy priority_total priority_trans items).imp fun h => of_decide_eq_true h

theorem filter_sortItems (p : Item → Bool) (items : List Item) :
    (sortItems items).filter p = sortItems (items.filter p) :=
  filter_sortBy priority_total priority_trans p items

theorem sortItems_of_priority {items : List Item} {n : Nat} (h : ∀ i ∈ items, i.priority = n) :
    sortItems items = items := by
  refine sortBy_of_pairwise (List.pairwise_of_forall_mem_list fun i hi j hj => ?_)
  rw [decide_eq_true_eq]
  exact Nat.le_of_eq ((h i hi).trans (h j hj).symm)

theorem keys_sort (contents : Contents) : contents.sort.keys = contents.keys := by
  simp [keys, sort]

theorem items_sort (contents : Contents) : contents.sort.items.Perm contents.items := by
  unfold items sort
  rw [List.flatMap_map]
  exact List.Perm.flatMap_left _ fun s _ => sortBy_perm _ s.items

theorem items_eq_itemsOf {contents : Contents} (h : contents.keys.Nodup) {s : Section}
    (hs : s ∈ contents.sections) : s.items = contents.itemsOf s.key := by
  obtain ⟨before, after, hsections⟩ := List.append_of_mem hs
  unfold keys at h
  rw [hsections, List.map_append, List.map_cons, List.nodup_middle, List.nodup_cons,
    List.mem_append, not_or] at h
  obtain ⟨⟨hbefore, hafter⟩, -⟩ := h
  unfold itemsOf
  rw [hsections]
  simp [filter_eq_nil_of_notMem hbefore, filter_eq_nil_of_notMem hafter]

theorem items_of_mem_sort {contents : Contents} (h : contents.keys.Nodup) {s : Section}
    (hs : s ∈ contents.sort.sections) : s.items = sortItems (contents.itemsOf s.key) := by
  obtain ⟨t, ht, rfl⟩ := List.mem_map.1 hs
  rw [items_eq_itemsOf h ht]

theorem nodup_keys_base : base.keys.Nodup := by decide

theorem itemsOf_base (key : String) : base.itemsOf key = [] := by
  simp [itemsOf, base, baseSections, List.flatMap_eq_nil_iff]

theorem items_base : base.items = [] := rfl

end Contents

/-! ## The table of a report -/

namespace Site

variable (site : Site)

/-- The key and the item of a record. -/
def recordEntry (record : Record) : String × Item :=
  (site.config.sectionFor record.folder, record.item)

/-- The key and the item of an orphan. -/
def orphanEntry (p : Path) : String × Item := ((site.place p).key, (site.place p).item)

/-- The keys and items of a report, in the order they are pushed. -/
def entries (records : List Record) (orphans : List Path) : List (String × Item) :=
  records.map site.recordEntry ++ orphans.map site.orphanEntry

theorem pushAll_entries (contents : Contents) (records : List Record) (orphans : List Path) :
    contents.pushAll (site.entries records orphans) =
      orphans.foldl site.pushOrphan (records.foldl site.pushRecord contents) := by
  simp only [Contents.pushAll, entries, List.foldl_append, List.foldl_map]
  rw [show site.pushRecord = fun c r => c.push (site.recordEntry r).1 (site.recordEntry r).2 from
      funext fun c => funext fun r => by rw [pushRecord, recordEntry],
    show site.pushOrphan = fun c p => c.push (site.orphanEntry p).1 (site.orphanEntry p).2 from
      funext fun c => funext fun p => by rw [pushOrphan, orphanEntry]]

theorem contents_eq (corpus : Corpus) (toctrees : ToctreeReport) :
    (site.contents corpus toctrees).contents =
      (Contents.base.pushAll
        (site.entries corpus.records (site.contents corpus toctrees).orphans)).sort := by
  rw [pushAll_entries]
  simp only [contents]

variable {site} {corpus : Corpus} {toctrees : ToctreeReport}

theorem nodup_keys_contents : (site.contents corpus toctrees).contents.keys.Nodup := by
  rw [contents_eq, Contents.keys_sort]
  exact Contents.nodup_keys_pushAll Contents.nodup_keys_base _

/-- A section of a report holds what was pushed under its key, in order of priority. -/
theorem items_of_mem_sections {s : Section}
    (h : s ∈ (site.contents corpus toctrees).contents.sections) :
    s.items = Contents.sortItems
      (((site.entries corpus.records (site.contents corpus toctrees).orphans).filter
        (·.1 = s.key)).map (·.2)) := by
  rw [contents_eq] at h
  have hnodup := Contents.nodup_keys_pushAll Contents.nodup_keys_base
    (site.entries corpus.records (site.contents corpus toctrees).orphans)
  rw [Contents.items_of_mem_sort hnodup h, Contents.itemsOf_pushAll Contents.nodup_keys_base,
    Contents.itemsOf_base, List.nil_append]

theorem mem_documentItems {records : List Record} {key : String} {i : Item} :
    i ∈ ((records.map site.recordEntry).filter (·.1 = key)).map (·.2) ↔
      ∃ r ∈ records, site.config.sectionFor r.folder = key ∧ i = r.item := by
  simp only [List.mem_map, List.mem_filter, decide_eq_true_eq]
  constructor
  · rintro ⟨entry, ⟨⟨r, hr, rfl⟩, hkey⟩, rfl⟩
    exact ⟨r, hr, hkey, rfl⟩
  · rintro ⟨r, hr, hkey, rfl⟩
    exact ⟨site.recordEntry r, ⟨⟨r, hr, rfl⟩, hkey⟩, rfl⟩

theorem orphanItem_of_mem {orphans : List Path} {key : String} {i : Item}
    (h : i ∈ ((orphans.map site.orphanEntry).filter (·.1 = key)).map (·.2)) :
    i.category = .orphan ∧ i.priority = Category.orphanPriority := by
  obtain ⟨entry, hentry, rfl⟩ := List.mem_map.1 h
  obtain ⟨p, -, rfl⟩ := List.mem_map.1 (List.mem_of_mem_filter hentry)
  exact ⟨rfl, rfl⟩

theorem items_contents :
    (site.contents corpus toctrees).contents.items.Perm
      (corpus.records.map Record.item ++
        (site.contents corpus toctrees).orphans.map fun p => (site.place p).item) := by
  have hsort := Contents.items_sort (Contents.base.pushAll
    (site.entries corpus.records (site.contents corpus toctrees).orphans))
  have hpush := Contents.items_pushAll Contents.nodup_keys_base
    (site.entries corpus.records (site.contents corpus toctrees).orphans)
  rw [Contents.items_base, List.nil_append] at hpush
  have hperm := hsort.trans hpush
  rw [← contents_eq] at hperm
  unfold entries at hperm
  rw [List.map_append, List.map_map, List.map_map] at hperm
  exact hperm

end Site

end DocAtlas
