import DocAtlas.Proofs.Contents.Table
import Mathlib.Data.List.Induction

/-! # The history of a table of contents

A table that starts with the six usual sections is changed in any order: sections are asked for, items
are pushed, the items are sorted, sections are looked up. What is there in the end depends on which keys
were used first and on which items were pushed under which key.

* `Contents.Change`, `Contents.after` — a change, and a table after a list of changes
* `Contents.headings`, `Contents.pushedTo` — what the changes say about sections and their items
* `Contents.Reflects` — the table is what the changes say, but for the order of items
* `Contents.reflects_apply`, `Contents.reflects_after` — one change keeps it so, and so do all
* `Contents.after_changes` — sections, number of items and sorted items after any changes
-/

set_option autoImplicit false

namespace DocAtlas

def Section.heading (s : Section) : String × String := (s.key, s.title)

namespace Contents

/-! ## Changes -/

/-- One use of a table of contents. -/
inductive Change where
  /-- Ask for the section of a key, which is made if there is none. -/
  | touch (key : String)
  /-- Ask for the section of a key and push an item there. -/
  | push (key : String) (item : Item)
  /-- Sort the items of each section. -/
  | sort
  /-- Look up the section of a key, which need not be there. -/
  | look (key : String)
  deriving DecidableEq, Repr

namespace Change

/-- The key for which a section is made. -/
def key? : Change → Option String
  | .touch key => some key
  | .push key _ => some key
  | _ => none

/-- The item that is pushed, and its key. -/
def pushed? : Change → Option (String × Item)
  | .push key item => some (key, item)
  | _ => none

def isSort : Change → Bool
  | .sort => true
  | _ => false

def isLook : Change → Bool
  | .look _ => true
  | _ => false

end Change

def apply (contents : Contents) : Change → Contents
  | .touch key => contents.touch key
  | .push key item => contents.push key item
  | .sort => contents.sort
  | .look _ => contents

def after (contents : Contents) (changes : List Change) : Contents := changes.foldl apply contents

/-- The keys that get a section of their own, in the order of their first use. -/
def newKeys (changes : List Change) : List String :=
  ((changes.filterMap Change.key?).filter fun key => !base.keys.contains key).eraseDups

/-- The keys and headings of the sections after changes: the usual ones, then the new ones. -/
def headings (changes : List Change) : List (String × String) :=
  baseSections ++ (newKeys changes).map fun key => (key, Title.ofStem key)

/-- The items pushed under a key, in the order they were pushed. -/
def pushedTo (key : String) (changes : List Change) : List Item :=
  ((changes.filterMap Change.pushed?).filter (·.1 = key)).map (·.2)

def pushed (changes : List Change) : List Item := (changes.filterMap Change.pushed?).map (·.2)

/-! ## What one change adds -/

variable {contents : Contents} {changes : List Change} {change : Change} {key : String}

theorem pushedTo_concat_of_none (h : change.pushed? = none) (key : String) :
    pushedTo key (changes ++ [change]) = pushedTo key changes := by
  simp [pushedTo, h]

theorem pushed_concat_of_none (h : change.pushed? = none) :
    pushed (changes ++ [change]) = pushed changes := by
  simp [pushed, h]

theorem pushedTo_concat (key other : String) (item : Item) :
    pushedTo other (changes ++ [.push key item]) =
      pushedTo other changes ++ if key = other then [item] else [] := by
  by_cases hkey : key = other
  · simp [pushedTo, Change.pushed?, hkey]
  · simp [pushedTo, Change.pushed?, hkey]

theorem pushed_concat (key : String) (item : Item) :
    pushed (changes ++ [.push key item]) = pushed changes ++ [item] := by
  simp [pushed, Change.pushed?]

theorem newKeys_concat_of_none (h : change.key? = none) :
    newKeys (changes ++ [change]) = newKeys changes := by
  simp [newKeys, h]

theorem eraseDups_concat (xs : List String) (x : String) :
    (xs ++ [x]).eraseDups = xs.eraseDups ++ if x ∈ xs then [] else [x] := by
  rw [List.eraseDups_append]
  by_cases h : x ∈ xs
  · rw [if_pos h, List.removeAll, List.filter_cons_of_neg (by simpa using h)]
    rfl
  · rw [if_neg h, List.removeAll, List.filter_cons_of_pos (by simpa using h)]
    rfl

theorem newKeys_concat_of_mem (h : change.key? = some key)
    (hkey : key ∈ base.keys ++ newKeys changes) : newKeys (changes ++ [change]) = newKeys changes := by
  rw [newKeys, newKeys, List.filterMap_append, List.filterMap_cons_some h, List.filter_append]
  by_cases hbase : key ∈ base.keys
  · rw [List.filter_cons_of_neg (by simpa using hbase)]
    exact congrArg List.eraseDups (List.append_nil _)
  · have hused := (List.mem_append.1 hkey).resolve_left hbase
    rw [newKeys, List.mem_eraseDups] at hused
    rw [List.filter_cons_of_pos (by simpa using hbase), List.filterMap_nil, List.filter_nil,
      eraseDups_concat, if_pos hused, List.append_nil]

theorem newKeys_concat_of_notMem (h : change.key? = some key)
    (hkey : key ∉ base.keys ++ newKeys changes) :
    newKeys (changes ++ [change]) = newKeys changes ++ [key] := by
  rw [List.mem_append, not_or, newKeys, List.mem_eraseDups] at hkey
  obtain ⟨hbase, hunused⟩ := hkey
  rw [newKeys, newKeys, List.filterMap_append, List.filterMap_cons_some h, List.filter_append,
    List.filter_cons_of_pos (by simpa using hbase), List.filterMap_nil, List.filter_nil,
    eraseDups_concat, if_neg hunused]

theorem map_fst_headings (changes : List Change) :
    (headings changes).map (·.1) = base.keys ++ newKeys changes := by
  simp [headings, base, keys, Function.comp_def]

theorem headings_concat (h : change.key? = some key) :
    headings (changes ++ [change]) = headings changes ++
      if key ∈ (headings changes).map (·.1) then [] else [(key, Title.ofStem key)] := by
  by_cases hkey : key ∈ (headings changes).map (·.1)
  · rw [if_pos hkey, List.append_nil, headings, newKeys_concat_of_mem h (by rwa [← map_fst_headings]),
      headings]
  · rw [if_neg hkey, headings, newKeys_concat_of_notMem h (by rwa [← map_fst_headings]), headings,
      List.map_append, List.append_assoc]
    rfl

theorem headings_concat_of_none (h : change.key? = none) :
    headings (changes ++ [change]) = headings changes := by
  rw [headings, headings, newKeys_concat_of_none h]

theorem keys_eq_map_heading (contents : Contents) :
    contents.keys = (contents.sections.map Section.heading).map (·.1) := by
  rw [keys, List.map_map]
  rfl

theorem map_heading_touch (contents : Contents) (key : String) :
    (contents.touch key).sections.map Section.heading = contents.sections.map Section.heading ++
      if key ∈ contents.keys then [] else [(key, Title.ofStem key)] := by
  rw [sections_touch, List.map_append]
  split
  · rfl
  · rfl

theorem map_heading_push (contents : Contents) (key : String) (item : Item) :
    (contents.push key item).sections.map Section.heading =
      (contents.touch key).sections.map Section.heading := by
  rw [sections_push, addTo, List.map_map]
  apply List.map_congr_left
  intro s _
  simp only [Function.comp_apply]
  split
  · rfl
  · rfl

theorem map_heading_sort (contents : Contents) :
    contents.sort.sections.map Section.heading = contents.sections.map Section.heading := by
  rw [sort, List.map_map]
  rfl

theorem itemsOf_of_notMem (h : key ∉ contents.keys) : contents.itemsOf key = [] := by
  rw [itemsOf, filter_eq_nil_of_notMem h, List.flatMap_nil]

theorem itemsOf_sort (h : contents.keys.Nodup) (key : String) :
    contents.sort.itemsOf key = sortItems (contents.itemsOf key) := by
  by_cases hkey : key ∈ contents.sort.keys
  · obtain ⟨s, hs, rfl⟩ := List.mem_map.1 hkey
    rw [← items_of_mem_sort h hs, items_eq_itemsOf (by rwa [keys_sort]) hs]
  · rw [itemsOf_of_notMem hkey, itemsOf_of_notMem (by rwa [keys_sort] at hkey)]
    rfl

/-- It does not matter whether items were sorted before more are put behind them. -/
theorem sortItems_append_congr {xs ys : List Item} (h : sortItems xs = sortItems ys)
    (more : List Item) : sortItems (xs ++ more) = sortItems (ys ++ more) := by
  have hfront : ∀ items, sortItems (sortItems items ++ more) = sortItems (items ++ more) :=
    fun items => sortBy_sortBy_append priority_total priority_trans items more
  rw [← hfront xs, h, hfront]

theorem sortItems_sortItems (items : List Item) : sortItems (sortItems items) = sortItems items :=
  sortBy_of_pairwise (pairwise_sortBy priority_total priority_trans items)

/-! ## The table and its history -/

/-- The table is what the changes say. Sorting aside, it has the items in the order they were pushed. -/
structure Reflects (contents : Contents) (changes : List Change) : Prop where
  nodup : contents.keys.Nodup
  headings : contents.sections.map Section.heading = headings changes
  sorted : ∀ key, sortItems (contents.itemsOf key) = sortItems (pushedTo key changes)
  items : contents.items.Perm (pushed changes)

theorem reflects_base : base.Reflects [] where
  nodup := nodup_keys_base
  headings := by decide
  sorted := fun key => by rw [itemsOf_base]; rfl
  items := .refl _

theorem Reflects.touch (h : contents.Reflects changes) (hkey : change.key? = some key) :
    (contents.touch key).sections.map Section.heading = Contents.headings (changes ++ [change]) := by
  rw [map_heading_touch, headings_concat hkey, keys_eq_map_heading, h.headings]

/-- One change. A push goes behind what was pushed before, be it sorted or not. -/
theorem reflects_apply (h : contents.Reflects changes) (change : Change) :
    (contents.apply change).Reflects (changes ++ [change]) := by
  cases change with
  | touch key =>
    exact {
      nodup := nodup_keys_touch h.nodup key
      headings := h.touch rfl
      sorted := fun other => by
        rw [apply, itemsOf_touch, h.sorted, pushedTo_concat_of_none rfl]
      items := by
        rw [apply, items_touch, pushed_concat_of_none rfl]
        exact h.items }
  | push key item =>
    exact {
      nodup := nodup_keys_push h.nodup key item
      headings := by
        rw [apply, map_heading_push]
        exact h.touch rfl
      sorted := fun other => by
        rw [apply, itemsOf_push h.nodup, pushedTo_concat]
        exact sortItems_append_congr (h.sorted other) _
      items := by
        rw [pushed_concat]
        exact (items_push h.nodup key item).trans (h.items.append_right [item]) }
  | sort =>
    exact {
      nodup := by
        rw [apply, keys_sort]
        exact h.nodup
      headings := by rw [apply, map_heading_sort, h.headings, headings_concat_of_none rfl]
      sorted := fun other => by
        rw [apply, itemsOf_sort h.nodup, h.sorted, pushedTo_concat_of_none rfl, sortItems_sortItems]
      items := by
        rw [pushed_concat_of_none rfl]
        exact (items_sort contents).trans h.items }
  | look key =>
    exact {
      nodup := h.nodup
      headings := by
        rw [headings_concat_of_none rfl]
        exact h.headings
      sorted := fun other => by
        rw [apply, h.sorted, pushedTo_concat_of_none rfl]
      items := by
        rw [pushed_concat_of_none rfl]
        exact h.items }

theorem after_concat (contents : Contents) (changes : List Change) (change : Change) :
    contents.after (changes ++ [change]) = (contents.after changes).apply change := by
  simp [after]

theorem reflects_after (changes : List Change) : (base.after changes).Reflects changes := by
  induction changes using List.reverseRecOn with
  | nil => exact reflects_base
  | append_singleton changes change ih =>
    rw [after_concat]
    exact reflects_apply ih change

/-! ## The table in the end -/

theorem total_eq_length_items (contents : Contents) : contents.total = contents.items.length := by
  unfold total items
  induction contents.sections with
  | nil => rfl
  | cons s rest ih => rw [sumOf_cons, ih, List.flatMap_cons, List.length_append]

/-- A table of different keys is made of its headings and the items under its keys. -/
theorem sections_eq_map_heading (h : contents.keys.Nodup) :
    contents.sections = (contents.sections.map Section.heading).map fun heading =>
      ⟨heading.1, heading.2, contents.itemsOf heading.1⟩ := by
  rw [List.map_map]
  conv => lhs; rw [← List.map_id contents.sections]
  refine List.map_congr_left fun s hs => ?_
  rw [Function.comp_apply, Section.heading, ← items_eq_itemsOf h hs]
  rfl

theorem Reflects.sections_sort (h : contents.Reflects changes) :
    contents.sort.sections = (Contents.headings changes).map fun heading =>
      ⟨heading.1, heading.2, sortItems (pushedTo heading.1 changes)⟩ := by
  have hnodup : contents.sort.keys.Nodup := by
    rw [keys_sort]
    exact h.nodup
  rw [sections_eq_map_heading hnodup, map_heading_sort, h.headings]
  refine List.map_congr_left fun heading _ => ?_
  rw [itemsOf_sort h.nodup, h.sorted]

theorem isStableSort_sortItems (items : List Item) :
    IsStableSort (fun i j => i.priority ≤ j.priority) items (sortItems items) :=
  isStableSort_sortBy priority_total priority_trans items

/-- Sections are found by their keys, which are all different. -/
theorem get?_eq_some_iff (h : contents.keys.Nodup) {s : Section} :
    contents.get? key = some s ↔ s ∈ contents.sections ∧ s.key = key := by
  constructor
  · intro hget
    exact ⟨List.mem_of_find?_eq_some hget, by simpa using List.find?_some hget⟩
  · rintro ⟨hs, rfl⟩
    obtain ⟨before, after, hsections⟩ := List.append_of_mem hs
    rw [keys, hsections, List.map_append, List.map_cons, List.nodup_middle, List.nodup_cons,
      List.mem_append, not_or] at h
    have hbefore : before.find? (·.key == s.key) = none := by
      rw [List.find?_eq_none]
      intro t ht hkey
      exact h.1.1 (List.mem_map.2 ⟨t, ht, by simpa using hkey⟩)
    rw [get?, hsections, List.find?_append, hbefore, List.find?_cons_of_pos (by simp)]
    rfl

theorem eq_of_sections {contents other : Contents} (h : contents.sections = other.sections) :
    contents = other := by
  cases contents
  cases other
  cases h
  rfl

theorem after_filter_look (contents : Contents) (changes : List Change) :
    contents.after (changes.filter fun change => !change.isLook) = contents.after changes := by
  rw [after, after, List.foldl_filter]
  congr 1
  funext c change
  cases change <;> rfl

theorem filterMap_filter_sort {β : Type} {f : Change → Option β} (h : f .sort = none)
    (changes : List Change) :
    (changes.filter fun change => !change.isSort).filterMap f = changes.filterMap f := by
  rw [List.filterMap_filter]
  congr 1
  funext change
  cases change with
  | sort => exact h.symm
  | touch key => rfl
  | push key item => rfl
  | look key => rfl

/-- Sorting at the end makes it unobservable whether there was sorting before. -/
theorem after_filter_sort (changes : List Change) :
    base.after ((changes.filter fun change => !change.isSort) ++ [.sort]) =
      base.after (changes ++ [.sort]) := by
  rw [after_concat, after_concat, apply, apply]
  have hsections := (reflects_after changes).sections_sort
  have hfiltered := (reflects_after (changes.filter fun change => !change.isSort)).sections_sort
  simp only [headings, newKeys, pushedTo, filterMap_filter_sort (f := Change.key?) rfl,
    filterMap_filter_sort (f := Change.pushed?) rfl] at hsections hfiltered
  exact eq_of_sections (hfiltered.trans hsections.symm)

/-- After any changes the sections have different keys, the usual ones first and then those that were
used, in the order of their first use; lookups change nothing and find what is there; as many items are
there as were pushed. Sorted at the end, each section has the items that were pushed under its key in the
one stable order, however often they were sorted before. -/
theorem after_changes (changes : List Change) :
    (base.after changes).keys.Nodup ∧
    (base.after changes).sections.map Section.heading =
      baseSections ++ (newKeys changes).map (fun key => (key, Title.ofStem key)) ∧
    base.after (changes.filter fun change => !change.isLook) = base.after changes ∧
    (∀ key s, (base.after changes).get? key = some s ↔
      s ∈ (base.after changes).sections ∧ s.key = key) ∧
    (base.after changes).total = (pushed changes).length ∧
    (∀ s ∈ (base.after (changes ++ [.sort])).sections,
      IsStableSort (fun i j => i.priority ≤ j.priority) (pushedTo s.key changes) s.items) ∧
    base.after ((changes.filter fun change => !change.isSort) ++ [.sort]) =
      base.after (changes ++ [.sort]) := by
  have h := reflects_after changes
  refine ⟨h.nodup, h.headings, after_filter_look base changes,
    fun key s => get?_eq_some_iff h.nodup, ?_, fun s hs => ?_, after_filter_sort changes⟩
  · rw [total_eq_length_items, h.items.length_eq]
  · rw [after_concat, apply, h.sections_sort] at hs
    obtain ⟨heading, -, rfl⟩ := List.mem_map.1 hs
    exact isStableSort_sortItems _

example :
    ((base.after [.push "concepts" ⟨.user, 50, "first", "first.html"⟩,
        .push "concepts" ⟨.user, 90, "late", "late.html"⟩, .sort,
        .push "concepts" ⟨.user, 50, "second", "second.html"⟩, .sort]).get? "concepts").map
      (fun s => s.items.map (·.title)) = some ["first", "second", "late"] := by
  decide

end Contents

end DocAtlas
