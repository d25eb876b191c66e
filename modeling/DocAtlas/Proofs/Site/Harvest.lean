import DocAtlas.Site.Discovery
import DocAtlas.Proofs.Ordering.Stable
import DocAtlas.Proofs.Path.Spelling

/-! # The harvest

The finds of the declared directories, one after the other, without those at paths met before. What
is kept is a part of the finds with no path twice and none of their paths left out.

* `firstFinds_append`, `Site.harvestFrom_flatMap` — the harvest is one scan over all finds
* `pairwise_firstFinds`, `exists_same_firstFinds` — no path twice, none left out
* `Site.mem_kept` — which of the finds are kept
* `Corpus.records_perm`, `Site.mem_records` — the records by category are the records found
* `Path.countP_same` — how often a path occurs where none occurs twice
-/

set_option autoImplicit false

namespace DocAtlas

/-! ## First finds -/

/-- Only which paths were seen counts. -/
theorem firstFinds_congr {seen other : List Path}
    (h : ∀ p : Path, seen.any p.same = other.any p.same) (finds : List Find) :
    firstFinds seen finds = firstFinds other finds := by
  induction finds generalizing seen other with
  | nil => rfl
  | cons f rest ih =>
    have hcons : ∀ p : Path, (f.path :: seen).any p.same = (f.path :: other).any p.same := by
      intro p
      rw [List.any_cons, List.any_cons, h p]
    rw [firstFinds, firstFinds, h f.path, ih h, ih hcons]

theorem firstFinds_append (seen : List Path) (xs ys : List Find) :
    firstFinds seen (xs ++ ys) =
      firstFinds seen xs ++ firstFinds (seen ++ (firstFinds seen xs).map (·.path)) ys := by
  induction xs generalizing seen with
  | nil => simp [firstFinds]
  | cons f rest ih =>
    rw [List.cons_append, firstFinds, firstFinds]
    split
    · exact ih seen
    · rw [ih, List.cons_append, List.map_cons]
      congr 2
      apply firstFinds_congr
      intro p
      simp only [List.any_append, List.any_cons, Bool.or_left_comm]

theorem firstFinds_sublist (seen : List Path) (finds : List Find) :
    (firstFinds seen finds).Sublist finds := by
  induction finds generalizing seen with
  | nil => exact List.Sublist.refl _
  | cons f rest ih =>
    rw [firstFinds]
    split
    · exact (ih seen).cons f
    · exact (ih (f.path :: seen)).cons_cons f

theorem not_seen_of_mem_firstFinds {seen : List Path} {finds : List Find} {f : Find}
    (h : f ∈ firstFinds seen finds) : seen.any f.path.same = false := by
  induction finds generalizing seen with
  | nil => simp [firstFinds] at h
  | cons g rest ih =>
    rw [firstFinds] at h
    split at h
    · exact ih h
    · rename_i hg
      rcases List.mem_cons.1 h with rfl | h
      · simpa using hg
      · have hrest := ih h
        rw [List.any_cons, Bool.or_eq_false_iff] at hrest
        exact hrest.2

theorem pairwise_firstFinds (seen : List Path) (finds : List Find) :
    (firstFinds seen finds).Pairwise (fun f g => f.path.same g.path = false) := by
  induction finds generalizing seen with
  | nil => exact List.Pairwise.nil
  | cons f rest ih =>
    rw [firstFinds]
    split
    · exact ih seen
    · refine List.pairwise_cons.2 ⟨fun g hg => ?_, ih (f.path :: seen)⟩
      have hseen := not_seen_of_mem_firstFinds hg
      rw [List.any_cons, Bool.or_eq_false_iff] at hseen
      rw [Path.same_comm]
      exact hseen.1

/-- A find that is left out was met before. -/
theorem exists_same_firstFinds (seen : List Path) {finds : List Find} {f : Find} (h : f ∈ finds) :
    seen.any f.path.same = true ∨ ∃ g ∈ firstFinds seen finds, f.path.same g.path = true := by
  induction finds generalizing seen with
  | nil => simp at h
  | cons g rest ih =>
    rw [firstFinds]
    rcases List.mem_cons.1 h with rfl | h
    · split
      · rename_i hseen
        exact Or.inl hseen
      · exact Or.inr ⟨f, by simp, Path.same_refl _⟩
    · split
      · exact ih seen h
      · rcases ih (g.path :: seen) h with hseen | ⟨k, hk, hsame⟩
        · rw [List.any_cons, Bool.or_eq_true] at hseen
          rcases hseen with hsame | hseen
          · exact Or.inr ⟨g, by simp, hsame⟩
          · exact Or.inl hseen
        · exact Or.inr ⟨k, List.mem_cons_of_mem g hk, hsame⟩

/-- Of finds that are met for the first time none is left out. -/
theorem mem_firstFinds {seen : List Path} {finds : List Find} {f : Find}
    (hfinds : finds.Pairwise fun f g => f.path.same g.path = false) :
    f ∈ firstFinds seen finds ↔ f ∈ finds ∧ seen.any f.path.same = false := by
  constructor
  · intro h
    exact ⟨(firstFinds_sublist _ _).subset h, not_seen_of_mem_firstFinds h⟩
  · rintro ⟨hf, hseen⟩
    rcases exists_same_firstFinds seen hf with hany | ⟨g, hg, hsame⟩
    · rw [hseen] at hany
      cases hany
    · by_contra hne
      have hgf := (firstFinds_sublist _ _).subset hg
      have hdiffers : f ≠ g := fun heq => hne (heq ▸ hg)
      rcases pairwise_or hfinds hf hgf hdiffers with h | h
      · exact Bool.false_ne_true (h.symm.trans hsame)
      · exact Bool.false_ne_true (h.symm.trans ((Path.same_comm _ _).trans hsame))

/-! ## The harvest of a site -/

namespace Site

variable {site : Site}

/-- The finds of every declared directory, those met twice included. -/
def allFinds (site : Site) : List Find := site.layout.declaredDirs.flatMap site.finds

/-- The finds that are kept. -/
def kept (site : Site) : List Find := site.harvest.flatMap (·.2)

theorem harvestFrom_flatMap (seen : List Path) (dirs : List DeclaredDir) :
    (site.harvestFrom seen dirs).flatMap (·.2) = firstFinds seen (dirs.flatMap site.finds) := by
  induction dirs generalizing seen with
  | nil => rfl
  | cons declared rest ih =>
    rw [harvestFrom, List.flatMap_cons, List.flatMap_cons, ih, firstFinds_append]

theorem kept_eq : site.kept = firstFinds [] site.allFinds := harvestFrom_flatMap [] _

theorem mem_allFinds_of_mem_kept {f : Find} (h : f ∈ site.kept) : f ∈ site.allFinds := by
  rw [kept_eq] at h
  exact (firstFinds_sublist _ _).subset h

theorem pairwise_kept (site : Site) :
    site.kept.Pairwise (fun f g => f.path.same g.path = false) := by
  rw [kept_eq]
  exact pairwise_firstFinds _ _

theorem exists_same_kept {f : Find} (h : f ∈ site.allFinds) :
    ∃ g ∈ site.kept, f.path.same g.path = true := by
  rw [kept_eq]
  rcases exists_same_firstFinds [] h with hseen | hkept
  · simp at hseen
  · exact hkept

/-- A find is kept by the first of the directories with its path. -/
theorem mem_firstFinds_flatMap {seen : List Path} {dirs : List DeclaredDir} {f : Find}
    (hfinds : ∀ d ∈ dirs, (site.finds d).Pairwise fun f g => f.path.same g.path = false) :
    f ∈ firstFinds seen (dirs.flatMap site.finds) ↔ seen.any f.path.same = false ∧
      ∃ before declared after, dirs = before ++ declared :: after ∧ f ∈ site.finds declared ∧
        ∀ d ∈ before, ∀ g ∈ site.finds d, f.path.same g.path = false := by
  induction dirs generalizing seen with
  | nil => simp [firstFinds]
  | cons declared rest ih =>
    have hfirst : f ∈ firstFinds seen (site.finds declared) ↔
        f ∈ site.finds declared ∧ seen.any f.path.same = false :=
      mem_firstFinds (hfinds declared List.mem_cons_self)
    have hrest := @ih (seen ++ (firstFinds seen (site.finds declared)).map (·.path))
      fun d hd => hfinds d (List.mem_cons_of_mem declared hd)
    rw [List.flatMap_cons, firstFinds_append, List.mem_append, hfirst, hrest]
    constructor
    · rintro (⟨hf, hseen⟩ | ⟨hseen, before, d, after, rfl, hf, hnone⟩)
      · exact ⟨hseen, [], declared, rest, rfl, hf, by simp⟩
      · rw [List.any_append, Bool.or_eq_false_iff] at hseen
        refine ⟨hseen.1, declared :: before, d, after, rfl, hf, fun e he g hg => ?_⟩
        rcases List.mem_cons.1 he with rfl | he
        · by_contra hsame
          rw [Bool.not_eq_false] at hsame
          -- a find of the first directory with this path was seen or is kept
          rcases exists_same_firstFinds seen hg with hany | ⟨k, hk, hkept⟩
          · obtain ⟨p, hp, hpath⟩ := List.any_eq_true.1 hany
            exact List.any_eq_false.1 hseen.1 p hp (Path.same_trans hsame hpath)
          · exact List.any_eq_false.1 hseen.2 k.path (List.mem_map_of_mem hk)
              (Path.same_trans hsame hkept)
        · exact hnone e he g hg
    · rintro ⟨hseen, before, d, after, hdirs, hf, hnone⟩
      cases before with
      | nil =>
        obtain ⟨rfl, rfl⟩ := List.cons.inj hdirs
        exact Or.inl ⟨hf, hseen⟩
      | cons e before =>
        obtain ⟨rfl, rfl⟩ := List.cons.inj hdirs
        refine Or.inr ⟨?_, before, d, after, rfl, hf,
          fun e' he' => hnone e' (List.mem_cons_of_mem _ he')⟩
        rw [List.any_append, Bool.or_eq_false_iff]
        refine ⟨hseen, List.any_eq_false.2 fun p hp => ?_⟩
        obtain ⟨g, hg, rfl⟩ := List.mem_map.1 hp
        rw [hnone _ List.mem_cons_self g ((firstFinds_sublist _ _).subset hg)]
        exact Bool.false_ne_true

theorem mem_kept {f : Find} (hfinds : ∀ d ∈ site.layout.declaredDirs,
      (site.finds d).Pairwise fun f g => f.path.same g.path = false) :
    f ∈ site.kept ↔ ∃ before declared after, site.layout.declaredDirs = before ++ declared :: after ∧
      f ∈ site.finds declared ∧ ∀ d ∈ before, ∀ g ∈ site.finds d, f.path.same g.path = false := by
  rw [kept_eq, allFinds, mem_firstFinds_flatMap hfinds]
  simp

theorem mem_finds {declared : DeclaredDir} {f : Find} : f ∈ site.finds declared ↔
    site.tree.isDir declared.dir = true ∧ ∃ p ∈ site.sources declared.dir, f = declared.find p := by
  unfold finds
  split
  · rename_i hdir
    simp [hdir, eq_comm]
  · rename_i hdir
    simp [hdir]

theorem mem_allFinds {f : Find} :
    f ∈ site.allFinds ↔ ∃ declared ∈ site.layout.declaredDirs,
      site.tree.isDir declared.dir = true ∧ ∃ p ∈ site.sources declared.dir, f = declared.find p := by
  unfold allFinds
  rw [List.mem_flatMap]
  exact exists_congr fun declared => and_congr_right fun _ => mem_finds

theorem mem_finds_of_mem_harvest {entry : DeclaredDir × List Find} (h : entry ∈ site.harvest)
    {f : Find} (hf : f ∈ entry.2) : f ∈ site.finds entry.1 := by
  have hfrom : ∀ dirs seen, entry ∈ site.harvestFrom seen dirs → f ∈ site.finds entry.1 := by
    intro dirs
    induction dirs with
    | nil => exact fun _ hentry => by cases hentry
    | cons declared rest ih =>
      intro seen hentry
      rcases List.mem_cons.1 hentry with rfl | hentry
      · exact (firstFinds_sublist _ _).subset hf
      · exact ih _ hentry
  exact hfrom _ _ h

@[simp] theorem path_find (declared : DeclaredDir) (p : Path) : (declared.find p).path = p := by
  unfold DeclaredDir.find
  simp only
  split <;> rfl

@[simp] theorem category_find (declared : DeclaredDir) (p : Path) :
    (declared.find p).category = declared.category := by
  unfold DeclaredDir.find
  simp only
  split <;> rfl

theorem found_corpus : site.corpus.found = site.kept.map site.record := rfl

theorem path_record (f : Find) : (site.record f).path = f.path := by
  rw [record, Record.ofContent]

theorem url_record (f : Find) : (site.record f).url = site.url f.path := by
  rw [record, Record.ofContent]

theorem category_record (f : Find) : (site.record f).category = f.category := by
  rw [record, Record.ofContent]

theorem category_ne_orphan {declared : DeclaredDir} (h : declared ∈ site.layout.declaredDirs) :
    declared.category ≠ .orphan := by
  simp only [Layout.declaredDirs, Layout.categoryDirs, List.mem_append, List.mem_cons,
    List.not_mem_nil, or_false, List.mem_map] at h
  rcases h with (rfl | rfl | rfl) | ⟨dir, -, rfl⟩ <;> simp

end Site

/-! ## Records by category -/

namespace Corpus

theorem count_ofCategory (corpus : Corpus) (c : Category) (r : Record) :
    (corpus.ofCategory c).count r = if r.category = c then corpus.found.count r else 0 := by
  unfold ofCategory
  split
  · rename_i h
    exact List.count_filter (by simp [h])
  · rename_i h
    exact List.count_eq_zero.2 (by simp [h])

theorem records_eq (corpus : Corpus) :
    corpus.records = Category.all.flatMap corpus.ofCategory := by
  unfold records groups categories
  rw [List.flatMap_map]
  by_cases h : corpus.ofCategory .orphan = []
  · simp [Category.all, h]
  · simp [Category.all, h]

theorem records_perm (corpus : Corpus) : corpus.records.Perm corpus.found := by
  rw [List.perm_iff_count]
  intro r
  rw [records_eq]
  simp only [Category.all, List.flatMap_cons, List.flatMap_nil, List.append_nil, List.count_append,
    count_ofCategory]
  cases r.category <;> simp

end Corpus

theorem Site.mem_records {site : Site} {r : Record} :
    r ∈ site.corpus.records ↔ ∃ f ∈ site.kept, site.record f = r := by
  rw [site.corpus.records_perm.mem_iff, found_corpus, List.mem_map]

theorem Site.category_of_mem_records {site : Site} {r : Record} (h : r ∈ site.corpus.records) :
    r.category ≠ .orphan := by
  obtain ⟨f, hf, rfl⟩ := mem_records.1 h
  obtain ⟨declared, hd, -, p, -, rfl⟩ := mem_allFinds.1 (mem_allFinds_of_mem_kept hf)
  rw [category_record, category_find]
  exact category_ne_orphan hd

/-! ## Paths of which none occurs twice -/

theorem Path.eq_of_same {paths : List Path} (h : paths.Pairwise (fun p q => p.same q = false))
    {p q : Path} (hp : p ∈ paths) (hq : q ∈ paths) (hsame : p.same q = true) : p = q := by
  by_contra hne
  rcases pairwise_or h hp hq hne with hdiffers | hdiffers
  · rw [hsame] at hdiffers
    cases hdiffers
  · rw [Path.same_comm, hsame] at hdiffers
    cases hdiffers

/-- Where no path occurs twice, one that occurs does so once. -/
theorem Path.countP_same {paths : List Path} (h : paths.Pairwise (fun p q => p.same q = false))
    (p : Path) : paths.countP p.same = if paths.any p.same then 1 else 0 := by
  induction paths with
  | nil => rfl
  | cons q rest ih =>
    obtain ⟨hq, hrest⟩ := List.pairwise_cons.1 h
    rw [List.countP_cons, List.any_cons, ih hrest]
    by_cases hpq : p.same q = true
    · have hnone : rest.any p.same = false := by
        rw [List.any_eq_false]
        intro r hr
        rw [Path.same_congr hpq r, hq r hr]
        simp
      simp [hpq, hnone]
    · simp [hpq]

end DocAtlas
