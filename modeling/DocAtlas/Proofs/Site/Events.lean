import DocAtlas.Site.Contents
import DocAtlas.Site.References
import DocAtlas.Proofs.Site.Harvest
import DocAtlas.Proofs.Tree.Sources

/-! # What happens in an operation

Besides logging messages an operation reads documents and forms addresses. Which ones, is told for each
operation by one equivalence.

* `Event.isMessage` — whether an event only logs
* `Site.mem_walkEvents` — what happens on a walk happens at a source file
* `Site.mem_corpusEvents`, `Site.mem_linkEvents`, `Site.mem_toctreeEvents`, `Site.mem_orphanEvents`,
  `Site.mem_placeEvents`, `Site.mem_contentsEvents` — the events of each operation
-/

set_option autoImplicit false

namespace DocAtlas

/-- Whether an event is a message. -/
def Event.isMessage : Event → Bool
  | .log _ => true
  | _ => false

variable {event : Event}

theorem Event.ne_of_isMessage {other : Event} (h : event.isMessage = false)
    (hother : other.isMessage = true) : event ≠ other := by
  rintro rfl
  rw [h] at hother
  cases hother

theorem WalkStep.mem_flatMap_events {steps : List WalkStep} {met : Path → List Event}
    (h : event.isMessage = false) :
    event ∈ steps.flatMap (WalkStep.events met) ↔
      ∃ p ∈ steps.filterMap WalkStep.source?, event ∈ met p := by
  rw [List.mem_flatMap]
  constructor
  · rintro ⟨step, hstep, hevent⟩
    cases step with
    | source p => exact ⟨p, WalkStep.mem_filterMap_source?.2 hstep, hevent⟩
    | unopened p => exact absurd (List.mem_singleton.1 hevent) (Event.ne_of_isMessage h rfl)
  · rintro ⟨p, hp, hevent⟩
    exact ⟨.source p, WalkStep.mem_filterMap_source?.1 hp, hevent⟩

namespace Site

variable {site : Site}

theorem mem_walkEvents {met : Path → List Event} (h : event.isMessage = false) :
    event ∈ site.walkEvents met ↔ ∃ p ∈ site.allSources, event ∈ met p := by
  have hbefore : event ∉ site.tree.walkEvents site.layout.root := by
    unfold Tree.walkEvents
    split
    · exact List.not_mem_nil
    · exact fun hevent => Event.ne_of_isMessage h rfl (List.mem_singleton.1 hevent)
  rw [walkEvents, List.mem_append, or_iff_right hbefore]
  exact WalkStep.mem_flatMap_events h

/-! ## Discovery -/

theorem not_mem_missingEvents (h : event.isMessage = false) (declared : DeclaredDir) :
    event ∉ site.missingEvents declared := by
  unfold missingEvents
  split
  · exact List.not_mem_nil
  · split
    · exact fun hevent => Event.ne_of_isMessage h rfl (List.mem_singleton.1 hevent)
    · exact fun hevent => Event.ne_of_isMessage h rfl (List.mem_singleton.1 hevent)

theorem mem_harvestEvents (h : event.isMessage = false) {declared : DeclaredDir} {new : List Find}
    (hnew : ∀ f ∈ new, f ∈ site.finds declared) :
    event ∈ site.harvestEvents declared new ↔
      ∃ f ∈ new, event = .address f.path ∨ event = .read f.path := by
  unfold harvestEvents
  split
  · rw [WalkStep.mem_flatMap_events h]
    constructor
    · rintro ⟨p, -, hevent⟩
      split at hevent
      · rename_i hany
        obtain ⟨f, hf, hpath⟩ := List.any_eq_true.1 hany
        obtain rfl : f.path = p := by simpa using hpath
        exact ⟨f, hf, by simpa using hevent⟩
      · cases hevent
    · rintro ⟨f, hf, hevent⟩
      obtain ⟨-, p, hp, rfl⟩ := mem_finds.1 (hnew f hf)
      rw [path_find] at hevent
      refine ⟨p, hp, ?_⟩
      rw [if_pos (List.any_eq_true.2 ⟨_, hf, by simp⟩)]
      simpa using hevent
  · rename_i hdir
    refine iff_of_false List.not_mem_nil ?_
    rintro ⟨f, hf, -⟩
    exact hdir (mem_finds.1 (hnew f hf)).1

theorem mem_corpusEvents (h : event.isMessage = false) :
    event ∈ site.corpusEvents ↔ ∃ f ∈ site.kept, event = .address f.path ∨ event = .read f.path := by
  rw [corpusEvents, List.mem_append, List.mem_flatMap, kept]
  constructor
  · rintro (⟨⟨declared, new⟩, hentry, hevent⟩ | hmessage)
    · have hnew := fun f hf => mem_finds_of_mem_harvest hentry (f := f) hf
      obtain ⟨f, hf, hwhat⟩ := (mem_harvestEvents h hnew).1
        ((List.mem_append.1 hevent).resolve_left (not_mem_missingEvents h declared))
      exact ⟨f, List.mem_flatMap.2 ⟨_, hentry, hf⟩, hwhat⟩
    · obtain ⟨group, -, hgroup⟩ := List.mem_map.1 hmessage
      exact absurd hgroup.symm (Event.ne_of_isMessage h rfl)
  · rintro ⟨f, hf, hwhat⟩
    obtain ⟨⟨declared, new⟩, hentry, hmem⟩ := List.mem_flatMap.1 hf
    have hnew := fun f hf => mem_finds_of_mem_harvest hentry (f := f) hf
    exact Or.inl ⟨_, hentry,
      List.mem_append_right _ ((mem_harvestEvents h hnew).2 ⟨f, hmem, hwhat⟩)⟩

/-! ## References -/

theorem mem_checkEvents (h : event.isMessage = false) {check : ReferenceCheck} :
    event ∈ check.events ↔ event = .address check.candidate := by
  unfold ReferenceCheck.events
  rw [List.mem_cons]
  refine or_iff_left ?_
  split
  · exact List.not_mem_nil
  · exact fun hevent => Event.ne_of_isMessage h rfl (List.mem_singleton.1 hevent)
  · exact fun hevent => Event.ne_of_isMessage h rfl (List.mem_singleton.1 hevent)

/-- The addresses of every source file and of every candidate are formed, and nothing is read. -/
theorem mem_linkEvents (h : event.isMessage = false) {corpus : Corpus} :
    event ∈ site.linkEvents corpus ↔
      ∃ p ∈ site.allSources ++ (site.checks corpus).map (·.candidate), event = .address p := by
  have hmessage : ∀ message, event ∉ [Event.info .discovery message] := fun message hevent =>
    Event.ne_of_isMessage h rfl (List.mem_singleton.1 hevent)
  rw [linkEvents, List.mem_append, or_iff_left (hmessage _), List.mem_append, mem_walkEvents h,
    List.mem_flatMap]
  simp only [List.mem_singleton, mem_checkEvents h, List.mem_append, List.mem_map, or_and_right,
    exists_or, exists_exists_and_eq_and]

/-! ## Toctrees -/

/-- The documents that toctrees reach, the root document first. -/
def reached (site : Site) : List Path :=
  site.master?.toList ++ (site.allSources.flatMap site.entryChecks).filterMap (·.target)

theorem mem_entryEvents (h : event.isMessage = false) {check : EntryCheck} :
    event ∈ check.events ↔ ∃ p, check.target = some p ∧ event = .address p := by
  unfold EntryCheck.events
  split
  · rename_i p htarget
    simp [htarget]
  · rename_i htarget
    refine iff_of_false (fun hevent => Event.ne_of_isMessage h rfl (List.mem_singleton.1 hevent)) ?_
    rintro ⟨p, hp, -⟩
    rw [htarget] at hp
    cases hp

/-- Every source file is read, and the address of every document that is reached is formed. -/
theorem mem_toctreeEvents (h : event.isMessage = false) :
    event ∈ site.toctreeEvents ↔
      (∃ p ∈ site.reached, event = .address p) ∨ ∃ p ∈ site.allSources, event = .read p := by
  have hmessage : ∀ message, event ∉ [Event.info .toctree message] := fun message hevent =>
    Event.ne_of_isMessage h rfl (List.mem_singleton.1 hevent)
  rw [toctreeEvents, List.mem_append, or_iff_left (hmessage _), List.mem_append, mem_walkEvents h]
  unfold reached
  simp only [List.mem_cons, List.mem_flatMap, mem_entryEvents h, List.mem_append, List.mem_map,
    List.mem_filterMap]
  constructor
  · rintro (⟨p, hp, rfl⟩ | ⟨f, hf, rfl | ⟨check, hcheck, p, htarget, rfl⟩⟩)
    · exact Or.inl ⟨p, Or.inl hp, rfl⟩
    · exact Or.inr ⟨f, hf, rfl⟩
    · exact Or.inl ⟨p, Or.inr ⟨check, ⟨f, hf, hcheck⟩, htarget⟩, rfl⟩
  · rintro (⟨p, hp | ⟨check, ⟨f, hf, hcheck⟩, htarget⟩, rfl⟩ | ⟨f, hf, rfl⟩)
    · exact Or.inl ⟨p, hp, rfl⟩
    · exact Or.inr ⟨f, hf, Or.inr ⟨check, hcheck, p, htarget, rfl⟩⟩
    · exact Or.inr ⟨f, hf, Or.inl rfl⟩

/-! ## Orphans -/

theorem mem_orphanEvents (h : event.isMessage = false) {tracked : TextSet} :
    event ∈ site.orphanEvents tracked ↔ ∃ p ∈ site.strays, event = .address p := by
  have hmessage : ∀ message, event ∉ [Event.info .discovery message] := fun message hevent =>
    Event.ne_of_isMessage h rfl (List.mem_singleton.1 hevent)
  rw [orphanEvents, List.mem_append, or_iff_left (hmessage _), mem_walkEvents h]
  unfold strays
  refine exists_congr fun p => ?_
  rw [List.mem_filter, and_assoc]
  refine and_congr_right fun _ => ?_
  cases site.layout.contains p <;> simp

theorem mem_placeEvents (h : event.isMessage = false) {p : Path} :
    event ∈ site.placeEvents p ↔ event = .address p ∨ event = .read p := by
  unfold placeEvents
  rw [List.mem_cons, List.mem_cons]
  refine or_congr_right (or_iff_left ?_)
  exact fun hevent => Event.ne_of_isMessage h rfl (List.mem_singleton.1 hevent)

theorem orphans_subset_strays (site : Site) (tracked : TextSet) :
    site.orphans tracked ⊆ site.strays :=
  List.filter_subset_self _

theorem mem_contentsEvents (h : event.isMessage = false) {corpus : Corpus}
    {toctrees : ToctreeReport} :
    event ∈ site.contentsEvents corpus toctrees ↔ (∃ p ∈ site.strays, event = .address p) ∨
      ∃ p ∈ (site.contents corpus toctrees).orphans, event = .read p := by
  have hmessage : ∀ message, event ∉ [Event.info .toc message] := fun message hevent =>
    Event.ne_of_isMessage h rfl (List.mem_singleton.1 hevent)
  rw [contentsEvents, List.mem_append, or_iff_left (hmessage _), List.mem_append, mem_orphanEvents h,
    List.mem_flatMap]
  simp only [mem_placeEvents h]
  constructor
  · rintro (hstray | ⟨p, hp, rfl | rfl⟩)
    · exact Or.inl hstray
    · exact Or.inl ⟨p, orphans_subset_strays site _ hp, rfl⟩
    · exact Or.inr ⟨p, hp, rfl⟩
  · rintro (hstray | ⟨p, hp, rfl⟩)
    · exact Or.inl hstray
    · exact Or.inr ⟨p, hp, Or.inr rfl⟩

end Site

end DocAtlas
