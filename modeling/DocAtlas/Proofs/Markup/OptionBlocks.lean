import DocAtlas.Markup.Toctree
import DocAtlas.Proofs.Text.Occurrences
import DocAtlas.Proofs.Text.Runs
import Mathlib.Data.List.Flatten

/-! # Fences and their option blocks

The body of a fence goes from the line that opens it to the first line that is its mark, or to the end.
Options may stand at the top of a body, between two separators. The lines of a fence are read with less:
wherever a separator stands, what follows it up to the next one is passed over, and so are the separators
themselves. Both agree for bodies without further separators, and for no others.

* `Toctree.Opens`, `Toctree.HasFences` — the lines that open a fence, and the bodies of all fences
* `Toctree.exists_fences`, `Toctree.HasFences.unique` — each text has its fences
* `Toctree.outside`, `Toctree.fenceTargets_eq` — the lines of a body that are read
* `Toctree.withoutOptions`, `Toctree.outside_withoutOptions` — the lines that are not options
* `Toctree.entries_without_options_iff` — when all of these are read
-/

set_option autoImplicit false

namespace DocAtlas

namespace Toctree

open Text (lines trim)

variable {line mark : List Char} {body behind rest : List (List Char)}

/-! ## Fences -/

/-- A line opens a fence that `mark` closes. -/
structure Opens (mark line : List Char) : Prop where
  text : ∃ more, trim line = mark ++ "{toctree}".toList ++ more
  wide : 3 ≤ mark.length
  alike : (∀ c ∈ mark, c = '\x60') ∨ ∀ c ∈ mark, c = ':'

/-- The bodies of all fences in lines, from top to bottom. What stands behind a body starts with the line
that closes the fence, or is empty. -/
inductive HasFences : List (List Char) → List (List (List Char)) → Prop
  | nil : HasFences [] []
  | text {line : List Char} {rest : List (List Char)} {bodies : List (List (List Char))}
      (hline : ∀ mark, ¬ Opens mark line) (hrest : HasFences rest bodies) :
      HasFences (line :: rest) bodies
  | fence {line mark : List Char} {body behind : List (List Char)} {bodies : List (List (List Char))}
      (hopens : Opens mark line) (hbody : ∀ other ∈ body, trim other ≠ mark)
      (hclose : ∀ close ∈ behind.head?, trim close = mark) (hbehind : HasFences behind.tail bodies) :
      HasFences (line :: (body ++ behind)) (body :: bodies)

/-- A mark has no brace, so nothing before its end can be taken for the word behind it. -/
theorem fenceMark?_eq_some_iff : fenceMark? line = some mark ↔ Opens mark line := by
  have hmark : fenceMark? line = some mark ↔
      Text.before? "{toctree}".toList (trim line) = some mark ∧ 3 ≤ mark.length ∧
        (mark.all (· == '\x60') = true ∨ mark.all (· == ':') = true) := by
    unfold fenceMark?
    cases Text.before? "{toctree}".toList (trim line) with
    | none => simp
    | some found =>
      simp only [Option.ite_none_right_eq_some, Option.some.injEq]
      constructor
      · rintro ⟨hwide, rfl⟩
        exact ⟨rfl, hwide⟩
      · rintro ⟨rfl, hwide⟩
        exact ⟨hwide, rfl⟩
  rw [hmark, Text.before?_eq_some_iff]
  simp only [List.all_eq_true, beq_iff_eq]
  constructor
  · rintro ⟨⟨⟨more, hmore⟩, -⟩, hwide, halike⟩
    exact ⟨⟨more, hmore.symm⟩, hwide, halike⟩
  · rintro ⟨⟨more, hmore⟩, hwide, halike⟩
    refine ⟨⟨⟨more, hmore.symm⟩, fun place hplace hword => ?_⟩, hwide, halike⟩
    have hbrace : '{' ∈ mark := by
      rw [hmore, List.append_assoc, List.drop_append_of_le_length (Nat.le_of_lt hplace),
        List.drop_eq_getElem_cons hplace, List.cons_append,
        show "{toctree}".toList = '{' :: "toctree\x7d".toList from rfl] at hword
      obtain ⟨hbrace, -⟩ := List.cons_prefix_cons.1 hword
      rw [hbrace]
      exact List.getElem_mem hplace
    rcases halike with halike | halike <;> exact absurd (halike '{' hbrace) (by decide)

theorem Opens.unique {mark' : List Char} (h : Opens mark line) (h' : Opens mark' line) :
    mark = mark' := by
  rw [← fenceMark?_eq_some_iff] at h h'
  exact Option.some.inj (h.symm.trans h')

/-- The line that closes a fence is the first one with its mark. -/
theorem takeWhile_body (hbody : ∀ other ∈ body, trim other ≠ mark)
    (hclose : ∀ close ∈ behind.head?, trim close = mark) :
    (body ++ behind).takeWhile (fun other => trim other != mark) = body :=
  takeWhile_append_of_head (fun other hother => by simpa using hbody other hother)
    fun close hhead => by simpa using hclose close hhead

theorem exists_body (mark : List Char) (rest : List (List Char)) :
    ∃ body behind, rest = body ++ behind ∧ (∀ other ∈ body, trim other ≠ mark) ∧
      ∀ close ∈ behind.head?, trim close = mark := by
  refine ⟨rest.takeWhile fun other => trim other != mark, rest.dropWhile fun other => trim other != mark,
    List.takeWhile_append_dropWhile.symm, fun other hother => ?_, fun close hclose => ?_⟩
  · simpa using List.mem_takeWhile_imp hother
  · simpa using head?_dropWhile_not hclose

theorem exists_fences (all : List (List Char)) : ∃ bodies, HasFences all bodies := by
  induction hlength : all.length using Nat.strongRecOn generalizing all with
  | ind n ih =>
    subst hlength
    cases all with
    | nil => exact ⟨[], .nil⟩
    | cons line rest =>
      by_cases hline : ∃ mark, Opens mark line
      · obtain ⟨mark, hopens⟩ := hline
        obtain ⟨body, behind, rfl, hbody, hclose⟩ := exists_body mark rest
        have hshort : behind.tail.length < (line :: (body ++ behind)).length := by
          rw [List.length_tail, List.length_cons, List.length_append]
          omega
        obtain ⟨bodies, hbodies⟩ := ih _ hshort behind.tail rfl
        exact ⟨body :: bodies, .fence hopens hbody hclose hbodies⟩
      · obtain ⟨bodies, hbodies⟩ := ih rest.length (by simp) rest rfl
        exact ⟨bodies, .text (fun mark hopens => hline ⟨mark, hopens⟩) hbodies⟩

theorem HasFences.unique {all : List (List Char)} {bodies bodies' : List (List (List Char))}
    (h : HasFences all bodies) (h' : HasFences all bodies') : bodies = bodies' := by
  induction h generalizing bodies' with
  | nil =>
    cases h'
    rfl
  | text hline _ ih =>
    cases h' with
    | text _ hrest' => exact ih hrest'
    | fence hopens => exact absurd hopens (hline _)
  | @fence line mark body behind bodies hopens hbody hclose _ ih =>
    generalize hrest : body ++ behind = rest at h'
    cases h' with
    | text hline => exact absurd hopens (hline _)
    | @fence _ mark' body' behind' bodies' hopens' hbody' hclose' hbehind' =>
      obtain rfl := hopens.unique hopens'
      have heq : body = body' := by
        rw [← takeWhile_body hbody hclose, hrest, takeWhile_body hbody' hclose']
      subst heq
      rw [List.append_cancel_left_eq] at hrest
      subst hrest
      rw [ih hbehind']

/-! ## Lines that are read -/

/-- Whether a line separates options from the rest of a body. -/
def isSeparator (line : List Char) : Bool := trim line == ['-', '-', '-']

/-- The lines of a body outside every block that is opened by one separator and closed by the next. -/
def outside : (inOptions : Bool) → List (List Char) → List (List Char)
  | _, [] => []
  | inOptions, line :: rest =>
    if isSeparator line then outside (!inOptions) rest
    else if inOptions then outside true rest
    else line :: outside false rest

theorem fenceTargets_inside (inOptions : Bool) (hbody : ∀ other ∈ body, trim other ≠ mark)
    (hclose : ∀ close ∈ behind.head?, trim close = mark) :
    fenceTargets (.inside mark inOptions) (body ++ behind) =
      (outside inOptions body).filterMap target? ++ fenceTargets .outside behind.tail := by
  induction body generalizing inOptions with
  | nil =>
    cases behind with
    | nil => rfl
    | cons close behind => simp [fenceTargets, outside, hclose close rfl]
  | cons line body ih =>
    have hline := hbody line List.mem_cons_self
    have hrest := fun inOptions => ih inOptions fun other hother => hbody other (by simp [hother])
    rw [List.cons_append, fenceTargets, if_neg hline, outside]
    by_cases hseparator : trim line = ['-', '-', '-']
    · simp [isSeparator, hseparator, hrest]
    · cases inOptions with
      | true => simp [isSeparator, hseparator, hrest]
      | false => cases htarget : target? line <;> simp [isSeparator, hseparator, htarget, hrest]

theorem fenceTargets_eq {all : List (List Char)} {bodies : List (List (List Char))}
    (h : HasFences all bodies) :
    fenceTargets .outside all = bodies.flatMap fun body => (outside false body).filterMap target? := by
  induction h with
  | nil => rfl
  | @text line rest bodies hline _ ih =>
    have hnone : fenceMark? line = none :=
      Option.eq_none_iff_forall_ne_some.2 fun mark hmark => hline mark (fenceMark?_eq_some_iff.1 hmark)
    rw [fenceTargets, hnone]
    exact ih
  | fence hopens hbody hclose _ ih =>
    rw [fenceTargets, fenceMark?_eq_some_iff.2 hopens, List.flatMap_cons, ← ih]
    exact fenceTargets_inside false hbody hclose

/-! ## Options at the top -/

/-- The lines of a body but for a block of options. It starts with a separator, before which there are
blank lines at most, and ends with the next separator or with the body. -/
def withoutOptions (body : List (List Char)) : List (List Char) :=
  match body.dropWhile fun line => (trim line).isEmpty with
  | [] => body
  | first :: rest =>
    if isSeparator first then
      (body.takeWhile fun line => (trim line).isEmpty) ++ (rest.dropWhile (!isSeparator ·)).tail
    else body

theorem outside_append_of_forall {front : List (List Char)}
    (h : ∀ line ∈ front, isSeparator line = false) (rest : List (List Char)) :
    outside false (front ++ rest) = front ++ outside false rest := by
  induction front with
  | nil => rfl
  | cons line front ih =>
    rw [List.cons_append, outside, h line List.mem_cons_self, List.cons_append,
      ih fun other hother => h other (by simp [hother])]
    rfl

theorem outside_of_inside (body : List (List Char)) :
    outside true body = outside false (body.dropWhile (!isSeparator ·)).tail := by
  induction body with
  | nil => rfl
  | cons line rest ih => cases hline : isSeparator line <;> simp [outside, hline, ih]

theorem outside_withoutOptions (body : List (List Char)) :
    outside false (withoutOptions body) = outside false body := by
  unfold withoutOptions
  split
  · rfl
  · rename_i first rest hbody
    split
    · rename_i hfirst
      have hblank : ∀ line ∈ body.takeWhile fun line => (trim line).isEmpty,
          isSeparator line = false := by
        intro line hline
        have hempty := List.mem_takeWhile_imp hline
        rw [List.isEmpty_iff] at hempty
        simp [isSeparator, hempty]
      have hsplit : outside false body =
          outside false ((body.takeWhile fun line => (trim line).isEmpty) ++ first :: rest) := by
        rw [← hbody, List.takeWhile_append_dropWhile]
      rw [hsplit, outside_append_of_forall hblank, outside_append_of_forall hblank, outside,
        if_pos hfirst]
      exact congrArg _ (outside_of_inside rest).symm
    · rfl

/-! ## Separators that are not read -/

theorem target?_of_isSeparator (h : isSeparator line = true) : target? line = some ['-', '-', '-'] := by
  rw [isSeparator, beq_iff_eq] at h
  unfold target?
  rw [h]
  rfl

theorem outside_sublist (inOptions : Bool) (body : List (List Char)) :
    (outside inOptions body).Sublist body := by
  induction body generalizing inOptions with
  | nil => exact List.Sublist.slnil
  | cons line rest ih =>
    rw [outside]
    split
    · exact (ih _).cons line
    · split
      · exact (ih true).cons line
      · exact (ih false).cons_cons line

/-- Each separator is a line with a target that is not read. -/
theorem length_targets_outside (inOptions : Bool) (body : List (List Char)) :
    ((outside inOptions body).filterMap target?).length + body.countP isSeparator ≤
      (body.filterMap target?).length := by
  induction body generalizing inOptions with
  | nil => exact Nat.le_refl 0
  | cons line rest ih =>
    cases hline : isSeparator line with
    | true =>
      have hrest := ih (!inOptions)
      rw [outside, if_pos hline, List.countP_cons_of_pos hline,
        List.filterMap_cons_some (target?_of_isSeparator hline), List.length_cons]
      omega
    | false =>
      have hrest := ih inOptions
      have hplain : ¬ isSeparator line = true := by simp [hline]
      rw [outside, if_neg hplain, List.countP_cons_of_neg hplain]
      cases inOptions with
      | true =>
        have hmore := ((List.sublist_cons_self line rest).filterMap target?).length_le
        rw [if_pos rfl]
        omega
      | false =>
        rw [if_neg Bool.false_ne_true]
        cases htarget : target? line with
        | none =>
          rwa [List.filterMap_cons_none htarget, List.filterMap_cons_none htarget]
        | some target =>
          rw [List.filterMap_cons_some htarget, List.filterMap_cons_some htarget, List.length_cons,
            List.length_cons]
          omega

theorem targets_outside_eq_iff (body : List (List Char)) :
    (outside false body).filterMap target? = body.filterMap target? ↔
      ∀ line ∈ body, isSeparator line = false := by
  constructor
  · intro h line hline
    have hlength := length_targets_outside false body
    rw [h] at hlength
    have hcount : body.countP isSeparator = 0 := by omega
    simpa using List.countP_eq_zero.1 hcount line hline
  · intro h
    have heq := outside_append_of_forall h []
    rw [List.append_nil, outside, List.append_nil] at heq
    rw [heq]

theorem flatMap_eq_flatMap_iff {α β : Type} {f g : α → List β} {xs : List α}
    (h : ∀ x ∈ xs, (f x).Sublist (g x)) : xs.flatMap f = xs.flatMap g ↔ ∀ x ∈ xs, f x = g x := by
  constructor
  · intro heq
    induction xs with
    | nil => simp
    | cons x xs ih =>
      have hx := h x List.mem_cons_self
      have hxs := fun y hy => h y (List.mem_cons_of_mem x hy)
      rw [List.flatMap_cons, List.flatMap_cons] at heq
      have hrest := (List.Sublist.flatMap_right xs hxs).length_le
      have hlength := congrArg List.length heq
      rw [List.length_append, List.length_append] at hlength
      have hfirst : f x = g x := hx.eq_of_length (by have := hx.length_le; omega)
      rw [hfirst, List.append_cancel_left_eq] at heq
      exact List.forall_mem_cons.2 ⟨hfirst, ih hxs heq⟩
  · exact List.flatMap_congr

/-! ## Entries -/

/-- The entries of a Markdown document are read fence by fence, from the lines outside every block between
two separators. All lines but the options at the top of a fence are read exactly if none of them is a
separator. -/
theorem entries_without_options_iff (content : String) :
    ∃ bodies, (∀ other, HasFences (lines content.toList) other ↔ other = bodies) ∧
      entries .markdown content =
        (bodies.flatMap fun body => (outside false body).filterMap target?).map String.ofList ∧
      (entries .markdown content =
          (bodies.flatMap fun body => (withoutOptions body).filterMap target?).map String.ofList ↔
        ∀ body ∈ bodies, ∀ line ∈ withoutOptions body, isSeparator line = false) := by
  obtain ⟨bodies, hbodies⟩ := exists_fences (lines content.toList)
  have hentries : entries .markdown content =
      (bodies.flatMap fun body => (outside false body).filterMap target?).map String.ofList :=
    congrArg _ (fenceTargets_eq hbodies)
  have hsublist : ∀ body ∈ bodies, ((outside false body).filterMap target?).Sublist
      ((withoutOptions body).filterMap target?) := by
    intro body _
    rw [← outside_withoutOptions]
    exact (outside_sublist false (withoutOptions body)).filterMap target?
  refine ⟨bodies, fun other => ⟨fun h => h.unique hbodies, fun h => h ▸ hbodies⟩, hentries, ?_⟩
  rw [hentries, List.map_inj_right fun _ _ h => String.ofList_injective h,
    flatMap_eq_flatMap_iff hsublist]
  refine forall₂_congr fun body _ => ?_
  rw [← outside_withoutOptions, targets_outside_eq_iff]

/-- Behind the options at the top, a separator opens a block once more, and the entry in it is lost. -/
theorem entry_behind_separator_lost :
    HasFences (lines "```{toctree}\n---\nmaxdepth: 2\n---\ninstall\n---\nusage\n```\n".toList)
        [["---", "maxdepth: 2", "---", "install", "---", "usage"].map String.toList] ∧
      withoutOptions (["---", "maxdepth: 2", "---", "install", "---", "usage"].map String.toList) =
        ["install", "---", "usage"].map String.toList ∧
      (["install", "---", "usage"].map String.toList).filterMap target? =
        ["install", "---", "usage"].map String.toList ∧
      entries .markdown "```{toctree}\n---\nmaxdepth: 2\n---\ninstall\n---\nusage\n```\n" =
        ["install"] := by
  have hlines : lines "```{toctree}\n---\nmaxdepth: 2\n---\ninstall\n---\nusage\n```\n".toList =
      "```{toctree}".toList ::
        (["---", "maxdepth: 2", "---", "install", "---", "usage"].map String.toList ++
          ["```".toList]) := by decide +kernel
  have hopens : Opens "```".toList "```{toctree}".toList :=
    fenceMark?_eq_some_iff.1 (by decide +kernel)
  refine ⟨?_, by decide +kernel, by decide +kernel, by decide +kernel⟩
  rw [hlines]
  exact .fence hopens (by decide +kernel) (by decide +kernel) .nil

end Toctree

end DocAtlas
