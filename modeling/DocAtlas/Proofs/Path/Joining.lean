import DocAtlas.Path.Order
import DocAtlas.Proofs.Path.Trimming
import Mathlib.Data.List.Lex

/-! # Paths seen from a directory

A relative path of names only, joined to whatever directory, has its names behind the components of
that directory. Taking the directory away again gives the same path for every directory, and the order
of such paths is the order they have by themselves.

* `Path.IsInner` — the components of a path are all names
* `Path.segments_join` — the segments of a joined path
* `Path.components_join_inner` — the components of a joined path
* `Path.components_eq_nil` — only the empty path has none
* `Path.components_below_names` — the components of a path along names
* `Path.stripBase_join`, `Path.stripBase_behind` — what is left behind the directory
* `Path.le_total`, `Path.le_trans`, `Path.same_of_le` — the order of paths is total on components
* `Path.le_join` — the directory has no part in the order
-/

set_option autoImplicit false

namespace DocAtlas

/-- Behind a front with as many named segments as are dropped, only idle segments go with it. -/
theorem dropWhile_dropNamed_append (front rest : List (List Char)) :
    (Path.dropNamed (front.filterMap Component.ofSegment).length (front ++ rest)).dropWhile
      Path.isIdle = rest.dropWhile Path.isIdle := by
  induction front with
  | nil => rw [List.filterMap_nil, List.length_nil, List.nil_append, Path.dropNamed]
  | cons s front ih =>
    cases hs : Path.isIdle s with
    | true =>
      rw [List.filterMap_cons_none ((Component.ofSegment_eq_none s).2 hs), List.cons_append]
      cases hcount : (front.filterMap Component.ofSegment).length with
      | zero =>
        rw [hcount, Path.dropNamed] at ih
        rw [Path.dropNamed, List.dropWhile_cons, if_pos hs, ih]
      | succ n =>
        rw [hcount] at ih
        rw [Path.dropNamed, if_pos hs, ih]
    | false =>
      obtain ⟨c, hc⟩ := Option.ne_none_iff_exists'.1 fun hnone => by
        rw [(Component.ofSegment_eq_none s).1 hnone] at hs
        cases hs
      rw [List.filterMap_cons_some hc, List.cons_append, List.length_cons, Path.dropNamed,
        if_neg (by simp [hs]), ih]

theorem Component.key_injective : Function.Injective Component.key := by
  intro c d h
  have hchars : Function.Injective Char.toNat := fun _ _ hc => Char.toNat_inj.1 hc
  cases c <;> cases d <;> simp_all [Component.key]
  exact String.toList_inj.1 (List.map_injective_iff.2 hchars h)

namespace Path

variable {p q : Path}

/-! ## Joining -/

/-- The components of a path are all names. -/
def IsInner (p : Path) : Prop := ∀ c ∈ p.components, (c.name?).isSome = true

instance (p : Path) : Decidable p.IsInner := List.decidableBAll _ _

/-- Of a path that starts with no `/` or `.` nothing leads. -/
theorem lead_of_components (h : ∀ c ∈ p.components, c ≠ .root ∧ c ≠ .current) : p.lead = [] := by
  have hmem : ∀ c ∈ p.lead, c ≠ .root ∧ c ≠ .current := fun c hc => h c (List.mem_append_left _ hc)
  unfold Path.lead at hmem ⊢
  split at hmem
  · exact absurd rfl (hmem .root (by simp)).1
  · rename_i habsolute
    rw [if_neg habsolute]
    split at hmem
    · exact absurd rfl (hmem .current (by simp)).2
    · rename_i hdot
      rw [if_neg hdot]

theorem IsInner.lead (h : p.IsInner) : p.lead = [] :=
  lead_of_components fun c hc => by
    obtain ⟨name, hname⟩ := Option.isSome_iff_exists.1 (h c hc)
    rw [Component.name?_eq_some.1 hname]
    simp

theorem isAbsolute_of_lead (h : p.lead = []) : p.isAbsolute = false := by
  by_contra habsolute
  rw [lead_of_absolute (by simpa using habsolute)] at h
  cases h

theorem IsInner.isAbsolute (h : p.IsInner) : p.isAbsolute = false := isAbsolute_of_lead h.lead

theorem IsInner.components_eq (h : p.IsInner) :
    p.components = p.segments.filterMap Component.ofSegment := by
  rw [Path.components_eq, h.lead, List.nil_append]

/-- The segments of a joined path. An empty segment at the end of the directory makes room for it. -/
theorem segments_join (hp : p.text ≠ "") (hq : q.isAbsolute = false) :
    ∃ front, front ≠ [] ∧ (p.join q).segments = front ++ q.segments ∧
      (p.segments = front ∨ p.segments = front ++ [[]]) := by
  have htext := text_join_relative (p := p) hq
  by_cases hlast : p.text.toList.getLast? = some '/'
  · obtain ⟨text, ht⟩ := List.getLast?_eq_some_iff.1 hlast
    rw [if_pos (Or.inr hlast), ht, List.append_assoc, List.singleton_append] at htext
    refine ⟨text.splitOn '/', List.splitOn_ne_nil _ _, ?_, Or.inr ?_⟩
    · rw [segments, htext, List.splitOn_append_cons_self]
      rfl
    · rw [segments, ht, List.splitOn_append_cons_self, List.splitOn_nil]
  · rw [if_neg (by simp [hp, hlast])] at htext
    refine ⟨p.segments, List.splitOn_ne_nil _ _, ?_, Or.inl rfl⟩
    rw [segments, htext, List.splitOn_append_cons_self]
    rfl

theorem isAbsolute_join_eq (hp : p.text ≠ "") (hq : q.isAbsolute = false) :
    (p.join q).isAbsolute = p.isAbsolute := by
  have htext := text_join_relative (p := p) hq
  obtain ⟨c, rest, hc⟩ := List.exists_cons_of_ne_nil (toList_ne_of_ne (t := "") hp)
  rw [Bool.eq_iff_iff, isAbsolute_iff, isAbsolute_iff, htext, hc]
  split
  · simp
  · simp

theorem join_of_empty (hp : p.text = "") (hq : q.isAbsolute = false) : p.join q = q := by
  have htext : (p.text = "" || p.text.toList.getLast? = some '/') = true := by simp [hp]
  rw [join, if_neg (by simp [hq]), if_pos htext, hp, String.empty_append]

/-- A joined path starts as the directory does. What is behind takes the place of an idle end. -/
theorem exists_body_join (hp : p.text ≠ "") (hq : q.isAbsolute = false) :
    ∃ front last, p.body = front ++ last ∧ (∀ s ∈ last, Component.ofSegment s = none) ∧
      (p.join q).body = front ++ q.segments ∧ (p.join q).lead = p.lead := by
  obtain ⟨front, hne, hjoin, hsegments⟩ := segments_join hp hq
  obtain ⟨first, others, rfl⟩ := List.exists_cons_of_ne_nil hne
  obtain ⟨last, hlast, hidle⟩ : ∃ last, p.segments = first :: others ++ last ∧
      ∀ s ∈ last, Component.ofSegment s = none := by
    rcases hsegments with h | h
    · exact ⟨[], by simpa using h, by simp⟩
    · exact ⟨[[]], h, by simp⟩
  have habsolute := isAbsolute_join_eq hp hq
  refine ⟨if p.isAbsolute then others else first :: others, last, ?_, hidle, ?_, ?_⟩
  · rw [body, hlast]
    split <;> rfl
  · rw [body, habsolute, hjoin]
    split <;> rfl
  · rw [lead, lead, habsolute, hjoin, hlast]
    rfl

/-- What a joined path starts with and what follows, as far as the components of the directory go. -/
theorem body_join (hp : p.text ≠ "") (hq : q.isAbsolute = false) :
    ∃ front, (p.join q).body = front ++ q.segments ∧ (p.join q).lead = p.lead ∧
      p.body.filterMap Component.ofSegment = front.filterMap Component.ofSegment := by
  obtain ⟨front, last, hbody, hidle, hjoin, hlead⟩ := exists_body_join hp hq
  refine ⟨front, hjoin, hlead, ?_⟩
  rw [hbody, List.filterMap_append, List.filterMap_eq_nil_iff.2 hidle, List.append_nil]

/-- Only the empty path starts with an idle segment that is no component. -/
theorem text_of_idle {s : List Char} {rest : List (List Char)} (hlead : p.lead = [])
    (hsegments : p.segments = s :: rest) (hs : isIdle s = true) : p.text = "" := by
  have habsolute := isAbsolute_of_lead hlead
  have hdot : s ≠ ['.'] := by
    rintro rfl
    simp [lead, habsolute, hsegments] at hlead
  have hnil : s = [] := by simpa [isIdle, hdot] using hs
  subst hnil
  by_contra hne
  obtain ⟨c, text, hc⟩ := List.exists_cons_of_ne_nil (toList_ne_of_ne (t := "") hne)
  have hslash : c ≠ '/' := by
    rintro rfl
    exact Bool.false_ne_true (habsolute.symm.trans ((isAbsolute_iff p).2 ⟨text, hc⟩))
  obtain ⟨first, others, hrest⟩ := List.exists_cons_of_ne_nil (List.splitOn_ne_nil '/' text)
  rw [segments, hc, List.splitOn_cons_eq_if_modifyHead, if_neg (by simpa using hslash), hrest,
    List.modifyHead_cons] at hsegments
  cases hsegments

theorem components_eq_nil : p.components = [] ↔ p.text = "" := by
  constructor
  · intro h
    rw [components_eq, List.append_eq_nil_iff] at h
    obtain ⟨hlead, hnone⟩ := h
    obtain ⟨s, rest, hsegments⟩ := List.exists_cons_of_ne_nil
      (show p.segments ≠ [] from List.splitOn_ne_nil '/' p.text.toList)
    refine text_of_idle hlead hsegments ((Component.ofSegment_eq_none s).1 ?_)
    rw [List.filterMap_eq_nil_iff] at hnone
    exact hnone s (by simp [hsegments])
  · intro h
    obtain ⟨text⟩ := p
    obtain rfl : text = "" := h
    decide

theorem components_join_of_lead (hq : q.lead = []) :
    (p.join q).components = p.components ++ q.components := by
  have hrelative := isAbsolute_of_lead hq
  by_cases hp : p.text = ""
  · rw [join_of_empty hp hrelative, components_eq_nil.2 hp, List.nil_append]
  · obtain ⟨front, hbody, hlead, hfront⟩ := body_join hp hrelative
    rw [components, hbody, hlead, List.filterMap_append, ← hfront, q.components_eq, hq, components,
      List.nil_append, List.append_assoc]

theorem components_join_inner (hq : q.IsInner) :
    (p.join q).components = p.components ++ q.components :=
  components_join_of_lead hq.lead

theorem startsWith_join (hq : q.IsInner) : (p.join q).startsWith p = true := by
  rw [startsWith, List.isPrefixOf_iff_prefix, components_join_inner hq]
  exact List.prefix_append _ _

/-! ## Going along names -/

theorem isInner_of_isName {name : String} (h : IsName name) : (Path.mk name).IsInner := by
  have hdot : ¬ name.toList = ['.'] := toList_ne_of_ne h.2.1
  intro c hc
  rw [Path.components_eq, lead, isAbsolute_name h, segments_name h] at hc
  obtain rfl : c = .normal name := by simpa [hdot, Component.ofSegment_name h] using hc
  rfl

theorem components_name {name : String} (h : IsName name) :
    (Path.mk name).components = [.normal name] := by
  rw [(isInner_of_isName h).components_eq, segments_name h, List.filterMap_cons_some
    (Component.ofSegment_name h), List.filterMap_nil]

theorem below_concat (p : Path) (names : List String) (name : String) :
    p.below (names ++ [name]) = (p.below names).child name := by
  rw [below, below, List.foldl_append]
  rfl

/-- A name goes behind the components of every path, be it absolute or not. -/
theorem components_child_name {name : String} (h : IsName name) :
    (p.child name).components = p.components ++ [.normal name] := by
  rw [child, components_join_inner (isInner_of_isName h), components_name h]

theorem components_below_names {names : List String} (h : ∀ n ∈ names, IsName n) :
    (p.below names).components = p.components ++ names.map .normal := by
  induction names generalizing p with
  | nil => rw [below, List.foldl_nil, List.map_nil, List.append_nil]
  | cons n names ih =>
    have hbelow : ((p.child n).below names).components = _ := ih fun m hm => h m (by simp [hm])
    rw [below, List.foldl_cons, ← below, hbelow, components_child_name (h n (by simp)),
      List.append_assoc, List.singleton_append, ← List.map_cons]

theorem dropEndWhile_segments (hq : q.lead = []) :
    Text.dropEndWhile isIdle (q.segments.dropWhile isIdle) =
      Text.dropEndWhile isIdle q.segments := by
  obtain ⟨s, rest, hsegments⟩ := List.exists_cons_of_ne_nil
    (show q.segments ≠ [] from List.splitOn_ne_nil '/' q.text.toList)
  cases hs : isIdle s with
  | true =>
    have htext := text_of_idle hq hsegments hs
    rw [segments, htext]
    decide
  | false => rw [hsegments, List.dropWhile_cons, if_neg (by simp [hs])]

/-- What is left of a joined path behind the directory does not tell the directory. -/
theorem stripBase_join (hq : q.IsInner) :
    (p.join q).stripBase p = some (spell false (Text.dropEndWhile isIdle q.segments)) := by
  rw [stripBase, if_pos (startsWith_join hq)]
  by_cases hp : p.components = []
  · have hlead : trimIdle q.lead q.body = Text.dropEndWhile isIdle q.segments := by
      rw [trimIdle, if_neg (by simp [hq.lead]), body, if_neg (by simp [hq.isAbsolute])]
    rw [if_pos hp, join_of_empty (components_eq_nil.1 hp) hq.isAbsolute, hq.isAbsolute, hlead]
  · obtain ⟨front, hbody, hlead, hfront⟩ :=
      body_join (fun h => hp (components_eq_nil.2 h)) hq.isAbsolute
    have hcount : p.components.length - (p.join q).lead.length =
        (front.filterMap Component.ofSegment).length := by
      rw [hlead, components, hfront, List.length_append]
      omega
    rw [if_neg hp, hbody, hcount]
    dsimp only
    rw [dropWhile_dropNamed_append, dropEndWhile_segments hq.lead]

/-- What of a path lies behind a base does not tell how the base starts. -/
theorem stripBase_behind {base : Path} {more : List Component}
    (hmore : ∀ c ∈ more, c ≠ .root ∧ c ≠ .current) (hp : p.components = base.components ++ more) :
    ∃ segments, p.stripBase base = some (spell false segments) ∧ Trimmed segments ∧
      segments.filterMap Component.ofSegment = more := by
  have hstarts : p.startsWith base = true := by
    rw [startsWith, List.isPrefixOf_iff_prefix, hp]
    exact List.prefix_append _ _
  rw [stripBase, if_pos hstarts]
  by_cases hbase : base.components = []
  · rw [hbase, List.nil_append] at hp
    have hlead : p.lead = [] := lead_of_components (by rwa [hp])
    have hrelative := isAbsolute_of_lead hlead
    have hbody : p.body = p.segments := by rw [body, if_neg (by simp [hrelative])]
    refine ⟨Text.dropEndWhile isIdle (p.segments.dropWhile isIdle), ?_,
      Trimmed.trim fun s hs => noSlash_of_mem_body s (hbody ▸ hs), ?_⟩
    · rw [if_pos hbase, hrelative, trimIdle, if_neg (by simp [hlead]), hbody,
        dropEndWhile_segments hlead]
    · rw [filterMap_dropEndWhile_idle, filterMap_dropWhile_idle, ← hp, p.components_eq, hlead,
        List.nil_append]
  · refine ⟨_, if_neg hbase, Trimmed.trim fun s hs =>
      noSlash_of_mem_body s (mem_of_mem_dropNamed hs), ?_⟩
    have hlead : p.lead.length ≤ base.components.length := by
      have hpos := List.length_pos_iff.2 hbase
      have hone : p.lead.length ≤ 1 := by
        unfold lead
        split
        · simp
        · split <;> simp
      omega
    have hdrop := congrArg (List.drop base.components.length) hp
    rw [List.drop_left, show p.components = p.lead ++ p.body.filterMap Component.ofSegment from rfl,
      List.drop_append, List.drop_eq_nil_of_le hlead, List.nil_append] at hdrop
    rw [filterMap_dropEndWhile_idle, filterMap_dropWhile_idle, filterMap_dropNamed, hdrop]

theorem stripBase_names {base : Path} {names : List String}
    (hp : p.components = base.components ++ names.map .normal) :
    ∃ segments, p.stripBase base = some (spell false segments) ∧ Trimmed segments ∧
      segments.filterMap Component.ofSegment = names.map .normal :=
  stripBase_behind (fun c hc => by obtain ⟨name, -, rfl⟩ := List.mem_map.1 hc; simp) hp

theorem names_spell_false {segments : List (List Char)} {names : List String}
    (h : Trimmed segments) (hnames : segments.filterMap Component.ofSegment = names.map .normal) :
    (spell false segments).names = names := by
  rw [Path.names, components_spell_false h, hnames, Component.filterMap_map_normal]

/-! ## The order of paths -/

theorem key_eq_iff : p.key = q.key ↔ p.same q = true := by
  rw [same_iff, key, key, (List.map_injective_iff.2 Component.key_injective).eq_iff]

theorem le_iff : p.le q = true ↔ p.key ≤ q.key := by
  rw [le, lt, Bool.not_eq_true', decide_eq_false_iff_not, not_lt]

theorem le_total (p q : Path) : p.le q = true ∨ q.le p = true := by
  rw [le_iff, le_iff]
  exact LinearOrder.le_total p.key q.key

theorem le_trans {r : Path} (hpq : p.le q = true) (hqr : q.le r = true) : p.le r = true :=
  le_iff.2 ((le_iff.1 hpq).trans (le_iff.1 hqr))

theorem same_of_le (hpq : p.le q = true) (hqp : q.le p = true) : p.same q = true :=
  key_eq_iff.1 (le_antisymm (le_iff.1 hpq) (le_iff.1 hqp))

theorem lt_append_iff (front xs ys : List (List Nat)) : front ++ xs < front ++ ys ↔ xs < ys := by
  induction front with
  | nil => rfl
  | cons x front ih => rw [List.cons_append, List.cons_append, List.cons_lt_cons_self, ih]

/-- Paths of names are in one order wherever they are seen from. -/
theorem le_join {q' : Path} (hq : q.IsInner) (hq' : q'.IsInner) (p : Path) :
    (p.join q).le (p.join q') = q.le q' := by
  have hkey : ∀ x : Path, x.IsInner → (p.join x).key = p.key ++ x.key := by
    intro x hx
    rw [key, components_join_inner hx, List.map_append, ← key, ← key]
  rw [Bool.eq_iff_iff, le_iff, le_iff, hkey q hq, hkey q' hq', ← not_lt, ← not_lt, lt_append_iff]

end Path

end DocAtlas
