import DocAtlas.Session
import DocAtlas.Proofs.Path.Spelling

/-! # What a session remembers

Every content that is remembered is the content found in the tree, and it is one of the documents that
were read. An operation with a proper output suffix always has its value.

* `Session.mem_settleFrom`, `Session.exists_settleFrom` — what the events of an operation add to the
  memory
* `Session.ending_settle`, `Session.ending_settle_done` — what an operation ends in
* `Session.Recalls` — layout, configuration and the documents a session may remember
* `Session.Recalls.settle` — an operation keeps to that
* `Session.Recalls.content_eq` — what is remembered is what is found
-/

set_option autoImplicit false

namespace DocAtlas

/-! ## One operation after another -/

/-- Whether an operation ends in a value with a property. -/
def Ending.any {α : Type} (ending : Ending α) (p : α → Bool) : Bool :=
  match ending with
  | .done value => p value
  | _ => false

theorem Ending.any_eq_true {α : Type} {ending : Ending α} {p : α → Bool} :
    ending.any p = true ↔ ∃ value, ending = .done value ∧ p value = true := by
  cases ending with
  | done value => simp [any]
  | failed fault => simp [any]
  | aborted => simp [any]

theorem Outcome.andThen_done {α β : Type} {first : Outcome α} {next : α → Session → Outcome β}
    {value : β} (h : (first.andThen next).ending = .done value) :
    ∃ a, first.ending = .done a ∧ (next a first.session).ending = .done value := by
  unfold andThen at h
  split at h
  · rename_i a ha
    exact ⟨a, ha, h⟩
  · cases h
  · cases h

theorem Outcome.andThen_of_done {α β : Type} {first : Outcome α} {a : α}
    (next : α → Session → Outcome β) (h : first.ending = .done a) :
    (first.andThen next).ending = (next a first.session).ending ∧
      (first.andThen next).session = (next a first.session).session := by
  unfold andThen
  rw [h]
  exact ⟨rfl, rfl⟩

theorem Outcome.andThen_of_failed {α β : Type} {first : Outcome α} {fault : Fault}
    (next : α → Session → Outcome β) (h : first.ending = .failed fault) :
    (first.andThen next).ending = .failed fault := by
  unfold andThen
  rw [h]

namespace Session

variable {tree : Tree} {α : Type}

/-! ## The events of an operation -/

theorem complete_settleFrom (tree : Tree) (memory : Memory) (events : List Event) :
    (settleFrom tree true memory events).2.2 = true := by
  induction events generalizing memory with
  | nil => rfl
  | cons event rest ih =>
    cases event with
    | log entry => exact ih memory
    | read p => exact ih _
    | address p => exact ih memory

theorem mem_remember {memory : Memory} {p : Path} {entry : Path × Option String}
    (h : entry ∈ (remember tree memory p).2) : entry ∈ memory ∨ entry = (p, tree.source? p) := by
  unfold remember at h
  split at h
  · exact Or.inl h
  · rcases List.mem_append.1 h with h | h
    · exact Or.inl h
    · exact Or.inr (List.mem_singleton.1 h)

/-- What is remembered behind some events was remembered before, or one of them read it. -/
theorem mem_settleFrom {addressing : Bool} {memory : Memory} {events : List Event}
    {entry : Path × Option String} (h : entry ∈ (settleFrom tree addressing memory events).2.1) :
    entry ∈ memory ∨ ∃ p, .read p ∈ events ∧ entry = (p, tree.source? p) := by
  induction events generalizing memory with
  | nil => exact Or.inl h
  | cons event rest ih =>
    have hrest : ∀ {before : Memory}, entry ∈ (settleFrom tree addressing before rest).2.1 →
        entry ∈ before ∨ ∃ p, .read p ∈ event :: rest ∧ entry = (p, tree.source? p) := by
      intro before hmem
      rcases ih hmem with hbefore | ⟨p, hp, hentry⟩
      · exact Or.inl hbefore
      · exact Or.inr ⟨p, List.mem_cons_of_mem event hp, hentry⟩
    cases event with
    | log message => exact hrest h
    | read p =>
      rcases hrest h with hmem | hread
      · rcases mem_remember hmem with hmem | hentry
        · exact Or.inl hmem
        · exact Or.inr ⟨p, by simp, hentry⟩
      · exact Or.inr hread
    | address p =>
      rw [settleFrom] at h
      split at h
      · exact hrest h
      · exact Or.inl h

theorem subset_remember (tree : Tree) (memory : Memory) (p : Path) :
    memory ⊆ (remember tree memory p).2 := by
  unfold remember
  split
  · exact List.Subset.refl memory
  · exact List.subset_append_left memory _

theorem exists_remember (tree : Tree) (memory : Memory) (p : Path) :
    ∃ entry ∈ (remember tree memory p).2, p.same entry.1 = true := by
  unfold remember
  split
  · rename_i text hfind
    obtain ⟨entry, hentry, -⟩ := Option.map_eq_some_iff.1 hfind
    exact ⟨entry, List.mem_of_find?_eq_some hentry, by simpa using List.find?_some hentry⟩
  · exact ⟨_, List.mem_append_right _ (List.mem_singleton.2 rfl), Path.same_refl p⟩

theorem subset_settleFrom (tree : Tree) (addressing : Bool) (memory : Memory) (events : List Event) :
    memory ⊆ (settleFrom tree addressing memory events).2.1 := by
  induction events generalizing memory with
  | nil => exact List.Subset.refl memory
  | cons event rest ih =>
    cases event with
    | log message => exact ih memory
    | read p => exact List.Subset.trans (subset_remember tree memory p) (ih _)
    | address p =>
      rw [settleFrom]
      split
      · exact ih memory
      · exact List.Subset.refl memory

theorem exists_settleFrom (tree : Tree) (memory : Memory) {events : List Event} {p : Path}
    (h : .read p ∈ events) :
    ∃ entry ∈ (settleFrom tree true memory events).2.1, p.same entry.1 = true := by
  induction events generalizing memory with
  | nil => cases h
  | cons event rest ih =>
    have hrest : Event.read p ≠ event → .read p ∈ rest := fun hne =>
      (List.mem_cons.1 h).resolve_left hne
    cases event with
    | log message => exact ih memory (hrest nofun)
    | address q => exact ih memory (hrest nofun)
    | read q =>
      by_cases hq : p = q
      · subst hq
        obtain ⟨entry, hentry, hsame⟩ := exists_remember tree memory p
        exact ⟨entry, subset_settleFrom tree true _ rest hentry, hsame⟩
      · exact ih _ (hrest fun heq => hq (Event.read.inj heq))

/-- What is remembered of a document stays, and what is not is found, if no event reads its components
otherwise. -/
theorem getD_find?_settleFrom {addressing : Bool} {memory : Memory} {events : List Event} {p : Path}
    (h : ∀ q, .read q ∈ events → p.same q = true → tree.source? q = tree.source? p) :
    ((settleFrom tree addressing memory events).2.1.find? p).getD (tree.source? p) =
      (memory.find? p).getD (tree.source? p) := by
  induction events generalizing memory with
  | nil => rfl
  | cons event rest ih =>
    have hrest : ∀ q, .read q ∈ rest → p.same q = true → tree.source? q = tree.source? p :=
      fun q hq => h q (List.mem_cons_of_mem event hq)
    cases event with
    | log message => exact ih hrest
    | read q =>
      have hq := h q List.mem_cons_self
      rw [settleFrom]
      refine (ih hrest).trans ?_
      unfold remember
      split
      · rfl
      · -- nothing was remembered of `q`, and `p` may have its components
        unfold Memory.find?
        rw [List.find?_append]
        cases List.find? (fun entry => p.same entry.1) memory with
        | some entry => rfl
        | none =>
          cases hsame : p.same q with
          | true => simp [hsame, hq hsame]
          | false => simp [hsame]
    | address q =>
      rw [settleFrom]
      split
      · exact ih hrest
      · rfl

/-- Without addresses the events end at the first. -/
theorem not_complete_of_address (tree : Tree) (memory : Memory) {events : List Event} {p : Path}
    (h : .address p ∈ events) : (settleFrom tree false memory events).2.2 = false := by
  induction events generalizing memory with
  | nil => cases h
  | cons event rest ih =>
    have hrest : Event.address p ≠ event → .address p ∈ rest := fun hne =>
      (List.mem_cons.1 h).resolve_left hne
    cases event with
    | log entry => exact ih memory (hrest nofun)
    | read q => exact ih _ (hrest nofun)
    | address q => rfl

/-! ## What an operation ends in -/

theorem ending_settle {session : Session} (h : canAddress session.config = true)
    (events : List Event) (value : α) : (session.settle tree events value).ending = .done value := by
  have hcomplete := complete_settleFrom tree session.memory events
  unfold settle
  rw [h]
  simp only [hcomplete, if_true]

theorem ending_settle_done {session : Session} {events : List Event} {value v : α}
    (h : (session.settle tree events value).ending = .done v) : v = value := by
  unfold settle at h
  simp only at h
  split at h
  · cases h
    rfl
  · cases h

/-- An operation that forms an address and is done can form addresses. -/
theorem canAddress_of_done {session : Session} {events : List Event} {value v : α} {p : Path}
    (h : (session.settle tree events value).ending = .done v) (hp : .address p ∈ events) :
    canAddress session.config = true := by
  by_contra haddress
  have hincomplete := not_complete_of_address tree session.memory hp
  unfold settle at h
  rw [Bool.not_eq_true] at haddress
  rw [haddress] at h
  simp only [hincomplete, Bool.false_eq_true, if_false] at h
  cases h

/-- An operation leaves the content of a document as it was, if it reads none with its components
otherwise. -/
theorem content_settle (session : Session) {events : List Event} {p : Path}
    (h : ∀ q, .read q ∈ events → p.same q = true → tree.source? q = tree.source? p) (value : α) :
    (session.settle tree events value).session.content tree p = session.content tree p :=
  getD_find?_settleFrom h

theorem layout_settle (session : Session) (events : List Event) (value : α) :
    (session.settle tree events value).session.layout = session.layout := by
  simp only [settle]

theorem config_settle (session : Session) (events : List Event) (value : α) :
    (session.settle tree events value).session.config = session.config := by
  simp only [settle]

/-! ## What a session may remember -/

/-- The session has the given layout and configuration, and it remembers nothing but contents found
in the tree, of documents with a property. -/
structure Recalls (session : Session) (tree : Tree) (layout : Layout) (config : Config)
    (known : Path → Prop) : Prop where
  layout_eq : session.layout = layout
  config_eq : session.config = config
  found : ∀ entry ∈ session.memory, entry.2 = tree.source? entry.1
  known : ∀ entry ∈ session.memory, known entry.1

variable {session : Session} {layout : Layout} {config : Config} {known : Path → Prop}

theorem Recalls.settle (h : session.Recalls tree layout config known) {events : List Event}
    (hread : ∀ p, .read p ∈ events → known p) (value : α) :
    (session.settle tree events value).session.Recalls tree layout config known where
  layout_eq := by rw [layout_settle, h.layout_eq]
  config_eq := by rw [config_settle, h.config_eq]
  found := by
    intro entry hentry
    rcases mem_settleFrom hentry with hmem | ⟨p, -, rfl⟩
    · exact h.found entry hmem
    · rfl
  known := by
    intro entry hentry
    rcases mem_settleFrom hentry with hmem | ⟨p, hp, rfl⟩
    · exact h.known entry hmem
    · exact hread p hp

theorem recalls_fresh (tree : Tree) (layout : Layout) (config : Config) (known : Path → Prop) :
    (Session.mk layout config []).Recalls tree layout config known where
  layout_eq := rfl
  config_eq := rfl
  found := by simp
  known := by simp

theorem Recalls.mono (h : session.Recalls tree layout config known) {other : Path → Prop}
    (hknown : ∀ p, known p → other p) : session.Recalls tree layout config other where
  layout_eq := h.layout_eq
  config_eq := h.config_eq
  found := h.found
  known := fun entry hentry => hknown entry.1 (h.known entry hentry)

theorem Recalls.content_of_find? (h : session.Recalls tree layout config known) {p : Path}
    {entry : Path × Option String}
    (hfind : List.find? (fun entry => p.same entry.1) session.memory = some entry) :
    session.content tree p = tree.source? entry.1 ∧ known entry.1 ∧ p.same entry.1 = true := by
  have hmem := List.mem_of_find?_eq_some hfind
  refine ⟨?_, h.known entry hmem, by simpa using List.find?_some hfind⟩
  rw [content, Memory.find?, hfind, Option.map_some, Option.getD_some, h.found entry hmem]

/-- A document is remembered as it is found, if none with its components may be remembered that reads
otherwise. -/
theorem Recalls.content_of_reads (h : session.Recalls tree layout config known) {p : Path}
    (hp : ∀ q, known q → p.same q = true → tree.source? q = tree.source? p) :
    session.content tree p = tree.source? p := by
  cases hfind : List.find? (fun entry => p.same entry.1) session.memory with
  | none => rw [content, Memory.find?, hfind, Option.map_none, Option.getD_none]
  | some entry =>
    obtain ⟨hcontent, hknown, hsame⟩ := h.content_of_find? hfind
    rw [hcontent, hp entry.1 hknown hsame]

/-- A document that is remembered has the content of those with its components that may be. -/
theorem Recalls.content_of_mem (h : session.Recalls tree layout config known) {p : Path}
    (hmem : ∃ entry ∈ session.memory, p.same entry.1 = true) {text : Option String}
    (hp : ∀ q, known q → p.same q = true → tree.source? q = text) :
    session.content tree p = text := by
  cases hfind : List.find? (fun entry => p.same entry.1) session.memory with
  | none =>
    obtain ⟨entry, hentry, hsame⟩ := hmem
    exact absurd hsame (List.find?_eq_none.1 hfind entry hentry)
  | some entry =>
    obtain ⟨hcontent, hknown, hsame⟩ := h.content_of_find? hfind
    rw [hcontent, hp entry.1 hknown hsame]

/-- A document is remembered as it is found, if none with its components may be remembered as
another. -/
theorem Recalls.content_eq (h : session.Recalls tree layout config known) {p : Path}
    (hp : ∀ q, known q → p.same q = true → q = p) : session.content tree p = tree.source? p :=
  h.content_of_reads fun q hq hsame => by rw [hp q hq hsame]

theorem Recalls.canAddress (h : session.Recalls tree layout config known)
    (hsuffix : '/' ∉ config.outputSuffix.toList) : canAddress session.config = true := by
  rw [h.config_eq]
  simpa [Session.canAddress] using hsuffix

end Session

end DocAtlas
